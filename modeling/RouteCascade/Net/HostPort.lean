import RouteCascade.Text.Ascii

/-!
# Host and port

A host and a port as one text, and the other way round. An address with colons is put in square
brackets when it is written; when a text is read, the port stands after the last colon and any
number of brackets around the host is dropped.
-/
namespace RouteCascade.Net

open Text

abbrev Port := UInt16

/-- Drops the opening brackets in front and the closing brackets at the end. -/
def stripBrackets (host : List Char) : List Char :=
  (((host.dropWhile (· = '[')).reverse).dropWhile (· = ']')).reverse

/-- A host and a port as one text. A host that holds a colon and does not start with a bracket is
enclosed in brackets. -/
def hostPort (host : String) (port : Port) : String :=
  if host.toList.contains ':' && host.toList.head? != some '[' then s!"[{host}]:{port}"
  else s!"{host}:{port}"

inductive HostPortFault where
  | missingPort (text : String)
  | invalidPort (text : String)
  | missingHost (text : String)
  deriving DecidableEq, Repr

def HostPortFault.message : HostPortFault → String
  | missingPort s => s!"Missing port in {s}"
  | invalidPort s => s!"Invalid port in {s}"
  | missingHost s => s!"Missing host in {s}"

/-- Reads a host and a port. The port is a decimal number of sixteen bits, an optional plus sign
allowed. -/
def parseHostPort (text : String) : Except HostPortFault (String × Port) :=
  match splitLast ':' text.toList with
  | none => .error (.missingPort text)
  | some (host, port) =>
    match boundedDecimal? 16 port with
    | none => .error (.invalidPort text)
    | some p =>
      match stripBrackets host with
      | [] => .error (.missingHost text)
      | h => .ok (String.ofList h, UInt16.ofNat p)

end RouteCascade.Net
