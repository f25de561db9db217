import RouteCascade.Net.Address

/-!
# Server names

The names under which a server may be asked for in a secure handshake: DNS names and numeric
addresses. A DNS name is read one character at a time by a small machine that remembers how long the
current label is and whether it holds only digits so far.
-/
namespace RouteCascade.Net

inductive ServerName where
  | dns (name : String)
  | ip (address : Ip)
  deriving DecidableEq

namespace ServerName

/-- What the part of the current label before the next character looks like; lengths count the
characters of the label. -/
inductive LabelState where
  /-- Nothing read yet. -/
  | start
  /-- Just after a dot. -/
  | next
  /-- Digits only. -/
  | numeric (length : Nat)
  /-- Just after the dot that ends a label of digits only. -/
  | nextAfterNumeric
  /-- A label that may end here. -/
  | word (length : Nat)
  /-- A label that ends in a hyphen so far. -/
  | hyphen (length : Nat)
  deriving DecidableEq, Repr

def maxLabel : Nat := 63

def maxName : Nat := 253

/-- A letter or an underscore. -/
def isLetter (c : Char) : Bool :=
  ('a' ≤ c && c ≤ 'z') || ('A' ≤ c && c ≤ 'Z') || c == '_'

def isDigit (c : Char) : Bool := '0' ≤ c && c ≤ '9'

/-- Starts a label: with a letter, an underscore or a digit. -/
def LabelState.begin (c : Char) : Option LabelState :=
  if isDigit c then some (.numeric 1)
  else if isLetter c then some (.word 1)
  else none

/-- Continues a label of `length` characters; `numeric` tells whether it is all digits. -/
def LabelState.continue (numeric : Bool) (length : Nat) (c : Char) : Option LabelState :=
  if maxLabel ≤ length then none
  else if isDigit c then some (if numeric then .numeric (length + 1) else .word (length + 1))
  else if isLetter c then some (.word (length + 1))
  else if c = '-' then some (.hyphen (length + 1))
  else none

def LabelState.step (s : LabelState) (c : Char) : Option LabelState :=
  if c = '.' then
    match s with
    | .word _ => some .next
    | .numeric _ => some .nextAfterNumeric
    | _ => none
  else
    match s with
    | .start | .next | .nextAfterNumeric => begin c
    | .numeric n => LabelState.continue true n c
    | .word n | .hyphen n => LabelState.continue false n c

/-- The name may end here: it is not empty, does not end in a hyphen, and its last label is not all
digits. -/
def LabelState.mayEnd : LabelState → Bool
  | .word _ | .next => true
  | _ => false

def isDns (s : String) : Bool :=
  if maxName < s.utf8ByteSize then false else
  match s.toList.foldlM LabelState.step .start with
  | some st => st.mayEnd
  | none => false

/-- Reads a server name; a text that is neither a DNS name nor an address is none. -/
def parse? (s : String) : Option ServerName :=
  if isDns s then some (.dns s) else (Ip.parse? s).map .ip

def invalidText : String := "invalid dns name"

def debugText : ServerName → String
  | .dns n => s!"DnsName(\"{n}\")"
  | .ip (.v4 a) => s!"IpAddress(V4(Ipv4Addr([{a.a}, {a.b}, {a.c}, {a.d}])))"
  | .ip (.v6 a) =>
    "IpAddress(V6(Ipv6Addr([" ++ String.intercalate ", " (a.octets.map toString) ++ "])))"

end ServerName

end RouteCascade.Net
