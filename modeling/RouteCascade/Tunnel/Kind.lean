import RouteCascade.Failure
import RouteCascade.Text.Ascii

/-!
# Kinds of tunnels

The protocols that a tunnel may speak to its gateway.
-/
namespace RouteCascade.Tunnel

open Text

/-- The protocol spoken to a gateway. -/
inductive Kind where
  /-- An HTTP proxy that accepts `CONNECT`. -/
  | http
  /-- A SOCKS version 5 proxy. -/
  | socks5
  deriving DecidableEq, Repr

namespace Kind

def text : Kind → String
  | http => "HTTP"
  | socks5 => "SOCKS5"

/-- The capability that a server lists if the kind can reach it without a handshake. -/
def capability : Kind → String
  | http => "HTTP"
  | socks5 => "SOCKS5"

/-- The small letter of a character as far as the names of kinds go. Outside ASCII only the Kelvin
sign has a small letter in ASCII. -/
def smallLetter (c : Char) : Char := if c.toNat = 0x212A then 'k' else lowerChar c

/-- The kind of a configured name, whatever the case of its letters. -/
def parse? (s : String) : Option Kind :=
  let name := String.ofList (s.toList.map smallLetter)
  if name = "http" ∨ name = "https-connect" then some http
  else if name = "socks5" ∨ name = "socks" then some socks5
  else none

def unknown (s : String) : Failure := ⟨.config, s!"Unknown transport type: {s}"⟩

def parse (s : String) : Except Failure Kind :=
  match parse? s with
  | some k => .ok k
  | none => .error (unknown s)

end Kind

end RouteCascade.Tunnel
