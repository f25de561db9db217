import RouteCascade.Tunnel.Socks5

/-!
# Reading what a SOCKS client sends

The server's side of version 5 of SOCKS, as far as reading goes: the offer of methods, the user name and
password, and the request. Each reader takes one message off the front of some bytes.
-/
namespace RouteCascade.Tunnel.Socks5

open Text Net

inductive Destination where
  | v4 (octets : Bytes)
  | v6 (octets : Bytes)
  | name (bytes : Bytes)
  deriving DecidableEq, Repr

structure Requested where
  command : UInt8
  destination : Destination
  port : Nat
  deriving DecidableEq, Repr

def take (n : Nat) (s : Bytes) : Option (Bytes × Bytes) :=
  if s.length < n then none else some (s.take n, s.drop n)

/-- Takes bytes with their number in front. -/
def takeCounted : Bytes → Option (Bytes × Bytes)
  | [] => none
  | n :: s => take n.toNat s

def takeGreeting : Bytes → Option (Bytes × Bytes)
  | v :: s => if v = version then takeCounted s else none
  | [] => none

def takePassword : Bytes → Option ((Bytes × Bytes) × Bytes)
  | v :: s =>
    if v ≠ 1 then none else do
      let (name, s) ← takeCounted s
      let (word, s) ← takeCounted s
      pure ((name, word), s)
  | [] => none

def takeDestination (type : UInt8) (s : Bytes) : Option (Destination × Bytes) :=
  if type = 1 then (take 4 s).map fun (a, s) => (.v4 a, s)
  else if type = 4 then (take 16 s).map fun (a, s) => (.v6 a, s)
  else if type = 3 then (takeCounted s).map fun (a, s) => (.name a, s)
  else none

def takeRequest : Bytes → Option (Requested × Bytes)
  | v :: command :: _ :: type :: s =>
    if v ≠ version then none else do
      let (destination, s) ← takeDestination type s
      match s with
      | high :: low :: s => pure (⟨command, destination, high.toNat * 256 + low.toNat⟩, s)
      | _ => none
  | _ => none

/-- The groups that octets make up, two by two. -/
def groupsOf : Bytes → List UInt16
  | high :: low :: s => Address.pair high low :: groupsOf s
  | _ => []

/-- The host that a destination names, if its bytes are text. -/
def Destination.host? : Destination → Option String
  | v4 [a, b, c, d] => some (Ipv4.text ⟨a, b, c, d⟩)
  | v4 _ => none
  | v6 octets =>
    if h : (groupsOf octets).length = 8 then some (Ipv6.text ⟨groupsOf octets, h⟩) else none
  | name bytes => ofBytes? bytes

end RouteCascade.Tunnel.Socks5
