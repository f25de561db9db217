import RouteCascade.Text.Ascii

/-!
# Internet addresses

Numeric addresses of both versions and socket addresses: reading and writing. Reading is strict:
the numbers of a version 4 address have no leading zeros, and a double colon in a version 6 address
stands for at least one group. Writing gives the shortest form, with the longest run of two or more
zero groups left out.
-/
namespace RouteCascade.Net

open Text

structure Ipv4 where
  a : UInt8
  b : UInt8
  c : UInt8
  d : UInt8
  deriving DecidableEq, Repr

structure Ipv6 where
  groups : List UInt16
  length_eq : groups.length = 8 := by decide
  deriving DecidableEq

inductive Ip where
  | v4 (address : Ipv4)
  | v6 (address : Ipv6)
  deriving DecidableEq

/-- The end point of a connection: an address with a port, and for version 6 a scope. -/
inductive SocketAddress where
  | v4 (address : Ipv4) (port : UInt16)
  | v6 (address : Ipv6) (port : UInt16) (scope : UInt32)
  deriving DecidableEq

namespace Address

/-- A reader takes something off the front of a text, or does not apply. -/
abbrev Reader (α : Type) := List Char → Option (α × List Char)

def char (c : Char) : Reader Unit
  | x :: s => if x = c then some ((), s) else none
  | [] => none

def hexValue? (c : Char) : Option Nat :=
  if '0' ≤ c ∧ c ≤ '9' then some (c.toNat - 48)
  else if 'a' ≤ c ∧ c ≤ 'f' then some (c.toNat - 87)
  else if 'A' ≤ c ∧ c ≤ 'F' then some (c.toNat - 55)
  else none

/-- The digits in front of a text, by their values. -/
def leadingDigits (value? : Char → Option Nat) : List Char → List Nat × List Char
  | [] => ([], [])
  | c :: s =>
    match value? c with
    | some v => let (vs, rest) := leadingDigits value? s; (v :: vs, rest)
    | none => ([], c :: s)

/-- The number that some digits write in a base. -/
def ofDigits (base : Nat) (digits : List Nat) : Nat := digits.foldl (fun n d => n * base + d) 0

/-- A decimal number below `2 ^ bits`, of any length. -/
def number (bits : Nat) : Reader Nat := fun s =>
  let (ds, rest) := leadingDigits digit? s
  if ds.isEmpty || Nat.pow 2 bits ≤ ofDigits 10 ds then none else some (ofDigits 10 ds, rest)

/-- An octet: at most three decimal digits, no leading zero. -/
def octet : Reader UInt8 := fun s =>
  let (ds, rest) := leadingDigits digit? s
  if ds.isEmpty || 3 < ds.length || (ds.head? == some 0 && 1 < ds.length) || 256 ≤ ofDigits 10 ds then
    none
  else some (UInt8.ofNat (ofDigits 10 ds), rest)

/-- A group: one to four hexadecimal digits. -/
def group : Reader UInt16 := fun s =>
  let (ds, rest) := leadingDigits hexValue? s
  if ds.isEmpty || 4 < ds.length then none else some (UInt16.ofNat (ofDigits 16 ds), rest)

def ipv4 : Reader Ipv4 := fun s => do
  let (a, s) ← octet s
  let ((), s) ← char '.' s
  let (b, s) ← octet s
  let ((), s) ← char '.' s
  let (c, s) ← octet s
  let ((), s) ← char '.' s
  let (d, s) ← octet s
  some (⟨a, b, c, d⟩, s)

/-- An item of a list with colons between its items: a colon is due unless it is the first. -/
def separated {α : Type} (first : Bool) (item : Reader α) : Reader α := fun s =>
  if first then item s else do
    let ((), s) ← char ':' s
    item s

def pair (x y : UInt8) : UInt16 := UInt16.ofNat (x.toNat * 256 + y.toNat)

/-- Up to `limit` groups with colons between them. A version 4 address may stand for the last two
groups, which the flag tells. -/
def groups (first : Bool) : Nat → List Char → (List UInt16 × Bool) × List Char
  | 0, s => (([], false), s)
  | limit + 1, s =>
    match if limit = 0 then none else separated first ipv4 s with
    | some (⟨a, b, c, d⟩, rest) => (([pair a b, pair c d], true), rest)
    | none =>
      match separated first group s with
      | some (g, rest) =>
        let ((gs, embedded), rest) := groups false limit rest
        ((g :: gs, embedded), rest)
      | none => (([], false), s)

theorem length_groups (first : Bool) (limit : Nat) (s : List Char) :
    (groups first limit s).1.1.length ≤ limit := by
  induction limit generalizing first s with
  | zero => simp [groups]
  | succ limit ih =>
    simp only [groups]
    split
    · rename_i h
      cases limit with
      | zero => simp at h
      | succ n => simp
    · split
      · rename_i rest _
        simpa using ih false rest
      · simp

/-- Eight groups, or fewer around one double colon that stands for the missing ones. -/
def ipv6 : Reader Ipv6 := fun s =>
  let head := groups true 8 s
  if h : head.1.1.length = 8 then some (⟨head.1.1, h⟩, head.2)
  else if head.1.2 then none
  else
    match head.2 with
    | ':' :: ':' :: rest =>
      let tail := groups true (7 - head.1.1.length) rest
      let filled := head.1.1 ++ List.replicate (8 - head.1.1.length - tail.1.1.length) 0 ++ tail.1.1
      if h : filled.length = 8 then some (⟨filled, h⟩, tail.2) else none
    | _ => none

/-- A reader that has to take the whole text. -/
def whole {α : Type} (r : Reader α) (s : String) : Option α :=
  match r s.toList with
  | some (a, []) => some a
  | _ => none

/-- A version 6 scope: a percent sign and a number of thirty-two bits. Without one it is zero. -/
def scope : Reader UInt32 := fun s =>
  match (do let ((), r) ← char '%' s; number 32 r) with
  | some (n, r) => some (UInt32.ofNat n, r)
  | none => some (0, s)

def portSuffix : Reader UInt16 := fun s => do
  let ((), s) ← char ':' s
  let (n, s) ← number 16 s
  some (UInt16.ofNat n, s)

def socketV4 : Reader SocketAddress := fun s => do
  let (a, s) ← ipv4 s
  let (p, s) ← portSuffix s
  some (.v4 a p, s)

/-- A version 6 address in brackets, with an optional scope, and a port. -/
def socketV6 : Reader SocketAddress := fun s => do
  let ((), s) ← char '[' s
  let (a, s) ← ipv6 s
  let (sc, s) ← scope s
  let ((), s) ← char ']' s
  let (p, s) ← portSuffix s
  some (.v6 a p sc, s)

end Address

def Ipv4.parse? (s : String) : Option Ipv4 := Address.whole Address.ipv4 s

def Ipv6.parse? (s : String) : Option Ipv6 := Address.whole Address.ipv6 s

def Ip.parse? (s : String) : Option Ip :=
  match Ipv4.parse? s with
  | some a => some (.v4 a)
  | none => (Ipv6.parse? s).map .v6

def SocketAddress.parse? (s : String) : Option SocketAddress :=
  Address.whole (fun cs => (Address.socketV4 cs).orElse fun _ => Address.socketV6 cs) s

def Ipv4.octets (i : Ipv4) : Bytes := [i.a, i.b, i.c, i.d]

def Ipv6.octets (i : Ipv6) : Bytes :=
  i.groups.flatMap fun g => [UInt8.ofNat (g.toNat / 256), UInt8.ofNat (g.toNat % 256)]

def Ipv4.text (i : Ipv4) : String := s!"{i.a}.{i.b}.{i.c}.{i.d}"

def groupsText (gs : List UInt16) : String :=
  String.intercalate ":" (gs.map fun g => String.ofList (Nat.toDigits 16 g.toNat))

def zeroRun (gs : List UInt16) : Nat := (gs.takeWhile (· == 0)).length

/-- Where the longest run of zero groups starts, and its length; the first of several. -/
def longestZeroRun (gs : List UInt16) : Nat × Nat :=
  (List.range gs.length).foldl
    (fun best i => if best.2 < zeroRun (gs.drop i) then (i, zeroRun (gs.drop i)) else best) (0, 0)

/-- The text of a version 6 address. One that only wraps a version 4 address ends in that. -/
def Ipv6.text (i : Ipv6) : String :=
  match i.groups with
  | [0, 0, 0, 0, 0, 0xffff, x, y] =>
    s!"::ffff:{x.toNat / 256}.{x.toNat % 256}.{y.toNat / 256}.{y.toNat % 256}"
  | gs =>
    let (start, n) := longestZeroRun gs
    if n ≤ 1 then groupsText gs
    else groupsText (gs.take start) ++ "::" ++ groupsText (gs.drop (start + n))

def SocketAddress.text : SocketAddress → String
  | .v4 a p => s!"{a.text}:{p}"
  | .v6 a p s => if s = 0 then s!"[{a.text}]:{p}" else s!"[{a.text}%{s}]:{p}"

def SocketAddress.port : SocketAddress → UInt16
  | .v4 _ p => p
  | .v6 _ p _ => p

end RouteCascade.Net
