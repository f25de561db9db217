import RouteCascade.Text.Ascii

/-!
# Base64 text

The standard alphabet with padding. `encode` writes the one canonical form; `decode` accepts that
form only, so the padding must be there and the bits it stands for must be zero, and it names the
first thing that is wrong. Reading goes in two passes: the symbols are checked one by one, and only
then is the text as a whole looked at.
-/
namespace RouteCascade.Text.Base64

inductive Fault where
  /-- A byte that may not stand where it stands. -/
  | badByte (byte : UInt8) (offset : Nat)
  /-- One symbol is left over, which carries too few bits for a byte. -/
  | leftoverSymbol
  /-- The padding does not complete the last group of four. -/
  | badPadding
  /-- The last symbol has bits set that belong to no byte. -/
  | badLastSymbol (byte : UInt8) (offset : Nat)
  deriving DecidableEq, Repr

def Fault.message : Fault → String
  | .badByte b i => s!"Invalid byte {b}, offset {i}."
  | .leftoverSymbol => "Encoded text cannot have a 6-bit remainder."
  | .badPadding => "Invalid padding"
  | .badLastSymbol b i => s!"Invalid last symbol {b}, offset {i}."

def pad : UInt8 := 61

/-- The value of a symbol: capitals, small letters, digits, `+` and `/`, in this order. -/
def value? (b : UInt8) : Option Nat :=
  if 65 ≤ b ∧ b ≤ 90 then some (b.toNat - 65)
  else if 97 ≤ b ∧ b ≤ 122 then some (b.toNat - 71)
  else if 48 ≤ b ∧ b ≤ 57 then some (b.toNat + 4)
  else if b = 43 then some 62
  else if b = 47 then some 63
  else none

def symbol (n : Nat) : UInt8 :=
  if n < 26 then UInt8.ofNat (n + 65)
  else if n < 52 then UInt8.ofNat (n + 71)
  else if n < 62 then UInt8.ofNat (n - 4)
  else if n = 62 then 43
  else 47

/-- Three bytes make four symbols; one or two bytes at the end are filled up with zero bits and
padding. -/
def encode : Bytes → Bytes
  | [] => []
  | [a] => [symbol (a.toNat / 4), symbol (a.toNat % 4 * 16), pad, pad]
  | [a, b] => [symbol (a.toNat / 4), symbol (a.toNat % 4 * 16 + b.toNat / 16),
      symbol (b.toNat % 16 * 4), pad]
  | a :: b :: c :: rest =>
    symbol (a.toNat / 4) :: symbol (a.toNat % 4 * 16 + b.toNat / 16) ::
      symbol (b.toNat % 16 * 4 + c.toNat / 64) :: symbol (c.toNat % 64) :: encode rest

/-- The symbols of a text with the number of padding bytes after them.

Padding may start at the third or fourth place of a group. Once it has started, at `firstPad`,
nothing else may follow, and whatever does is blamed on the first padding byte. -/
def symbols (offset : Nat) (firstPad : Option Nat) : Bytes → Except Fault (List (UInt8 × Nat) × Nat)
  | [] => .ok ([], 0)
  | b :: rest =>
    if b = pad then
      if offset % 4 < 2 then .error (.badByte pad (firstPad.getD offset)) else
      match symbols (offset + 1) (some (firstPad.getD offset)) rest with
      | .ok (s, n) => .ok (s, n + 1)
      | .error e => .error e
    else
      match firstPad with
      | some p => .error (.badByte pad p)
      | none =>
        match value? b with
        | none => .error (.badByte b offset)
        | some v =>
          match symbols (offset + 1) none rest with
          | .ok (s, n) => .ok ((b, v) :: s, n)
          | .error e => .error e

/-- The bytes that groups of four symbols stand for; the last group may be short. -/
def unpack : List Nat → Bytes
  | a :: b :: c :: d :: rest =>
    UInt8.ofNat (a * 4 + b / 16) :: UInt8.ofNat (b % 16 * 16 + c / 4) ::
      UInt8.ofNat (c % 4 * 64 + d) :: unpack rest
  | [a, b, c] => [UInt8.ofNat (a * 4 + b / 16), UInt8.ofNat (b % 16 * 16 + c / 4)]
  | [a, b] => [UInt8.ofNat (a * 4 + b / 16)]
  | _ => []

/-- The bits of the last symbol that belong to no byte. -/
def spareBits : List Nat → Nat
  | _ :: _ :: _ :: _ :: rest => spareBits rest
  | [_, _, c] => c % 4
  | [_, b] => b % 16
  | _ => 0

def decode (s : Bytes) : Except Fault Bytes :=
  if s.length % 4 = 1 then
    match s.getLast? with
    | some b =>
      if b ≠ pad ∧ value? b = none then .error (.badByte b (s.length - 1)) else .error .leftoverSymbol
    | none => .error .leftoverSymbol
  else
    match symbols 0 none s with
    | .error e => .error e
    | .ok (syms, padding) =>
      if (syms.length + padding) % 4 ≠ 0 then .error .badPadding
      else if spareBits (syms.map (·.2)) ≠ 0 then
        .error (.badLastSymbol ((syms.getLast?.map (·.1)).getD 0) (syms.length - 1))
      else .ok (unpack (syms.map (·.2)))

def text (bs : Bytes) : String := String.ofList ((encode bs).map fun b => Char.ofNat b.toNat)

end RouteCascade.Text.Base64
