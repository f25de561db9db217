import RouteCascade.Text.Blank

/-!
# ASCII letters and digits

Case folding and decimal numbers over the ASCII range only: a capability, a header name and an
option value are compared this way whatever the locale, and a digit of another script is no digit.
-/
namespace RouteCascade.Text

/-- The small letter of an ASCII capital; every other character stands for itself. -/
def lowerChar (c : Char) : Char :=
  if 'A' ≤ c ∧ c ≤ 'Z' then Char.ofNat (c.toNat + 32) else c

def lowerByte (b : UInt8) : UInt8 :=
  if 65 ≤ b ∧ b ≤ 90 then b + 32 else b

def equalIgnoringCase (s t : String) : Bool :=
  s.toList.map lowerChar == t.toList.map lowerChar

def digit? (c : Char) : Option Nat :=
  if '0' ≤ c ∧ c ≤ '9' then some (c.toNat - 48) else none

/-- The number written by ASCII digits alone; there is none for the empty text. -/
def decimal? (s : List Char) : Option Nat :=
  match s with
  | [] => none
  | _ => s.foldlM (fun n c => (digit? c).map (n * 10 + ·)) 0

/-- A decimal number with an optional plus sign, as counts and ports may be written. -/
def signedDecimal? : List Char → Option Nat
  | '+' :: s => decimal? s
  | s => decimal? s

/-- A decimal number, an optional plus sign allowed, that fits in a word of `bits` bits. -/
def boundedDecimal? (bits : Nat) (s : List Char) : Option Nat :=
  match signedDecimal? s with
  | some n => if n < Nat.pow 2 bits then some n else none
  | none => none

def bytesOf (s : String) : Bytes := s.toUTF8.toList

def ofBytes? (b : Bytes) : Option String := String.fromUTF8? ⟨b.toArray⟩

def decimalBytes (n : Nat) : Bytes := bytesOf (toString n)

/-- Splits at the first place where `sep` stands, which belongs to neither part. -/
def splitFirst (sep : Char) : List Char → Option (List Char × List Char)
  | [] => none
  | c :: s => if c = sep then some ([], s) else
    match splitFirst sep s with
    | some (a, b) => some (c :: a, b)
    | none => none

def splitLast (sep : Char) : List Char → Option (List Char × List Char)
  | [] => none
  | c :: s =>
    match splitLast sep s with
    | some (a, b) => some (c :: a, b)
    | none => if c = sep then some ([], s) else none

/-- The pieces between the places where `sep` stands: always at least one. -/
def splitAll (sep : Char) : List Char → List (List Char)
  | [] => [[]]
  | c :: s =>
    if c = sep then [] :: splitAll sep s else
    match splitAll sep s with
    | [] => [[c]]
    | piece :: rest => (c :: piece) :: rest

/-- The parts of a first split, joined by the separator, are the text that was split. -/
theorem splitFirst_eq_some {sep : Char} {s a b : List Char} (h : splitFirst sep s = some (a, b)) :
    s = a ++ sep :: b ∧ sep ∉ a := by
  induction s generalizing a b with
  | nil => simp [splitFirst] at h
  | cons c s ih =>
    by_cases hc : c = sep
    · simp only [splitFirst, hc, if_true, Option.some.injEq, Prod.mk.injEq] at h
      obtain ⟨rfl, rfl⟩ := h
      simp [hc]
    · simp only [splitFirst, hc, if_false] at h
      split at h
      · rename_i a' b' h'
        simp only [Option.some.injEq, Prod.mk.injEq] at h
        obtain ⟨rfl, rfl⟩ := h
        obtain ⟨h1, h2⟩ := ih h'
        exact ⟨by simp [h1], by simpa using ⟨fun e => hc e.symm, h2⟩⟩
      · simp at h

/-- The parts of a last split, joined by the separator, are the text that was split. -/
theorem splitLast_eq_some {sep : Char} {s a b : List Char} (h : splitLast sep s = some (a, b)) :
    s = a ++ sep :: b := by
  induction s generalizing a b with
  | nil => simp [splitLast] at h
  | cons c s ih =>
    simp only [splitLast] at h
    split at h
    · rename_i a' b' h'
      simp only [Option.some.injEq, Prod.mk.injEq] at h
      obtain ⟨rfl, rfl⟩ := h
      simp [ih h']
    · split at h
      · rename_i hc
        simp only [Option.some.injEq, Prod.mk.injEq] at h
        obtain ⟨rfl, rfl⟩ := h
        simp [hc]
      · simp at h

end RouteCascade.Text
