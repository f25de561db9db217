import RouteCascade.Text.Quoted
import RouteCascade.Text.Ascii

/-!
# Hexadecimal text

Bytes as pairs of hexadecimal digits. Writing uses small letters, reading takes either case.
Main statement: what is written reads back.
-/
namespace RouteCascade.Text.Hex

inductive Fault where
  /-- The text cannot be cut into pairs. -/
  | oddLength
  /-- The first byte that is no digit, and where it stands. -/
  | badDigit (byte : UInt8) (position : Nat)
  deriving DecidableEq, Repr

/-- The wording of a fault; a byte is shown as the character of that number. -/
def Fault.message : Fault → String
  | .oddLength => "Odd number of digits"
  | .badDigit b i => s!"Invalid character {quotedChar (Char.ofNat b.toNat)} at position {i}"

def digit? (b : UInt8) : Option UInt8 :=
  if 48 ≤ b ∧ b ≤ 57 then some (b - 48)
  else if 97 ≤ b ∧ b ≤ 102 then some (b - 87)
  else if 65 ≤ b ∧ b ≤ 70 then some (b - 55)
  else none

def digit (n : UInt8) : UInt8 := if n < 10 then 48 + n else 87 + n

def encode : Bytes → Bytes
  | [] => []
  | b :: bs => digit (b / 16) :: digit (b % 16) :: encode bs

/-- Reads pairs of digits, `position` bytes into the text. -/
def decodeFrom (position : Nat) : Bytes → Except Fault Bytes
  | [] => .ok []
  | [_] => .error .oddLength
  | h :: l :: rest =>
    match digit? h, digit? l with
    | some x, some y =>
      match decodeFrom (position + 2) rest with
      | .ok bs => .ok ((16 * x + y) :: bs)
      | .error e => .error e
    | none, _ => .error (.badDigit h position)
    | some _, none => .error (.badDigit l (position + 1))

/-- The bytes that a text of digits stands for. An odd length is reported before any digit. -/
def decode (s : Bytes) : Except Fault Bytes :=
  if s.length % 2 = 1 then .error .oddLength else decodeFrom 0 s

def text (bs : Bytes) : String := String.ofList ((encode bs).map fun b => Char.ofNat b.toNat)

theorem length_encode (bs : Bytes) : (encode bs).length = 2 * bs.length := by
  induction bs with
  | nil => rfl
  | cons b bs ih => simp [encode, ih]; omega

/-- Every byte is read back from its two digits. -/
theorem digits_of_byte : ∀ b : UInt8,
    digit? (digit (b / 16)) = some (b / 16) ∧ digit? (digit (b % 16)) = some (b % 16) ∧
      16 * (b / 16) + b % 16 = b := by
  intro b
  have h : ∀ n : Fin 256,
      digit? (digit (UInt8.ofFin n / 16)) = some (UInt8.ofFin n / 16) ∧
      digit? (digit (UInt8.ofFin n % 16)) = some (UInt8.ofFin n % 16) ∧
      16 * (UInt8.ofFin n / 16) + UInt8.ofFin n % 16 = UInt8.ofFin n := by decide +kernel
  exact h b.toFin

theorem decodeFrom_encode (bs : Bytes) (i : Nat) : decodeFrom i (encode bs) = .ok bs := by
  induction bs generalizing i with
  | nil => rfl
  | cons b bs ih =>
    obtain ⟨h1, h2, h3⟩ := digits_of_byte b
    simp [encode, decodeFrom, h1, h2, h3, ih]

/-- What is written reads back. -/
theorem decode_encode (bs : Bytes) : decode (encode bs) = .ok bs := by
  simp [decode, length_encode, decodeFrom_encode]

end RouteCascade.Text.Hex
