/-!
# Double-precision numbers

Numbers of the form `m · 2 ^ e` with a mantissa of fifty-three bits, and what lies beyond them. A
decimal is read as the nearest such number, a tie going to the even mantissa; everything is computed
with exact integers.
-/
namespace RouteCascade.Decimal

/-- A number of double precision. -/
inductive Binary64 where
  /-- The number `m · 2 ^ e`, or its negative. The mantissa is below `2 ^ 53`; it is at least `2 ^ 52`
  unless the exponent is the least one. -/
  | finite (negative : Bool) (mantissa : Nat) (exponent : Int)
  | infinite (negative : Bool)
  | nan
  deriving DecidableEq, Repr

namespace Binary64

def minExponent : Int := -1074

def maxExponent : Int := 971

def zero (negative : Bool) : Binary64 := .finite negative 0 minExponent

/-- Two numbers that compare as equal: the zeros do, and here every number does with itself. -/
def same : Binary64 → Binary64 → Bool
  | .finite _ 0 _, .finite _ 0 _ => true
  | a, b => decide (a = b)

/-- A power with an exponent of either sign, as a fraction. -/
def powerFraction (base : Nat) (e : Int) : Nat × Nat :=
  if 0 ≤ e then (Nat.pow base e.toNat, 1) else (1, Nat.pow base (-e).toNat)

/-- The quotient rounded to the nearest integer, a tie going to the even one. -/
def roundDiv (num den : Nat) : Nat :=
  let q := num / den
  let r := num % den
  if 2 * r < den then q else if den < 2 * r then q + 1 else q + q % 2

/-- The number nearest to a positive fraction; there is none if it is too large. -/
def ofFraction (negative : Bool) (num den : Nat) : Option Binary64 :=
  -- the fraction lies between `2 ^ (guess + 52)` and `2 ^ (guess + 54)`
  let guess : Int := max ((num.log2 : Int) - den.log2 - 53) minExponent
  let scaled (e : Int) : Nat × Nat :=
    let (p, q) := powerFraction 2 e
    (num * q, den * p)
  let (n, d) := scaled guess
  let e := if Nat.pow 2 53 ≤ n / d then guess + 1 else guess
  let (n, d) := scaled e
  let m := roundDiv n d
  let (m, e) := if m = Nat.pow 2 53 then (Nat.pow 2 52, e + 1) else (m, e)
  if maxExponent < e then none else some (.finite negative m e)

/-- The number nearest to `digits · 10 ^ scale`; there is none if it is too large. -/
def ofDecimal (negative : Bool) (digits : Nat) (scale : Int) : Option Binary64 :=
  let magnitude : Int := ((Nat.toDigits 10 digits).length : Int) + scale
  if digits = 0 ∨ magnitude < -330 then some (zero negative)
  else if 330 < magnitude then none
  else
    let (p, q) := powerFraction 10 scale
    ofFraction negative (digits * p) q

example : ofDecimal false 1 0 = some (.finite false (2 ^ 52) (-52)) := by decide +kernel
example : ofDecimal false 5 (-324) = some (.finite false 1 (-1074)) := by decide +kernel
example : ofDecimal false 2 (-324) = some (.finite false 0 (-1074)) := by decide +kernel
example : ofDecimal false 18 307 = none := by decide +kernel

end Binary64

end RouteCascade.Decimal
