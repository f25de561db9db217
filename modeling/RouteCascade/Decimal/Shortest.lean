import RouteCascade.Decimal.Binary64

/-!
# The shortest decimal

The fewest digits that are read back as a given number of double precision, and among those the ones
nearest to it. There are two ways to write them: with an exponent where the number is very large or
very small, or always by place.
-/
namespace RouteCascade.Decimal

/-- A decimal: its digits, the first of which is not zero, and the power of ten of the last of them. -/
structure Digits where
  digits : List Char
  scale : Int

namespace Digits

/-- The power of ten just above the number: as many digits as stand before the point. -/
def pointAfter (d : Digits) : Int := d.digits.length + d.scale

end Digits

namespace Binary64

/-- The numbers that are read as `m · 2 ^ e` reach from `low` to `high`, with the number itself as
`mid`; all are multiples of a quarter of `2 ^ e`. The ends belong to them if the mantissa is even. -/
structure Window where
  low : Nat
  mid : Nat
  high : Nat
  closed : Bool

/-- The window of a number. Below a power of two the numbers lie closer together. -/
def window (m : Nat) (e : Int) : Window :=
  ⟨if m = Nat.pow 2 52 ∧ minExponent < e then 4 * m - 1 else 4 * m - 2, 4 * m, 4 * m + 2, m % 2 == 0⟩

def Window.has (w : Window) (num den : Nat) : Bool :=
  let lo := w.low * den
  let hi := w.high * den
  if w.closed then lo ≤ num && num ≤ hi else lo < num && num < hi

/-- The multiple of `10 ^ k` nearest to `m · 2 ^ e` among those that are read back as it. A tie goes up
or to the even multiple. -/
def onGrid? (tieUp : Bool) (m : Nat) (e k : Int) : Option Nat :=
  let w := window m e
  -- a multiple `d` of the grid is `d · num / den` quarters of `2 ^ e`
  let (tn, td) := powerFraction 10 k
  let (bn, bd) := powerFraction 2 e
  let num := 4 * tn * bd
  let den := td * bn
  let d := w.mid * den / num
  let below := w.has (d * num) den
  let above := w.has ((d + 1) * num) den
  if below && above then
    let x := 2 * (w.mid * den - d * num)
    if x < num || (x == num && !tieUp && d % 2 == 0) then some d else some (d + 1)
  else if below then some d
  else if above then some (d + 1)
  else none

/-- Looks for the digits on finer and finer grids. -/
def search (tieUp : Bool) (m : Nat) (e : Int) : Nat → Int → Nat × Int
  | 0, k => (m, k)
  | fuel + 1, k =>
    match onGrid? tieUp m e k with
    | some (d + 1) => (d + 1, k)
    | _ => search tieUp m e fuel (k - 1)

def dropZeros (d : Nat) (k : Int) : Digits :=
  let ds := (Nat.toDigits 10 d).reverse
  let zeros := (ds.takeWhile (· == '0')).length
  ⟨(ds.drop zeros).reverse, k + zeros⟩

/-- The shortest digits of the positive number `m · 2 ^ e`. -/
def shortest (tieUp : Bool) (m : Nat) (e : Int) : Digits :=
  -- at the first grid the number is below one unit
  let start := ((m.log2 : Int) + e) * 3 / 10 + 2
  let (d, k) := search tieUp m e 800 start
  dropZeros d k

def zeros (n : Int) : List Char := List.replicate n.toNat '0'

/-- The digits by place, with a point where there are places after it, or anyway. -/
def byPlace (always : Bool) (d : Digits) : List Char :=
  let p := d.pointAfter
  if 0 ≤ d.scale then d.digits ++ zeros d.scale ++ (if always then ".0".toList else [])
  else if 0 < p then d.digits.take p.toNat ++ '.' :: d.digits.drop p.toNat
  else "0.".toList ++ zeros (-p) ++ d.digits

def byExponent (d : Digits) : List Char :=
  let mantissa := match d.digits with
    | [] => []
    | [c] => [c]
    | c :: r => c :: '.' :: r
  mantissa ++ 'e' :: (toString (d.pointAfter - 1)).toList

def signed (negative : Bool) (s : List Char) : String :=
  String.ofList (if negative then '-' :: s else s)

/-- A number with at least one place after the point, by place if the point comes at most sixteen
digits after the first digit or at most four zeros before it, and else with an exponent. -/
def compactText : Binary64 → String
  | .nan => ".nan"
  | .infinite negative => signed negative ".inf".toList
  | .finite negative 0 _ => signed negative "0.0".toList
  | .finite negative m e =>
    let d := shortest false m e
    let p := d.pointAfter
    signed negative (if -5 < p ∧ p ≤ 16 then byPlace true d else byExponent d)

/-- A number by place, with at least one place after the point. -/
def plainText : Binary64 → String
  | .nan => "NaN"
  | .infinite negative => signed negative "inf".toList
  | .finite negative 0 _ => signed negative "0.0".toList
  | .finite negative m e => signed negative (byPlace true (shortest true m e))

end Binary64

end RouteCascade.Decimal
