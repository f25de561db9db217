import RouteCascade.Decimal.Shortest
import RouteCascade.Text.Ascii
import RouteCascade.Yaml.Token

/-!
# What scalars mean

A plain scalar may be a null, a truth value or a number; every other scalar is text unless a standard
tag says what it is. Integers may be written to the bases two, eight, ten and sixteen, but digits after
a leading zero are text.
-/
namespace RouteCascade.Yaml

open Text Decimal

/-- The meaning of a scalar. An integer that does not fit in 64 bits is kept apart. -/
inductive Scalar where
  | null
  | bool (b : Bool)
  | integer (i : Int)
  | wide (i : Int)
  | float (x : Binary64)
  | text (s : String)
  deriving DecidableEq, Repr

namespace Scalar

def isNull (s : String) : Bool := ["null", "Null", "NULL", "~"].contains s

def bool? (s : String) : Option Bool :=
  if ["true", "True", "TRUE"].contains s then some true
  else if ["false", "False", "FALSE"].contains s then some false
  else none

def isDigit (c : Char) : Bool := (digit? c).isSome

def isSign (c : Char) : Bool := c == '+' || c == '-'

/-- The number that digits to a base stand for. -/
def natural? (base : Nat) (s : List Char) : Option Nat :=
  if s.isEmpty then none else
  s.foldlM (fun n c => (hexValue? c).bind fun d => if d < base then some (n * base + d) else none) 0

/-- Digits after a leading zero, with or without a sign. -/
def isZeroLed (s : List Char) : Bool :=
  let s := match s with
    | c :: r => if isSign c then r else s
    | [] => s
  1 < s.length && s.head? == some '0' && s.all isDigit

def base? : List Char → Option (Nat × List Char)
  | '0' :: 'x' :: r => some (16, r)
  | '0' :: 'o' :: r => some (8, r)
  | '0' :: 'b' :: r => some (2, r)
  | _ => none

/-- The magnitude of an integer written without a sign, if it is below a limit. -/
def magnitude? (limit : Nat) (s : List Char) : Option Nat :=
  let below (n : Nat) : Option Nat := if n < limit then some n else none
  match base? s with
  | some (base, r) => (natural? base r).bind below
  | none => if isZeroLed s then none else (natural? 10 s).bind below

/-- An integer with at most a plus sign, below a limit. -/
def unsigned? (limit : Nat) (s : List Char) : Option Int :=
  let s := match s with
    | '+' :: r => r
    | s => s
  (magnitude? limit s).map fun n => (n : Int)

/-- An integer with a minus sign, not below the negative of a limit. -/
def negative? (limit : Nat) : List Char → Option Int
  | '-' :: r => (magnitude? (limit + 1) r).map fun n => -(n : Int)
  | _ => none

/-- An integer: one of 64 bits if possible, else one of 128 bits. -/
def integer? (s : List Char) : Option Scalar :=
  match unsigned? (Nat.pow 2 64) s, negative? (Nat.pow 2 63) s, unsigned? (Nat.pow 2 128) s,
      negative? (Nat.pow 2 127) s with
  | some i, _, _, _ => some (.integer i)
  | _, some i, _, _ => some (.integer i)
  | _, _, some i, _ => some (.wide i)
  | _, _, _, some i => some (.wide i)
  | _, _, _, _ => none

/-- The exponent of a number: nothing, or a mark and digits with or without a sign. -/
def exponent? : List Char → Option Int
  | [] => some 0
  | c :: r =>
    if c == 'e' || c == 'E' then
      match r with
      | '-' :: ds => (natural? 10 ds).map fun n => -(n : Int)
      | '+' :: ds => (natural? 10 ds).map fun n => (n : Int)
      | ds => (natural? 10 ds).map fun n => (n : Int)
    else none

/-- A decimal with a point or an exponent or neither, and without a sign. -/
def decimalFloat? (negative : Bool) (s : List Char) : Option Binary64 :=
  let whole := s.takeWhile isDigit
  let rest := s.dropWhile isDigit
  let (part, rest) := match rest with
    | '.' :: r => (r.takeWhile isDigit, r.dropWhile isDigit)
    | r => ([], r)
  match natural? 10 (whole ++ part), exponent? rest with
  | some digits, some e => Binary64.ofDecimal negative digits (e - part.length)
  | _, _ => none

/-- A number of double precision: finite, or one of the names of the others. -/
def float? (s : List Char) : Option Binary64 :=
  let infinity : List (List Char) := [".inf".toList, ".Inf".toList, ".INF".toList]
  let nan : List (List Char) := [".nan".toList, ".NaN".toList, ".NAN".toList]
  if nan.contains s then some .nan else
  match s with
  | '-' :: r => if infinity.contains r then some (.infinite true) else decimalFloat? true r
  | '+' :: r => if infinity.contains r then some (.infinite false) else decimalFloat? false r
  | r => if infinity.contains r then some (.infinite false) else decimalFloat? false r

def ofPlain (s : String) : Scalar :=
  if s.isEmpty || isNull s then .null else
  match bool? s, integer? s.toList with
  | some b, _ => .bool b
  | none, some i => i
  | none, none =>
    if isZeroLed s.toList then .text s else
    match float? s.toList with
    | some x => .float x
    | none => .text s

def standardTag (name : String) : Bytes := bytesOf s!"tag:yaml.org,2002:{name}"

/-- The meaning of a scalar, or what its tag says that it should be. -/
def resolve (tag : Option Bytes) (style : Style) (s : String) : Except String Scalar :=
  let plain := if style = .plain then ofPlain s else text s
  match tag with
  | none => .ok plain
  | some t =>
    if t = standardTag "bool" then
      match bool? s with
      | some b => .ok (.bool b)
      | none => .error "a boolean"
    else if t = standardTag "int" then
      match integer? s.toList with
      | some i => .ok i
      | none => .error "an integer"
    else if t = standardTag "float" then
      match float? s.toList with
      | some x => .ok (.float x)
      | none => .error "a float"
    else if t = standardTag "null" then
      if isNull s then .ok .null else .error "null"
    else if t.head? = some 33 then .ok plain
    else .ok (text s)

end Scalar

end RouteCascade.Yaml
