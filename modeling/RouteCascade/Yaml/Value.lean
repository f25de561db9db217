import RouteCascade.Decimal.Shortest
import RouteCascade.Text.Quoted

/-!
# Values

What a node stands for when nothing is known about what it should be. The entries of a mapping keep
their order; a mapping that gives a key twice can be written down, so there is a test for it.
-/
namespace RouteCascade.Yaml

open Text Decimal

inductive Number where
  | integer (i : Int)
  | float (x : Binary64)
  deriving DecidableEq, Repr

def Number.text : Number → String
  | integer i => toString i
  | float x => x.compactText

/-- Two numbers that count as one key. -/
def Number.same : Number → Number → Bool
  | integer i, integer j => i == j
  | float x, float y => x.same y
  | _, _ => false

inductive Value where
  | null
  | bool (b : Bool)
  | number (n : Number)
  | string (s : String)
  | sequence (items : List Value)
  | mapping (entries : List (Value × Value))
  deriving Inhabited

namespace Value

def string? : Value → Option String
  | string s => some s
  | _ => none

mutual

/-- Two values that count as one key. The order of entries does not matter. -/
def same : Value → Value → Bool
  | null, null => true
  | bool a, bool b => a == b
  | number a, number b => a.same b
  | string a, string b => a == b
  | sequence a, sequence b => sameItems a b
  | mapping a, mapping b => a.length == b.length && sameEntries a b
  | _, _ => false

def sameItems : List Value → List Value → Bool
  | [], [] => true
  | x :: xs, y :: ys => x.same y && sameItems xs ys
  | _, _ => false

def sameEntries : List (Value × Value) → List (Value × Value) → Bool
  | [], _ => true
  | (k, v) :: rest, ys => ys.any (fun y => k.same y.1 && v.same y.2) && sameEntries rest ys

end

mutual

/-- The first key that a mapping inside the value gives twice, in reading order. -/
def repeated? : Value → Option Value
  | null | bool _ | number _ | string _ => none
  | sequence items => repeatedItem? items
  | mapping entries => repeatedEntry? [] entries

def repeatedItem? : List Value → Option Value
  | [] => none
  | x :: xs =>
    match x.repeated? with
    | some k => some k
    | none => repeatedItem? xs

/-- The first key given twice in some entries, which follow entries with the keys `seen`. -/
def repeatedEntry? (seen : List Value) : List (Value × Value) → Option Value
  | [] => none
  | (k, v) :: rest =>
    match k.repeated?, seen.find? (fun s => s.same k), v.repeated? with
    | some k, _, _ => some k
    | none, some s, _ => some s
    | none, none, some k => some k
    | none, none, none => repeatedEntry? (seen ++ [k]) rest

end

def repeatedText : Value → String
  | null => "duplicate entry with null key"
  | bool b => "duplicate entry with key " ++ inTicks (if b then "true" else "false")
  | number n => s!"duplicate entry with key {n.text}"
  | string s => s!"duplicate entry with key {quoted s}"
  | sequence _ | mapping _ => "duplicate entry in YAML map"
where
  /-- A text between backticks. -/
  inTicks (s : String) : String :=
    let tick := String.singleton (Char.ofNat 96)
    tick ++ s ++ tick

end Value

end RouteCascade.Yaml
