import RouteCascade.Text.Ascii
import RouteCascade.Text.Blank

/-!
# Log lines

Lines with a level, and the filter that decides which of them are shown. A filter is written as the
name of a level, in letters of any case, or as its number.
-/
namespace RouteCascade.Log

open Text

inductive Level where
  | error | warn | info | debug | trace
  deriving DecidableEq, Repr

/-- The rank of a level; the gravest comes first. -/
def Level.rank : Level → Nat
  | error => 1
  | warn => 2
  | info => 3
  | debug => 4
  | trace => 5

def Level.text : Level → String
  | error => "ERROR"
  | warn => "WARN"
  | info => "INFO"
  | debug => "DEBUG"
  | trace => "TRACE"

structure Line where
  level : Level
  message : String
  deriving DecidableEq, Repr

def Line.text (l : Line) : String := s!"{l.level.text} {l.message}"

/-- A filter shows the lines up to a rank; none at all is shown up to rank zero. -/
structure Filter where
  rank : Nat
  deriving DecidableEq, Repr

inductive FilterFault where
  | level
  /-- Something follows the level. -/
  | directive
  deriving DecidableEq, Repr

def FilterFault.message : FilterFault → String
  | level =>
    "error parsing level filter: expected one of \"off\", \"error\", \"warn\", \"info\", \"debug\", " ++
      "\"trace\", or a number 0-5"
  | directive => "invalid filter directive"

namespace Filter

def names : List String := ["off", "error", "warn", "info", "debug", "trace"]

def everything : Filter := ⟨5⟩

def numbered? (s : List Char) : Option Filter :=
  match boundedDecimal? 64 s with
  | some n => if n < names.length then some ⟨n⟩ else none
  | none => none

def named? (s : List Char) : Option Filter :=
  (names.findIdx? fun n => equalIgnoringCase n (String.ofList s)).map Filter.mk

/-- The filter of a level; an empty one shows everything. -/
def ofLevel (s : List Char) : Except FilterFault Filter :=
  if s.isEmpty then .ok everything else
  match numbered? s, named? s with
  | some f, _ => .ok f
  | none, some f => .ok f
  | none, none => .error .level

/-- Reads a filter. A comma may stand at its end, blanks after that do not count. -/
def parse (text : String) : Except FilterFault Filter :=
  let s := text.toList
  match splitFirst ',' s with
  | none => ofLevel s
  | some (level, rest) =>
    match ofLevel level with
    | .error e => .error e
    | .ok f => if (trim rest).isEmpty then .ok f else .error .directive

def shows (f : Filter) (l : Line) : Bool := l.level.rank ≤ f.rank

end Filter

end RouteCascade.Log
