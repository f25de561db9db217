import RouteCascade.Text.Ascii
import RouteCascade.Yaml.Fault

/-!
# Tokens

The pieces that a document is made of: the marks of its structure, the properties of its nodes, and
its scalars, each with the places where it starts and ends.
-/
namespace RouteCascade.Yaml

open Text

inductive Style where
  | plain | singleQuoted | doubleQuoted | literal | folded
  deriving DecidableEq, Repr

/-- What a token says. Tags are bytes, since they may be written by their octets. -/
inductive Token.Kind where
  | streamStart
  | streamEnd
  | versionDirective (major minor : Nat)
  | tagDirective (handle start : Bytes)
  | documentStart
  | documentEnd
  | blockSequenceStart
  | blockMappingStart
  | blockEnd
  | flowSequenceStart
  | flowSequenceEnd
  | flowMappingStart
  | flowMappingEnd
  | blockEntry
  | flowEntry
  | key
  | value
  | reference (name : String)
  | anchor (name : String)
  | tag (handle suffix : Bytes)
  | scalar (text : String) (style : Style)
  deriving DecidableEq, Repr

structure Token where
  kind : Token.Kind
  start : Mark
  stop : Mark
  deriving DecidableEq, Repr

/-- A place in a text with the text that follows it. -/
structure Cursor where
  rest : List Char
  mark : Mark

def isBreak (c : Char) : Bool :=
  c == '\n' || c == '\r' || c.toNat == 0x85 || c.toNat == 0x2028 || c.toNat == 0x2029

/-- A space or a tab. -/
def isSpace (c : Char) : Bool := c == ' ' || c == '\t'

/-- A letter, a digit, a hyphen or an underscore of ASCII. -/
def isWord (c : Char) : Bool :=
  ('0' ≤ c && c ≤ '9') || ('A' ≤ c && c ≤ 'Z') || ('a' ≤ c && c ≤ 'z') || c == '_' || c == '-'

def hexValue? (c : Char) : Option Nat :=
  if '0' ≤ c ∧ c ≤ '9' then some (c.toNat - 48)
  else if 'a' ≤ c ∧ c ≤ 'f' then some (c.toNat - 87)
  else if 'A' ≤ c ∧ c ≤ 'F' then some (c.toNat - 55)
  else none

namespace Cursor

def peek (c : Cursor) (n : Nat := 0) : Option Char := c.rest[n]?

def isAt (c : Cursor) (x : Char) : Bool := c.rest.head? == some x

/-- A space, a tab, a break or the end stands `n` places on. -/
def isGap (c : Cursor) (n : Nat := 0) : Bool :=
  match c.peek n with
  | none => true
  | some x => isSpace x || isBreak x

def isLineEnd (c : Cursor) : Bool :=
  match c.peek with
  | none => true
  | some x => isBreak x

def skip (c : Cursor) (n : Nat := 1) : Cursor :=
  ⟨c.rest.drop n, ⟨c.mark.index + n, c.mark.line, c.mark.column + n⟩⟩

def span (p : Char → Bool) (c : Cursor) : List Char × Cursor :=
  let taken := c.rest.takeWhile p
  (taken, c.skip taken.length)

/-- Goes over a line break, and gives the break as it counts in a scalar: as a line feed, except for
the separators of lines and paragraphs, which stay. Where there is no break, nothing happens. -/
def takeBreak (c : Cursor) : List Char × Cursor :=
  let next (n : Nat) (r : List Char) : Cursor := ⟨r, ⟨c.mark.index + n, c.mark.line + 1, 0⟩⟩
  match c.rest with
  | '\r' :: '\n' :: r => (['\n'], next 2 r)
  | x :: r =>
    if x.toNat == 0x2028 || x.toNat == 0x2029 then ([x], next 1 r)
    else if isBreak x then (['\n'], next 1 r)
    else ([], c)
  | [] => ([], c)

def skipBreak (c : Cursor) : Cursor := c.takeBreak.2

/-- A line of three given characters, or one that starts with them and a gap. -/
def isMarker (c : Cursor) (x : Char) : Bool :=
  c.mark.column == 0 && c.rest.take 3 == [x, x, x] && c.isGap 3

def isDocumentMarker (c : Cursor) : Bool := c.isMarker '-' || c.isMarker '.'

end Cursor

end RouteCascade.Yaml
