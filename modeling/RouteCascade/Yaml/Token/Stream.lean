import RouteCascade.Yaml.Token.Property

/-!
# From text to tokens

The lexer. It goes over the text once, keeps track of the columns of the open block collections, and
remembers the places where a key may have started without a mark of its own: when a colon shows that
one did, the key's token is put in front of what was read since.

A fault does not take back what was read before it, so a text is read as the tokens up to its first
fault, together with that fault. Tokens that a pending key might still have been put in front of are
not among them.
-/
namespace RouteCascade.Yaml

open Text

/-- A place where a key may have started. -/
structure PendingKey where
  /-- The key has to be completed. -/
  required : Bool
  /-- The number of the token that stands there. -/
  number : Nat
  mark : Mark

structure Lexer where
  cursor : Cursor
  /-- The tokens so far, the last one first. -/
  tokens : List Token := []
  /-- How many tokens there are so far. -/
  count : Nat := 0
  /-- The column of the innermost block collection, or -1. -/
  indent : Int := -1
  /-- The columns of the collections around it. -/
  indents : List Int := []
  /-- A key may start here without a mark. -/
  keyAllowed : Bool := true
  /-- The pending key of each flow collection, the innermost first; the last is that of the block. -/
  keys : List (Option PendingKey) := [none]

namespace Lexer

def flowLevel (l : Lexer) : Nat := l.keys.length - 1

def inFlow (l : Lexer) : Bool := 1 < l.keys.length

def mark (l : Lexer) : Mark := l.cursor.mark

def push (l : Lexer) (kind : Token.Kind) (start stop : Mark) : Lexer :=
  { l with tokens := ⟨kind, start, stop⟩ :: l.tokens, count := l.count + 1 }

def insert (l : Lexer) (number : Nat) (kind : Token.Kind) (mark : Mark) : Lexer :=
  let since := l.count - number
  { l with
    tokens := l.tokens.take since ++ ⟨kind, mark, mark⟩ :: l.tokens.drop since, count := l.count + 1 }

def pushMark (l : Lexer) (kind : Token.Kind) (n : Nat := 1) : Lexer :=
  let after := l.cursor.skip n
  { l.push kind l.mark after.mark with cursor := after }

/-- Opens a block collection at a column right of the innermost one. Its token goes to the end or in
front of the token with a number. -/
def roll (l : Lexer) (column : Nat) (number : Option Nat) (kind : Token.Kind) (mark : Mark) : Lexer :=
  if l.inFlow || (column : Int) ≤ l.indent then l else
  let opened := { l with indents := l.indent :: l.indents, indent := column }
  match number with
  | none => opened.push kind mark mark
  | some n => opened.insert n kind mark

/-- Closes the block collections right of a column. -/
def unroll (l : Lexer) (column : Int) : Lexer :=
  if l.inFlow then l else go l.indents l
where
  /-- Closes one collection after another. -/
  go : List Int → Lexer → Lexer
    | [], l => l
    | outer :: rest, l =>
      if column < l.indent then
        go rest { l.push .blockEnd l.mark l.mark with indent := outer, indents := rest }
      else l

def keyFault (l : Lexer) (k : PendingKey) : SyntaxFault :=
  ⟨.keyWithoutValue, l.mark, some (.simpleKey, k.mark)⟩

/-- The longest key without a mark, in characters. -/
def maxKey : Nat := 1024

/-- Gives up the pending keys that are too far back: a key has to end in its line. -/
def dropStale (l : Lexer) : Except SyntaxFault Lexer := do
  let stale (k : PendingKey) : Bool := k.mark.line < l.mark.line || k.mark.index + maxKey < l.mark.index
  -- the outermost collection is looked at first
  match l.keys.reverse.findSome? fun k => k.filter fun k => stale k && k.required with
  | some k => .error (l.keyFault k)
  | none => pure { l with keys := l.keys.map fun k => k.filter fun k => !stale k }

def dropKey (l : Lexer) : Except SyntaxFault Lexer :=
  match l.keys with
  | some k :: rest => if k.required then .error (l.keyFault k) else .ok { l with keys := none :: rest }
  | _ => .ok l

def saveKey (l : Lexer) : Except SyntaxFault Lexer := do
  if !l.keyAllowed then return l
  let required := !l.inFlow && l.indent == (l.mark.column : Int)
  let l ← l.dropKey
  return { l with keys := some ⟨required, l.count, l.mark⟩ :: l.keys.drop 1 }

/-- Sets whether a key may start without a mark. -/
def allowKey (l : Lexer) (b : Bool) : Lexer := { l with keyAllowed := b }

/-- Goes to the next token, over blanks, comments and line breaks. -/
def toNextToken : Nat → Lexer → Lexer
  | 0, l => l
  | fuel + 1, l =>
    let c := l.cursor
    let c := if c.mark.index == 0 && (c.peek).any (·.toNat == 0xFEFF) then c.skip else c
    let tabs := l.inFlow || !l.keyAllowed
    let c := (c.span fun x => x == ' ' || (tabs && x == '\t')).2
    let c := if c.isAt '#' then (c.span fun x => !isBreak x).2 else c
    if (c.peek).any isBreak then
      toNextToken fuel { l with cursor := c.skipBreak, keyAllowed := l.keyAllowed || !l.inFlow }
    else { l with cursor := c }

def documentMarker (l : Lexer) (kind : Token.Kind) : Except SyntaxFault Lexer := do
  let l ← (l.unroll (-1)).dropKey
  return (l.allowKey false).pushMark kind 3

def streamEnd (l : Lexer) : Except SyntaxFault Lexer := do
  let m := l.mark
  let m := if m.column = 0 then m else ⟨m.index, m.line + 1, 0⟩
  let l ← ({ l with cursor := ⟨[], m⟩ }.unroll (-1)).dropKey
  return (l.allowKey false).push .streamEnd m m

def directive (l : Lexer) : Except SyntaxFault Lexer := do
  let l ← (l.unroll (-1)).dropKey
  let (kind, stop, after) ← readDirective l.cursor
  return { (l.allowKey false).push kind l.mark stop with cursor := after }

def openFlow (l : Lexer) (kind : Token.Kind) : Except SyntaxFault Lexer := do
  let l ← l.saveKey
  return ({ l with keys := none :: l.keys }.allowKey true).pushMark kind

def closeFlow (l : Lexer) (kind : Token.Kind) : Except SyntaxFault Lexer := do
  let l ← l.dropKey
  let keys := if l.inFlow then l.keys.drop 1 else l.keys
  return ({ l with keys := keys }.allowKey false).pushMark kind

/-- A comma in a flow collection. -/
def flowEntry (l : Lexer) : Except SyntaxFault Lexer := do
  let l ← l.dropKey
  return (l.allowKey true).pushMark .flowEntry

/-- The fault that something may not stand at a place. -/
def misplaced (l : Lexer) (p : Problem) : SyntaxFault := ⟨p, l.mark, none⟩

/-- A hyphen in front of an entry. -/
def blockEntry (l : Lexer) : Except SyntaxFault Lexer := do
  if !l.inFlow && !l.keyAllowed then throw (l.misplaced .sequenceEntryHere)
  let l ← (l.roll l.mark.column none .blockSequenceStart l.mark).dropKey
  return (l.allowKey true).pushMark .blockEntry

/-- A question mark in front of a key. -/
def explicitKey (l : Lexer) : Except SyntaxFault Lexer := do
  if !l.inFlow && !l.keyAllowed then throw (l.misplaced .mappingKeyHere)
  let l ← (l.roll l.mark.column none .blockMappingStart l.mark).dropKey
  return (l.allowKey (!l.inFlow)).pushMark .key

/-- A colon in front of a value. -/
def mappingValue (l : Lexer) : Except SyntaxFault Lexer := do
  match l.keys with
  | some k :: rest =>
    let l := (l.insert k.number .key k.mark).roll k.mark.column (some k.number) .blockMappingStart k.mark
    return ({ l with keys := none :: rest }.allowKey false).pushMark .value
  | _ =>
    if !l.inFlow && !l.keyAllowed then throw (l.misplaced .mappingValueHere)
    let l := l.roll l.mark.column none .blockMappingStart l.mark
    return (l.allowKey (!l.inFlow)).pushMark .value

def anchor (l : Lexer) (context : Context) (kind : String → Token.Kind) : Except SyntaxFault Lexer := do
  let l ← l.saveKey
  let (name, after) ← readAnchor context l.cursor
  return { (l.allowKey false).push (kind name) l.mark after.mark with cursor := after }

def tag (l : Lexer) : Except SyntaxFault Lexer := do
  let l ← l.saveKey
  let (handle, suffix, after) ← readTag l.inFlow l.cursor
  return { (l.allowKey false).push (.tag handle suffix) l.mark after.mark with cursor := after }

def pushScalar (l : Lexer) (style : Style) (s : ReadScalar) : Lexer :=
  { l.push (.scalar s.text style) l.mark s.stop with cursor := s.after }

def block (l : Lexer) (style : Style) : Except SyntaxFault Lexer := do
  let l ← l.dropKey
  return (l.allowKey true).pushScalar style (← readBlock (style == .literal) l.indent l.cursor)

def quoted (l : Lexer) (style : Style) : Except SyntaxFault Lexer := do
  let l ← l.saveKey
  return (l.allowKey false).pushScalar style (← readQuoted (style == .singleQuoted) l.cursor)

def plain (l : Lexer) : Except SyntaxFault Lexer := do
  let l ← l.saveKey
  let s ← readPlain l.inFlow (l.indent + 1) l.cursor
  return (l.allowKey s.broken).pushScalar .plain s

/-- A mark that no plain scalar starts with. -/
def isIndicator (c : Char) : Bool :=
  ['-', '?', ':', ',', '[', ']', '{', '}', '#', '&', '*', '!', '|', '>', '\'', '"', '%', '@',
    Char.ofNat 96].contains c

/-- A plain scalar may start here: with no mark, with a hyphen before a non-blank, and outside flow
collections with a question mark or a colon before something else than a gap. -/
def startsPlain (l : Lexer) (x : Char) : Bool :=
  !(isSpace x || isBreak x || isIndicator x) ||
    (x == '-' && !((l.cursor.peek 1).any isSpace)) ||
    (!l.inFlow && (x == '?' || x == ':') && !l.cursor.isGap 1)

/-- Reads the next token, with all that has to stand in front of it. -/
def fetch (l : Lexer) : Except SyntaxFault Lexer := do
  let l ← (l.toNextToken (l.cursor.rest.length + 1)).dropStale
  let l := l.unroll l.mark.column
  let c := l.cursor
  match c.peek with
  | none => l.streamEnd
  | some x =>
    if c.mark.column == 0 && x == '%' then l.directive
    else if c.isMarker '-' then l.documentMarker .documentStart
    else if c.isMarker '.' then l.documentMarker .documentEnd
    else if x == '[' then l.openFlow .flowSequenceStart
    else if x == '{' then l.openFlow .flowMappingStart
    else if x == ']' then l.closeFlow .flowSequenceEnd
    else if x == '}' then l.closeFlow .flowMappingEnd
    else if x == ',' then l.flowEntry
    else if x == '-' && c.isGap 1 then l.blockEntry
    else if x == '?' && (l.inFlow || c.isGap 1) then l.explicitKey
    else if x == ':' && (l.inFlow || c.isGap 1) then l.mappingValue
    else if x == '*' then l.anchor .reference .reference
    else if x == '&' then l.anchor .anchor .anchor
    else if x == '!' then l.tag
    else if x == '|' && !l.inFlow then l.block .literal
    else if x == '>' && !l.inFlow then l.block .folded
    else if x == '\'' then l.quoted .singleQuoted
    else if x == '"' then l.quoted .doubleQuoted
    else if l.startsPlain x then l.plain
    else throw ⟨.noToken, c.mark, some (.nextToken, c.mark)⟩

def isDone (l : Lexer) : Bool := l.tokens.head?.any (·.kind == .streamEnd)

/-- The tokens that no pending key can be put in front of any more. -/
def settled (l : Lexer) : List Token :=
  let limit := l.keys.foldl (fun n k => match k with
    | some k => min n k.number
    | none => n) l.count
  (l.tokens.drop (l.count - limit)).reverse

/-- Reads tokens to the end or to the first fault. -/
def run : Nat → Lexer → List Token × Option SyntaxFault
  | 0, l => (l.tokens.reverse, none)
  | fuel + 1, l =>
    if l.isDone then (l.tokens.reverse, none) else
    match l.fetch with
    | .error e => (l.settled, some e)
    | .ok next =>
      match next.dropStale with
      | .error e => (l.settled, some e)
      | .ok next => run fuel next

end Lexer

def isAllowed (c : Char) : Bool :=
  let n := c.toNat
  n == 9 || n == 10 || n == 13 || (0x20 ≤ n && n ≤ 0x7E) || n == 0x85 || (0xA0 ≤ n && n ≤ 0xFFFD) ||
    0x10000 ≤ n

/-- The offset in bytes of the first character that may not occur. -/
def controlOffset? : Nat → List Char → Option Nat
  | _, [] => none
  | n, c :: s => if isAllowed c then controlOffset? (n + c.utf8Size) s else some n

/-- The tokens of a text up to its first fault, and that fault. -/
def tokensOf (s : List Char) : List Token × Option SyntaxFault :=
  match controlOffset? 0 s with
  | some n => ([⟨.streamStart, .start, .start⟩], some ⟨.controlCharacter n, .start, none⟩)
  | none =>
    let start : Lexer := { cursor := ⟨s, .start⟩ }
    (start.push .streamStart .start .start).run (4 * s.length + 4)

end RouteCascade.Yaml
