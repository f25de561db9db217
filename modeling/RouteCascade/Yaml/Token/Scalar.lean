import RouteCascade.Yaml.Token

/-!
# Scalars

Reading scalars off a text in the three ways in which they are written: plain, between quotes, and as
an indented block. A line break inside a scalar folds to a space unless more breaks follow it, in
which case those stay and it goes; blocks keep their breaks if they are literal.
-/
namespace RouteCascade.Yaml

/-- The gap between two parts of a scalar: blanks in a line, or breaks. -/
structure Gap where
  /-- The blanks before the first break, backwards. -/
  blanks : List Char := []
  /-- The first break. -/
  leading : List Char := []
  /-- The other breaks. -/
  trailing : List Char := []
  /-- There was a break, or an escaped one. -/
  broken : Bool := false

/-- The text that two runs of breaks fold to. -/
def foldBreaks (leading trailing : List Char) : List Char :=
  if leading.head? == some '\n' then (if trailing.isEmpty then [' '] else trailing)
  else leading ++ trailing

def Gap.text (g : Gap) : List Char :=
  if g.broken then foldBreaks g.leading g.trailing else g.blanks.reverse

/-- Reads a gap. After a break, a tab left of the column `least` is out of place; the reading then
ends at it and the flag tells. -/
def readGap (least : Int) : Nat → Gap → Cursor → Gap × Cursor × Bool
  | 0, g, c => (g, c, false)
  | fuel + 1, g, c =>
    match c.peek with
    | none => (g, c, false)
    | some x =>
      if isSpace x then
        if g.broken && (c.mark.column : Int) < least && x == '\t' then (g, c, true)
        else readGap least fuel (if g.broken then g else { g with blanks := x :: g.blanks }) c.skip
      else if isBreak x then
        let (b, c) := c.takeBreak
        if g.broken then readGap least fuel { g with trailing := g.trailing ++ b } c
        else readGap least fuel { g with blanks := [], leading := b, broken := true } c
      else (g, c, false)

/-- A scalar that was read: its text, its end, and whether it ran into a new line. -/
structure ReadScalar where
  text : String
  stop : Mark
  broken : Bool
  after : Cursor

/-- A mark of the flow style that may not follow a colon inside a plain scalar. -/
def isFlowMark (c : Char) : Bool := c == ',' || c == '?' || c == '[' || c == ']' || c == '{' || c == '}'

/-- A mark of the flow style that ends a plain scalar. -/
def endsFlowPlain (c : Char) : Bool := c == ',' || c == '[' || c == ']' || c == '{' || c == '}'

/-- How many characters of a plain scalar come next, and whether a colon that may not stand there
ends them. -/
def plainLength (inFlow : Bool) : List Char → Nat × Bool
  | [] => (0, false)
  | c :: r =>
    if isSpace c || isBreak c then (0, false)
    else if inFlow && c == ':' && (r.head?.map isFlowMark).getD false then (0, true)
    else if c == ':' && (r.head?.map fun x => isSpace x || isBreak x).getD true then (0, false)
    else if inFlow && endsFlowPlain c then (0, false)
    else
      let (n, bad) := plainLength inFlow r
      (n + 1, bad)

/-- Goes on reading a plain scalar; what has been read is kept backwards. -/
def readPlainFrom (inFlow : Bool) (least : Int) (start : Mark) :
    Nat → List Char → Gap → Mark → Cursor → Except SyntaxFault ReadScalar
  | 0, acc, g, stop, c => .ok ⟨String.ofList acc.reverse, stop, g.broken, c⟩
  | fuel + 1, acc, g, stop, c =>
    if c.isDocumentMarker || c.isAt '#' then .ok ⟨String.ofList acc.reverse, stop, g.broken, c⟩ else
    let (n, bad) := plainLength inFlow c.rest
    let next := c.skip n
    if bad then .error ⟨.plainColon, next.mark, some (.plain, start)⟩ else
    let (acc, g, stop) :=
      if n = 0 then (acc, g, stop)
      else ((c.rest.take n).reverse ++ (g.text.reverse ++ acc), ({ } : Gap), next.mark)
    if next.rest.isEmpty || !next.isGap then .ok ⟨String.ofList acc.reverse, stop, g.broken, next⟩ else
    let (g, after, tab) := readGap least (next.rest.length + 1) { } next
    if tab then .error ⟨.plainTab, after.mark, some (.plain, start)⟩
    else if !inFlow && (after.mark.column : Int) < least then
      .ok ⟨String.ofList acc.reverse, stop, g.broken, after⟩
    else readPlainFrom inFlow least start fuel acc g stop after

/-- Reads a plain scalar. In a block it ends at a line that starts left of the column `least`. -/
def readPlain (inFlow : Bool) (least : Int) (c : Cursor) : Except SyntaxFault ReadScalar :=
  readPlainFrom inFlow least c.mark (c.rest.length + 1) [] { } c.mark c

def escape? (c : Char) : Option Char :=
  match c with
  | '0' => some '\x00'
  | 'a' => some '\x07'
  | 'b' => some '\x08'
  | 't' | '\t' => some '\t'
  | 'n' => some '\n'
  | 'v' => some '\x0b'
  | 'f' => some '\x0c'
  | 'r' => some '\r'
  | 'e' => some '\x1b'
  | ' ' => some ' '
  | '"' => some '"'
  | '/' => some '/'
  | '\\' => some '\\'
  | 'N' => some (Char.ofNat 0x85)
  | '_' => some (Char.ofNat 0xA0)
  | 'L' => some (Char.ofNat 0x2028)
  | 'P' => some (Char.ofNat 0x2029)
  | _ => none

/-- How many digits an escape by number has. -/
def escapeDigits? (c : Char) : Option Nat :=
  match c with
  | 'x' => some 2
  | 'u' => some 4
  | 'U' => some 8
  | _ => none

def charOf? (n : Nat) : Option Char := if h : n.isValidChar then some (Char.ofNatAux n h) else none

def readEscape (start : Mark) (c : Cursor) : Except SyntaxFault (Char × Cursor) :=
  let unknown : SyntaxFault := ⟨.escapeUnknown, c.mark, some (.quotedParse, start)⟩
  match c.peek 1 with
  | none => .error unknown
  | some x =>
    match escape? x, escapeDigits? x with
    | some y, _ => .ok (y, c.skip 2)
    | none, none => .error unknown
    | none, some n =>
      let at2 := c.skip 2
      match (at2.rest.take n).mapM hexValue? with
      | none => .error ⟨.escapeDigits, at2.mark, some (.quotedParse, start)⟩
      | some ds =>
        if ds.length < n then .error ⟨.escapeDigits, at2.mark, some (.quotedParse, start)⟩ else
        match charOf? (ds.foldl (fun v d => v * 16 + d) 0) with
        | none => .error ⟨.escapeCode, at2.mark, some (.quotedParse, start)⟩
        | some y => .ok (y, at2.skip n)

/-- Reads the characters of a quoted scalar up to a gap, a quote or an escaped line break, which the
flag tells. What has been read is kept backwards. -/
def readQuotedRun (single : Bool) (start : Mark) :
    Nat → List Char → Cursor → Except SyntaxFault (List Char × Cursor × Bool)
  | 0, acc, c => .ok (acc, c, false)
  | fuel + 1, acc, c =>
    match c.peek with
    | none => .ok (acc, c, false)
    | some x =>
      if isSpace x || isBreak x then .ok (acc, c, false)
      else if single then
        if x == '\'' then
          if c.peek 1 == some '\'' then readQuotedRun single start fuel ('\'' :: acc) (c.skip 2)
          else .ok (acc, c, false)
        else readQuotedRun single start fuel (x :: acc) c.skip
      else if x == '"' then .ok (acc, c, false)
      else if x == '\\' then
        if (c.peek 1).any isBreak then .ok (acc, c.skip.skipBreak, true)
        else
          match readEscape start c with
          | .error e => .error e
          | .ok (y, c) => readQuotedRun single start fuel (y :: acc) c
      else readQuotedRun single start fuel (x :: acc) c.skip

def readQuotedFrom (single : Bool) (start : Mark) :
    Nat → List Char → Cursor → Except SyntaxFault ReadScalar
  | 0, _, c => .error ⟨.quotedEnd, c.mark, some (.quotedScan, start)⟩
  | fuel + 1, acc, c =>
    if c.isDocumentMarker then .error ⟨.quotedMarker, c.mark, some (.quotedScan, start)⟩
    else if c.rest.isEmpty then .error ⟨.quotedEnd, c.mark, some (.quotedScan, start)⟩ else
    match readQuotedRun single start (c.rest.length + 1) acc c with
    | .error e => .error e
    | .ok (acc, c, escaped) =>
      if c.isAt (if single then '\'' else '"') then
        .ok ⟨String.ofList acc.reverse, c.skip.mark, false, c.skip⟩
      else
        let (g, c, _) := readGap 0 (c.rest.length + 1) { broken := escaped } c
        readQuotedFrom single start fuel (g.text.reverse ++ acc) c

def readQuoted (single : Bool) (c : Cursor) : Except SyntaxFault ReadScalar :=
  readQuotedFrom single c.mark (c.rest.length + 1) [] c.skip

/-- Goes over indentation and empty lines in front of a line of a block. It gives the breaks, the end
of the last empty line, the deepest column and the place, or the place of a tab that stands where
indentation is expected. An `indent` of zero is not known yet. -/
def readBlockBreaks (indent : Nat) :
    Nat → List Char → Mark → Nat → Cursor → Except Cursor (List Char × Mark × Nat × Cursor)
  | 0, breaks, stop, deepest, c => .ok (breaks, stop, deepest, c)
  | fuel + 1, breaks, stop, deepest, c =>
    let room := if indent = 0 then c.rest.length else indent - c.mark.column
    let c := c.skip ((c.rest.take room).takeWhile (· == ' ')).length
    let deepest := max deepest c.mark.column
    if (indent = 0 || c.mark.column < indent) && c.isAt '\t' then .error c
    else if (c.peek).any isBreak then
      let (b, c) := c.takeBreak
      readBlockBreaks indent fuel (breaks ++ b) c.mark deepest c
    else .ok (breaks, stop, deepest, c)

/-- The parts of a block so far: its text backwards, the break after its last line and the breaks of
the empty lines after that. -/
structure BlockText where
  text : List Char := []
  leading : List Char := []
  trailing : List Char := []
  /-- The last line started with a blank. -/
  blank : Bool := false

/-- Adds a line. A folded block joins it to the line before, unless one of them starts with a blank. -/
def BlockText.addLine (b : BlockText) (literal : Bool) (line lineEnd : List Char) : BlockText :=
  let blank := (line.head?.map isSpace).getD false
  let gap :=
    if !literal && b.leading.head? == some '\n' && !b.blank && !blank then
      if b.trailing.isEmpty then [' '] else b.trailing
    else b.leading ++ b.trailing
  ⟨line.reverse ++ (gap.reverse ++ b.text), lineEnd, [], blank⟩

def readBlockLines (literal : Bool) (indent : Nat) (start : Mark) :
    Nat → BlockText → Mark → Cursor → Except SyntaxFault (BlockText × Mark × Cursor)
  | 0, b, stop, c => .ok (b, stop, c)
  | fuel + 1, b, stop, c =>
    if c.mark.column ≠ indent || c.rest.isEmpty then .ok (b, stop, c) else
    let (line, c) := c.span fun x => !isBreak x
    let (lineEnd, c) := c.takeBreak
    let b := b.addLine literal line lineEnd
    match readBlockBreaks indent (c.rest.length + 1) [] c.mark 0 c with
    | .error at' => .error ⟨.blockTab, at'.mark, some (.blockScalar, start)⟩
    | .ok (breaks, stop, _, c) =>
      readBlockLines literal indent start fuel { b with trailing := breaks } stop c

/-- Reads one of the two indicators after the mark of a block: how to end it, as `+` or `-`. -/
def readChomping (c : Cursor) : Option Char × Cursor :=
  match c.peek with
  | some '+' => (some '+', c.skip)
  | some '-' => (some '-', c.skip)
  | _ => (none, c)

/-- Reads the other: a digit for its indentation, zero if there is none. -/
def readIncrement (start : Mark) (c : Cursor) : Except SyntaxFault (Nat × Cursor) :=
  match c.peek.bind Text.digit? with
  | some 0 => .error ⟨.indentationZero, c.mark, some (.blockScalar, start)⟩
  | some n => .ok (n, c.skip)
  | none => .ok (0, c)

def skipToLineEnd (c : Cursor) : Cursor :=
  let c := (c.span isSpace).2
  if c.isAt '#' then (c.span fun x => !isBreak x).2 else c

/-- Reads a block, at its mark. The column `parent` is that of the collection around it, or -1. -/
def readBlock (literal : Bool) (parent : Int) (c : Cursor) : Except SyntaxFault ReadScalar := do
  let start := c.mark
  let (chomping, c1) := readChomping c.skip
  let (increment, c2) ← readIncrement start c1
  let (chomping, c3) := if chomping.isNone then readChomping c2 else (chomping, c2)
  let c4 := skipToLineEnd c3
  if !c4.isLineEnd then .error ⟨.commentOrBreak, c4.mark, some (.blockScalar, start)⟩ else
  let c5 := c4.skipBreak
  let known := if increment = 0 then 0 else (max parent 0).toNat + increment
  match readBlockBreaks known (c5.rest.length + 1) [] c5.mark 0 c5 with
  | .error at' => .error ⟨.blockTab, at'.mark, some (.blockScalar, start)⟩
  | .ok (breaks, stop, deepest, c6) =>
    let indent := if known = 0 then max (max deepest (parent + 1).toNat) 1 else known
    let (b, stop, after) ←
      readBlockLines literal indent start (c6.rest.length + 1) { trailing := breaks } stop c6
    let ending :=
      match chomping with
      | some '-' => []
      | some _ => b.leading ++ b.trailing
      | none => b.leading
    .ok ⟨String.ofList (b.text.reverse ++ ending), stop, false, after⟩

end RouteCascade.Yaml
