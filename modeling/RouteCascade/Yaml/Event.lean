import RouteCascade.Yaml.Token

/-!
# From tokens to events

The grammar of documents, read off the tokens: which nodes there are and how they are nested, with
empty scalars where a node is left out. A reader stands in one of the states below and keeps the
states to go back to, so that every step looks at the next token only.
-/
namespace RouteCascade.Yaml

open Text

structure Properties where
  anchor : Option String := none
  tag : Option Bytes := none
  deriving DecidableEq, Repr

/-- A step through a document. -/
inductive Event where
  | documentStart
  | documentEnd
  | streamEnd
  | reference (name : String)
  | scalar (properties : Properties) (text : String) (style : Style)
  | sequenceStart (properties : Properties)
  | sequenceEnd
  | mappingStart (properties : Properties)
  | mappingEnd
  deriving DecidableEq, Repr

/-- Where a reader of tokens stands. A flag tells the first entry of a collection from the others. -/
inductive Grammar where
  | documentStart (implicitAllowed : Bool)
  | documentContent
  | documentEnd
  | blockNode
  | blockSequence (first : Bool)
  | indentlessSequence
  | blockMappingKey (first : Bool)
  | blockMappingValue
  | flowSequence (first : Bool)
  | flowPairKey
  | flowPairValue
  | flowPairEnd
  | flowMappingKey (first : Bool)
  | flowMappingValue
  | flowMappingEmptyValue
  | finished
  deriving DecidableEq, Repr

structure EventReader where
  tokens : List Token
  /-- The fault that ends the tokens. -/
  fault : Option SyntaxFault
  state : Grammar
  /-- The states to go back to, the next one first. -/
  states : List Grammar := []
  /-- Where the open collections start, the innermost first. -/
  starts : List Mark := []
  /-- The tag handles of the document, with what they stand for. -/
  handles : List (Bytes × Bytes) := []

namespace EventReader

/-- A step gives an event with its place and the reader after it. -/
abbrev Result := Except SyntaxFault (Event × Mark × EventReader)

def peek (r : EventReader) : Except SyntaxFault Token :=
  match r.tokens, r.fault with
  | t :: _, _ => .ok t
  | [], some e => .error e
  | [], none => .ok ⟨.streamEnd, .start, .start⟩

def skip (r : EventReader) : EventReader := { r with tokens := r.tokens.drop 1 }

def goto (r : EventReader) (s : Grammar) : EventReader := { r with state := s }

/-- Remembers a state to go back to. -/
def later (r : EventReader) (s : Grammar) : EventReader := { r with states := s :: r.states }

/-- Goes back to the state remembered last. -/
def back (r : EventReader) : EventReader :=
  { r with state := r.states.headD .finished, states := r.states.drop 1 }

/-- Opens a collection: remembers where it starts and goes over its token. -/
def enter (r : EventReader) (m : Mark) : EventReader := { r.skip with starts := m :: r.starts }

def leave (r : EventReader) : EventReader := { r.back with starts := r.starts.drop 1 }

/-- The fault that a collection does not go on as it should. -/
def broken (r : EventReader) (c : Context) (p : Problem) (m : Mark) : SyntaxFault :=
  ⟨p, m, some (c, r.starts.headD .start)⟩

/-- A scalar for a node that is left out. -/
def emptyScalar (r : EventReader) (m : Mark) : Result := .ok (.scalar { } "" .plain, m, r)

def takeAnchor (r : EventReader) : Except SyntaxFault (Option String × Mark × EventReader) := do
  let t ← r.peek
  match t.kind with
  | .anchor name => pure (some name, t.stop, r.skip)
  | _ => pure (none, t.start, r)

/-- Takes a tag as it was written, with its place. -/
def takeTag (r : EventReader) : Except SyntaxFault (Option (Bytes × Bytes × Mark) × EventReader) := do
  let t ← r.peek
  match t.kind with
  | .tag handle suffix => pure (some (handle, suffix, t.start), r.skip)
  | _ => pure (none, r)

/-- The tag that a handle and a suffix stand for. -/
def resolve (r : EventReader) (start : Mark) : Option (Bytes × Bytes × Mark) →
    Except SyntaxFault (Option Bytes)
  | none => .ok none
  | some (handle, suffix, mark) =>
    if handle.isEmpty then .ok (some suffix) else
    match r.handles.lookup handle with
    | some p => .ok (some (p ++ suffix))
    | none => .error ⟨.undefinedTag, mark, some (.node, start)⟩

/-- Reads a node. Where `indentless` is set, a sequence may start without indentation. -/
def node (block indentless : Bool) (r : EventReader) : Result := do
  let t ← r.peek
  match t.kind with
  | .reference name => pure (.reference name, t.start, r.skip.back)
  | _ =>
    let start := t.start
    let (anchor, _, r1) ← r.takeAnchor
    let (tag, r2) ← r1.takeTag
    let (anchor, _, r3) ← if anchor.isNone && tag.isSome then r2.takeAnchor else pure (anchor, start, r2)
    let tag ← r3.resolve start tag
    let properties : Properties := ⟨anchor, tag⟩
    let t ← r3.peek
    match t.kind with
    | .scalar text style =>
      let tag := if tag == some [33] then none else tag
      pure (.scalar { properties with tag } text style, start, r3.skip.back)
    | .flowSequenceStart => pure (.sequenceStart properties, start, r3.goto (.flowSequence true))
    | .flowMappingStart => pure (.mappingStart properties, start, r3.goto (.flowMappingKey true))
    | kind =>
      if indentless && kind == .blockEntry then
        pure (.sequenceStart properties, start, r3.goto .indentlessSequence)
      else if block && kind == .blockSequenceStart then
        pure (.sequenceStart properties, start, r3.goto (.blockSequence true))
      else if block && kind == .blockMappingStart then
        pure (.mappingStart properties, start, r3.goto (.blockMappingKey true))
      else if anchor.isSome || tag.isSome then
        pure (.scalar properties "" .plain, start, r3.back)
      else throw ⟨.nodeContent, t.start, some (if block then .blockNode else .flowNode, start)⟩

/-- The handle of local tags, and that of the tags of the language. -/
def standardHandles : List (Bytes × Bytes) :=
  [([33], [33]), ([33, 33], bytesOf "tag:yaml.org,2002:")]

def directives (version : Bool) : Nat → EventReader → Except SyntaxFault EventReader
  | 0, r => .ok r
  | fuel + 1, r => do
    let t ← r.peek
    match t.kind with
    | .versionDirective major minor =>
      if version then throw ⟨.duplicateVersion, t.start, none⟩
      if major != 1 || (minor != 1 && minor != 2) then throw ⟨.incompatibleVersion, t.start, none⟩
      directives true fuel r.skip
    | .tagDirective handle start =>
      if (r.handles.lookup handle).isSome then throw ⟨.duplicateTag, t.start, none⟩
      directives version fuel { r.skip with handles := r.handles ++ [(handle, start)] }
    | _ =>
      let missing := standardHandles.filter fun h => (r.handles.lookup h.1).isNone
      pure { r with handles := r.handles ++ missing }

def skipEnds : Nat → EventReader → Except SyntaxFault EventReader
  | 0, r => .ok r
  | fuel + 1, r => do
    let t ← r.peek
    if t.kind == .documentEnd then skipEnds fuel r.skip else pure r

/-- Starts a document, or ends the stream. Only the first document may do without a mark. -/
def startDocument (implicitAllowed : Bool) (r : EventReader) : Result := do
  let r ← if implicitAllowed then pure r else r.skipEnds (r.tokens.length + 1)
  let t ← r.peek
  match t.kind with
  | .streamEnd => pure (.streamEnd, t.start, r.skip.goto .finished)
  | .versionDirective .. | .tagDirective .. | .documentStart =>
    explicit r t
  | _ =>
    if implicitAllowed then
      let r ← r.directives false 1
      pure (.documentStart, t.start, (r.later .documentEnd).goto .blockNode)
    else explicit r t
where
  /-- Starts a document at its mark, after the directives. -/
  explicit (r : EventReader) (t : Token) : Result := do
    let r ← r.directives false (r.tokens.length + 1)
    let mark ← r.peek
    if mark.kind != .documentStart then throw ⟨.documentStart, mark.start, none⟩
    pure (.documentStart, t.start, (r.skip.later .documentEnd).goto .documentContent)

def blockSequence (first : Bool) (r : EventReader) : Result := do
  let r ← if first then do pure (r.enter (← r.peek).start) else pure r
  let t ← r.peek
  match t.kind with
  | .blockEntry =>
    let r := r.skip
    match (← r.peek).kind with
    | .blockEntry | .blockEnd => (r.goto (.blockSequence false)).emptyScalar t.stop
    | _ => (r.later (.blockSequence false)).node true false
  | .blockEnd => pure (.sequenceEnd, t.start, r.skip.leave)
  | _ => throw (r.broken .blockCollection .blockEntry t.start)

def indentlessSequence (r : EventReader) : Result := do
  let t ← r.peek
  match t.kind with
  | .blockEntry =>
    let r := r.skip
    match (← r.peek).kind with
    | .blockEntry | .key | .value | .blockEnd => (r.goto .indentlessSequence).emptyScalar t.stop
    | _ => (r.later .indentlessSequence).node true false
  | _ => pure (.sequenceEnd, t.start, r.back)

def blockMappingKey (first : Bool) (r : EventReader) : Result := do
  let r ← if first then do pure (r.enter (← r.peek).start) else pure r
  let t ← r.peek
  match t.kind with
  | .key =>
    let r := r.skip
    match (← r.peek).kind with
    | .key | .value | .blockEnd => (r.goto .blockMappingValue).emptyScalar t.stop
    | _ => (r.later .blockMappingValue).node true true
  | .blockEnd => pure (.mappingEnd, t.start, r.skip.leave)
  | _ => throw (r.broken .blockMapping .blockKey t.start)

def blockMappingValue (r : EventReader) : Result := do
  let t ← r.peek
  match t.kind with
  | .value =>
    let r := r.skip
    match (← r.peek).kind with
    | .key | .value | .blockEnd => (r.goto (.blockMappingKey false)).emptyScalar t.stop
    | _ => (r.later (.blockMappingKey false)).node true true
  | _ => (r.goto (.blockMappingKey false)).emptyScalar t.start

/-- Reads the comma in front of an entry of a flow collection other than the first. -/
def comma (first : Bool) (c : Context) (p : Problem) (r : EventReader) : Except SyntaxFault EventReader := do
  if first then return r
  let t ← r.peek
  if t.kind == .flowEntry then return r.skip else throw (r.broken c p t.start)

/-- Reads an entry of a flow sequence; it may be a single pair. -/
def flowSequence (first : Bool) (r : EventReader) : Result := do
  let r ← if first then do pure (r.enter (← r.peek).start) else pure r
  let t ← r.peek
  if t.kind == .flowSequenceEnd then pure (.sequenceEnd, t.start, r.skip.leave) else
  let r ← r.comma first .flowSequence .flowEntry
  let t ← r.peek
  match t.kind with
  | .key => pure (.mappingStart { }, t.start, r.skip.goto .flowPairKey)
  | .flowSequenceEnd => pure (.sequenceEnd, t.start, r.skip.leave)
  | _ => (r.later (.flowSequence false)).node false false

/-- Reads the key of a single pair. One that is left out takes the next token with it. -/
def flowPairKey (r : EventReader) : Result := do
  let t ← r.peek
  match t.kind with
  | .value | .flowEntry | .flowSequenceEnd => (r.skip.goto .flowPairValue).emptyScalar t.stop
  | _ => (r.later .flowPairValue).node false false

def flowPairValue (r : EventReader) : Result := do
  let t ← r.peek
  match t.kind with
  | .value =>
    let r := r.skip
    let next ← r.peek
    match next.kind with
    | .flowEntry | .flowSequenceEnd => (r.goto .flowPairEnd).emptyScalar next.start
    | _ => (r.later .flowPairEnd).node false false
  | _ => (r.goto .flowPairEnd).emptyScalar t.start

def flowMappingKey (first : Bool) (r : EventReader) : Result := do
  let r ← if first then do pure (r.enter (← r.peek).start) else pure r
  let t ← r.peek
  if t.kind == .flowMappingEnd then pure (.mappingEnd, t.start, r.skip.leave) else
  let r ← r.comma first .flowMapping .flowKey
  let t ← r.peek
  match t.kind with
  | .key =>
    let r := r.skip
    let next ← r.peek
    match next.kind with
    | .value | .flowEntry | .flowMappingEnd => (r.goto .flowMappingValue).emptyScalar next.start
    | _ => (r.later .flowMappingValue).node false false
  | .flowMappingEnd => pure (.mappingEnd, t.start, r.skip.leave)
  | _ => (r.later .flowMappingEmptyValue).node false false

def flowMappingValue (r : EventReader) : Result := do
  let t ← r.peek
  match t.kind with
  | .value =>
    let r := r.skip
    let next ← r.peek
    match next.kind with
    | .flowEntry | .flowMappingEnd => (r.goto (.flowMappingKey false)).emptyScalar next.start
    | _ => (r.later (.flowMappingKey false)).node false false
  | _ => (r.goto (.flowMappingKey false)).emptyScalar t.start

def step (r : EventReader) : Result := do
  match r.state with
  | .documentStart implicitAllowed => r.startDocument implicitAllowed
  | .documentContent =>
    let t ← r.peek
    match t.kind with
    | .versionDirective .. | .tagDirective .. | .documentStart | .documentEnd | .streamEnd =>
      r.back.emptyScalar t.start
    | _ => r.node true false
  | .documentEnd =>
    let t ← r.peek
    let after := if t.kind == .documentEnd then r.skip else r
    pure (.documentEnd, t.start, { after.goto (.documentStart false) with handles := [] })
  | .blockNode => r.node true false
  | .blockSequence first => r.blockSequence first
  | .indentlessSequence => r.indentlessSequence
  | .blockMappingKey first => r.blockMappingKey first
  | .blockMappingValue => r.blockMappingValue
  | .flowSequence first => r.flowSequence first
  | .flowPairKey => r.flowPairKey
  | .flowPairValue => r.flowPairValue
  | .flowPairEnd =>
    let t ← r.peek
    pure (.mappingEnd, t.start, r.goto (.flowSequence false))
  | .flowMappingKey first => r.flowMappingKey first
  | .flowMappingValue => r.flowMappingValue
  | .flowMappingEmptyValue =>
    let t ← r.peek
    (r.goto (.flowMappingKey false)).emptyScalar t.start
  | .finished => pure (.streamEnd, .start, r)

/-- Reads events to the end of the stream or to the first fault. -/
def run : Nat → EventReader → List (Event × Mark) × Option SyntaxFault
  | 0, _ => ([], none)
  | fuel + 1, r =>
    match r.step with
    | .error e => ([], some e)
    | .ok (event, mark, r) =>
      if event = .streamEnd then ([(event, mark)], none) else
      let (events, fault) := run fuel r
      ((event, mark) :: events, fault)

end EventReader

/-- The events of some tokens up to the first fault, and that fault. -/
def eventsOf (tokens : List Token) (fault : Option SyntaxFault) :
    List (Event × Mark) × Option SyntaxFault :=
  -- the first token starts the stream
  let r : EventReader :=
    { tokens := tokens.drop 1, fault := fault, state := .documentStart true }
  r.run (4 * tokens.length + 8)

end RouteCascade.Yaml
