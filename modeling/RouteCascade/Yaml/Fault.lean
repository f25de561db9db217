/-!
# What is wrong with a document

Positions in a text, the ways in which a text fails to be a YAML document, and their wording. A fault
names a problem with the place where it was noticed and may name what was being read with the place
where that started.
-/
namespace RouteCascade.Yaml

/-- A place in a text: characters before it, and line and column, all counted from zero. -/
structure Mark where
  index : Nat
  line : Nat
  column : Nat
  deriving DecidableEq, Repr

def Mark.start : Mark := ⟨0, 0, 0⟩

/-- The very first place, which messages do not mention. -/
def Mark.isOrigin (m : Mark) : Bool := m.line == 0 && m.column == 0

/-- A place as messages show it, counted from one. -/
def Mark.text (m : Mark) : String := s!"line {m.line + 1} column {m.column + 1}"

inductive Problem where
  | controlCharacter (offset : Nat)
  | keyWithoutValue
  | noToken
  | sequenceEntryHere
  | mappingKeyHere
  | mappingValueHere
  | directiveName
  | directiveNameEnd
  | directiveUnknown
  | directiveEnd
  | versionNumber
  | versionNumberLength
  | versionPoint
  | tagMark
  | tagUri
  | tagClose
  | tagEnd
  | tagSpace
  | uriOctet
  | uriLeadingOctet
  | uriTrailingOctet
  | anchorName
  | indentationZero
  | commentOrBreak
  | blockTab
  | plainTab
  | plainColon
  | quotedMarker
  | quotedEnd
  | escapeUnknown
  | escapeDigits
  | escapeCode
  | documentStart
  | duplicateVersion
  | incompatibleVersion
  | duplicateTag
  | undefinedTag
  | nodeContent
  | blockEntry
  | blockKey
  | flowEntry
  | flowKey
  deriving DecidableEq, Repr

def Problem.text : Problem → String
  | controlCharacter _ => "control characters are not allowed"
  | keyWithoutValue => "could not find expected ':'"
  | noToken => "found character that cannot start any token"
  | sequenceEntryHere => "block sequence entries are not allowed in this context"
  | mappingKeyHere => "mapping keys are not allowed in this context"
  | mappingValueHere => "mapping values are not allowed in this context"
  | directiveName => "could not find expected directive name"
  | directiveNameEnd => "found unexpected non-alphabetical character"
  | directiveUnknown => "found unknown directive name"
  | directiveEnd => "did not find expected comment or line break"
  | versionNumber => "did not find expected version number"
  | versionNumberLength => "found extremely long version number"
  | versionPoint => "did not find expected digit or '.' character"
  | tagMark => "did not find expected '!'"
  | tagUri => "did not find expected tag URI"
  | tagClose => "did not find the expected '>'"
  | tagEnd => "did not find expected whitespace or line break"
  | tagSpace => "did not find expected whitespace"
  | uriOctet => "did not find URI escaped octet"
  | uriLeadingOctet => "found an incorrect leading UTF-8 octet"
  | uriTrailingOctet => "found an incorrect trailing UTF-8 octet"
  | anchorName => "did not find expected alphabetic or numeric character"
  | indentationZero => "found an indentation indicator equal to 0"
  | commentOrBreak => "did not find expected comment or line break"
  | blockTab => "found a tab character where an indentation space is expected"
  | plainTab => "found a tab character that violates indentation"
  | plainColon => "found unexpected ':'"
  | quotedMarker => "found unexpected document indicator"
  | quotedEnd => "found unexpected end of stream"
  | escapeUnknown => "found unknown escape character"
  | escapeDigits => "did not find expected hexdecimal number"
  | escapeCode => "found invalid Unicode character escape code"
  | documentStart => "did not find expected <document start>"
  | duplicateVersion => "found duplicate %YAML directive"
  | incompatibleVersion => "found incompatible YAML document"
  | duplicateTag => "found duplicate %TAG directive"
  | undefinedTag => "found undefined tag handle"
  | nodeContent => "did not find expected node content"
  | blockEntry => "did not find expected '-' indicator"
  | blockKey => "did not find expected key"
  | flowEntry => "did not find expected ',' or ']'"
  | flowKey => "did not find expected ',' or '\x7d'"

inductive Context where
  | nextToken
  | simpleKey
  | directive
  | versionDirective
  | tagDirectiveScan
  | tagDirectiveHandle
  | tagDirectiveName
  | tagDirectiveParse
  | tagScan
  | tagParse
  | anchor
  | reference
  | blockScalar
  | quotedScan
  | quotedParse
  | plain
  | node
  | blockNode
  | flowNode
  | blockCollection
  | blockMapping
  | flowSequence
  | flowMapping
  deriving DecidableEq, Repr

def Context.text : Context → String
  | nextToken => "while scanning for the next token"
  | simpleKey => "while scanning a simple key"
  | directive => "while scanning a directive"
  | versionDirective => "while scanning a %YAML directive"
  | tagDirectiveScan => "while scanning a %TAG directive"
  | tagDirectiveHandle => "while scanning a tag directive"
  | tagDirectiveName => "while parsing a tag directive"
  | tagDirectiveParse => "while parsing a %TAG directive"
  | tagScan => "while scanning a tag"
  | tagParse => "while parsing a tag"
  | anchor => "while scanning an anchor"
  | reference => "while scanning an alias"
  | blockScalar => "while scanning a block scalar"
  | quotedScan => "while scanning a quoted scalar"
  | quotedParse => "while parsing a quoted scalar"
  | plain => "while scanning a plain scalar"
  | node => "while parsing a node"
  | blockNode => "while parsing a block node"
  | flowNode => "while parsing a flow node"
  | blockCollection => "while parsing a block collection"
  | blockMapping => "while parsing a block mapping"
  | flowSequence => "while parsing a flow sequence"
  | flowMapping => "while parsing a flow mapping"

structure SyntaxFault where
  problem : Problem
  mark : Mark
  context : Option (Context × Mark) := none
  deriving DecidableEq, Repr

/-- Where a problem is said to be: not at the very first place, but the offset of a character that may
not occur at all is given in bytes. -/
def SyntaxFault.place (f : SyntaxFault) : String :=
  if !f.mark.isOrigin then s!" at {f.mark.text}"
  else match f.problem with
    | .controlCharacter 0 => ""
    | .controlCharacter n => s!" at position {n}"
    | _ => ""

def SyntaxFault.message (f : SyntaxFault) : String :=
  let context := match f.context with
    | none => ""
    | some (c, m) =>
      if m.isOrigin || (m.line == f.mark.line && m.column == f.mark.column) then s!", {c.text}"
      else s!", {c.text} at {m.text}"
  f.problem.text ++ f.place ++ context

end RouteCascade.Yaml
