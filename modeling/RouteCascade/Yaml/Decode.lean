import RouteCascade.Yaml.Complaint
import RouteCascade.Yaml.Token.Stream

/-!
# Reading data off documents

Readers for truth values, numbers, texts, sequences and records, and one for values of any kind. A
reader is given a node and where it stands, and follows aliases. How deep a document may be nested is
bounded, and so is how often aliases are followed, since a small document could stand for a huge one.
-/
namespace RouteCascade.Yaml

open Text

/-- Reading within a document, with the number of aliases followed so far. -/
abbrev Decode := ReaderT Document (StateT Nat (Except Fault))

/-- Where a node stands: the way to it, and how much deeper nodes may be nested. -/
structure Place where
  way : Way := []
  room : Nat := 128

def Place.inside (p : Place) (s : Step) : Place := { p with way := s :: p.way }

abbrev Decoder (α : Type) := Place → Node → Decode α

namespace Decode

/-- The fault of a document that has been read to where it breaks off. -/
def broken {α : Type} : Decode α := do
  match (← read).cut with
  | some c => throw (.cut c)
  | none => throw .endOfText

/-- How many aliases may be followed for each step of a document. -/
def repetitionsPerStep : Nat := 100

/-- The node itself, or the one that an alias stands for. -/
def look (n : Node) : Decode Node := do
  match n with
  | .missing => broken
  | .reference _ target =>
    let d ← read
    let used := (← get) + 1
    if d.size * repetitionsPerStep < used then throw .tooManyRepetitions
    set used
    pure ((d.targets.lookup target).getD .missing)
  | n => pure n

def complain {α : Type} (p : Place) (n : Node) (c : Complaint) : Decode α :=
  throw (.complaint c n.mark p.way)

def refuse {α : Type} (expected : String) (p : Place) (n : Node) : Decode α :=
  match n with
  | .scalar _ tag s style =>
    match Scalar.resolve tag style s with
    | .ok found => complain p n (.wrongType (.scalar found) expected)
    | .error standard => complain p n (.wrongValue (.scalar (.text s)) standard)
  | .sequence .. => complain p n (.wrongType .sequence expected)
  | .mapping .. => complain p n (.wrongType .mapping expected)
  | .void => throw .endOfText
  | .missing | .reference .. => broken

/-- The scalar may be a truth value or a number: it is plain, or a literal block with the tag. -/
def isBare (tagName : String) (tag : Option Bytes) (style : Style) : Bool :=
  style == .plain || (style == .literal && tag == some (Scalar.standardTag tagName))

def bool : Decoder Bool := fun p n => do
  let n ← look n
  match n with
  | .scalar _ tag s style =>
    match isBare "bool" tag style, Scalar.bool? s with
    | true, some b => pure b
    | _, _ => refuse "a boolean" p n
  | n => refuse "a boolean" p n

/-- Reads a number of so many bits without a sign. -/
def unsigned (bits : Nat) : Decoder Nat := fun p n => do
  let expected := s!"u{bits}"
  let n ← look n
  match n with
  | .scalar _ tag s style =>
    match isBare "int" tag style, Scalar.unsigned? (Nat.pow 2 64) s.toList with
    | true, some i =>
      if i.toNat < Nat.pow 2 bits then pure i.toNat
      else complain p n (.wrongValue (.scalar (.integer i)) expected)
    | _, _ => refuse expected p n
  | n => refuse expected p n

/-- Reads a scalar as it is written. -/
def scalarText (expected : String) : Decoder String := fun p n => do
  let n ← look n
  match n with
  | .scalar _ _ s _ => pure s
  | n => refuse expected p n

def string : Decoder String := scalarText "a string"

def isEmptyScalar (s : String) (style : Style) : Bool := s.isEmpty && style == .plain

/-- Reads something that may be null. Whoever says by a tag that it is, and gives something else, is
told so with the place of the record that it belongs to. -/
def optional {α : Type} (owner : Place) (record : Node) (d : Decoder α) : Decoder (Option α) := fun p n => do
  let n ← look n
  match n with
  | .void => pure none
  | .scalar _ tag s style =>
    let isNone ←
      if style != .plain then pure false
      else match tag with
        | none => pure (s.isEmpty || Scalar.isNull s)
        | some t =>
          if t != Scalar.standardTag "null" then pure false
          else if Scalar.isNull s then pure true
          else complain owner record (.wrongValue (.scalar (.text s)) "null")
    if isNone then pure none else some <$> d p n
  | n => some <$> d p n

def enter (p : Place) (n : Node) : Decode Place :=
  match p.room with
  | 0 => throw (.tooDeep n.mark)
  | room + 1 => pure { p with room }

def items {α : Type} (d : Decoder α) (p : Place) : Nat → List Node → Decode (List α)
  | _, [] => pure []
  | i, n :: ns => do
    let x ← d (p.inside (.item i)) n
    pure (x :: (← items d p (i + 1) ns))

def sequence {α : Type} (d : Decoder α) : Decoder (List α) := fun p n => do
  let n ← look n
  match n with
  | .sequence _ _ ns => items d (← enter p n) 0 ns
  | .void => pure []
  | .scalar _ _ s style => if isEmptyScalar s style then pure [] else refuse "a sequence" p n
  | n => refuse "a sequence" p n

def stepTo (key : Node) : Step :=
  match key with
  | .scalar _ _ s _ => .entry s
  | _ => .unnamed

def skip (n : Node) : Decode Unit := if n.isCut then broken else pure ()

/-- Reads the entries of a record one after the other; what has been read so far is passed on. -/
def fields {σ : Type} (keyed : String) (step : σ → String → Place → Node → Decode σ) (p : Place) :
    σ → List (Node × Node) → Decode σ
  | read, [] => pure read
  | read, (k, v) :: rest => do
    let key ← scalarText keyed p k
    fields keyed step p (← step read key (p.inside (stepTo k)) v) rest

/-- Reads a record: a mapping with keys that are scalars, or nothing. The steps and the end are told
where the record stands and what it is, for complaints about it. -/
def record {σ α : Type} (expected keyed : String) (start : σ)
    (step : Place → Node → σ → String → Place → Node → Decode σ)
    (finish : Place → Node → σ → Decode α) : Decoder α := fun p n => do
  let n ← look n
  let es ← match n with
    | .mapping _ _ es => pure es
    | .void => pure []
    | .scalar _ _ s style => if isEmptyScalar s style then pure [] else refuse expected p n
    | n => refuse expected p n
  let inner ← match n with
    | .mapping .. => enter p n
    | _ => pure p
  finish p n (← fields keyed (step p n) inner start es)

def once {α : Type} (owner : Place) (whole : Node) (name : String) (old : Option α) (d : Decode α) :
    Decode (Option α) :=
  if old.isSome then complain owner whole (.duplicateField name) else some <$> d

def required {α : Type} (owner : Place) (whole : Node) (name : String) : Option α → Decode α
  | some a => pure a
  | none => complain owner whole (.missingField name)

end Decode

def isLocalTag : Option Bytes → Bool
  | some t => t.head? == some 33 && (ofBytes? t).isSome
  | none => false

namespace Decode

def pairs {α : Type} (d : Decoder α) (p : Place) : List (Node × Node) → Decode (List (α × α))
  | [] => pure []
  | (k, v) :: rest => do
    let key ← d p k
    let value ← d (p.inside (stepTo k)) v
    pure ((key, value) :: (← pairs d p rest))

/-- Reads a value, whatever it is, with the reader for what is nested in it, if there is room. -/
def valueWith (inner : Option (Decoder Value)) : Decoder Value := fun p n => do
  let n ← look n
  match n with
  | .void => pure .null
  | .scalar _ tag s style =>
    if isLocalTag tag then complain p n .localTag else
    match Scalar.resolve tag style s with
    | .error standard => complain p n (.wrongValue (.scalar (.text s)) standard)
    | .ok .null => pure .null
    | .ok (.bool b) => pure (.bool b)
    | .ok (.integer i) => pure (.number (.integer i))
    | .ok (.float x) => pure (.number (.float x))
    | .ok (.text s) => pure (.string s)
    | .ok (.wide i) => complain p n (.wrongType (.scalar (.wide i)) "any value")
  | .sequence _ tag ns =>
    if isLocalTag tag then complain p n .localTag else
    match inner with
    | none => throw (.tooDeep n.mark)
    | some d => .sequence <$> items d p 0 ns
  | .mapping _ tag es =>
    if isLocalTag tag then complain p n .localTag else
    match inner with
    | none => throw (.tooDeep n.mark)
    | some d => .mapping <$> pairs d p es
  | .missing | .reference .. => broken

/-- Reads a value with room for so many levels. -/
def valueWithin : Nat → Decoder Value
  | 0 => valueWith none
  | room + 1 => valueWith (some (valueWithin room))

def value : Decoder Value := fun p n => valueWithin p.room p n

end Decode

def Document.ofText (text : String) : Document :=
  let (tokens, fault) := tokensOf text.toList
  let (events, fault) := eventsOf tokens fault
  .ofEvents events fault

/-- Reads a text as a single document. What is wrong with the data comes first, then what cuts the
document off, and then whether there is another. -/
def decode {α : Type} (d : Decoder α) (text : String) : Except Fault α := do
  let document := Document.ofText text
  let (a, _) ← ((d { } document.root).run document).run 0
  match document.cut with
  | some c => throw (.cut c)
  | none => if document.continued then throw .moreDocuments else pure a

end RouteCascade.Yaml
