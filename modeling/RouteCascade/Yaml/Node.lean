import RouteCascade.Yaml.Event

/-!
# Nodes

A document as a tree. A fault cuts the tree off: where the text broke off, a `missing` node stands, so
whoever goes through the tree in order meets the fault where the text has it, and what comes before it
can be used. An alias holds the number of an anchor and is looked up when it is followed.

An anchor is numbered by how many names there were before it, so a name that is given again may share
its number with a later one; the node that starts last has the number then.
-/
namespace RouteCascade.Yaml

open Text

inductive Node where
  /-- There is nothing at all. -/
  | void
  /-- The text broke off here. -/
  | missing
  | reference (mark : Mark) (target : Nat)
  | scalar (mark : Mark) (tag : Option Bytes) (text : String) (style : Style)
  | sequence (mark : Mark) (tag : Option Bytes) (items : List Node)
  | mapping (mark : Mark) (tag : Option Bytes) (entries : List (Node × Node))
  deriving Inhabited

namespace Node

def mark : Node → Mark
  | void | missing => .start
  | reference m _ | scalar m _ _ _ | sequence m _ _ | mapping m _ _ => m

mutual

/-- The text broke off inside the node. Aliases are not followed. -/
def isCut : Node → Bool
  | missing => true
  | void | reference .. | scalar .. => false
  | sequence _ _ items => anyCut items
  | mapping _ _ entries => anyPairCut entries

def anyCut : List Node → Bool
  | [] => false
  | n :: ns => n.isCut || anyCut ns

def anyPairCut : List (Node × Node) → Bool
  | [] => false
  | (k, v) :: es => k.isCut || v.isCut || anyPairCut es

end

end Node

/-- Why there is no more of a document. -/
inductive Cut where
  | malformed (fault : SyntaxFault)
  | unknownAnchor (mark : Mark)
  deriving DecidableEq, Repr

structure Document where
  root : Node
  /-- The nodes with anchors, by their numbers. -/
  targets : List (Nat × Node) := []
  /-- How many steps the document takes, a measure of its size. -/
  size : Nat := 0
  cut : Option Cut := none
  /-- The text goes on after the document. -/
  continued : Bool := false

namespace Node

/-- An anchor of a node: its number, and how many steps came before it. -/
structure Anchored where
  number : Nat
  position : Nat

/-- A collection that is not closed yet, with its children backwards. -/
structure Open where
  mark : Mark
  tag : Option Bytes
  isMapping : Bool
  anchored : Option Anchored
  children : List Node := []

def pairs : List Node → List (Node × Node)
  | k :: v :: rest => (k, v) :: pairs rest
  | [k] => [(k, missing)]
  | [] => []

def Open.node (o : Open) : Node :=
  if o.isMapping then mapping o.mark o.tag (pairs o.children.reverse)
  else sequence o.mark o.tag o.children.reverse

structure Builder where
  size : Nat := 0
  /-- The names of the anchors with their numbers. -/
  names : List (String × Nat) := []
  /-- The open collections, the innermost first. -/
  stack : List Open := []
  root : Option Node := none
  /-- The anchored nodes that are complete. -/
  anchored : List (Anchored × Node) := []

namespace Builder

/-- Gives a name to an anchor. A new number is the count of the names. -/
def name (b : Builder) : Option String → Option Anchored × Builder
  | none => (none, b)
  | some s =>
    let n := b.names.length
    (some ⟨n, b.size⟩, { b with names := (s, n) :: b.names.filter (·.1 != s) })

def add (b : Builder) (a : Option Anchored) (n : Node) : Builder :=
  let b := match a with
    | some a => { b with anchored := (a, n) :: b.anchored }
    | none => b
  match b.stack with
  | [] => { b with root := some n }
  | o :: rest => { b with stack := { o with children := n :: o.children } :: rest }

def close (b : Builder) : Builder :=
  match b.stack with
  | [] => b
  | o :: rest => { b with stack := rest }.add o.anchored o.node

def enter (b : Builder) (mark : Mark) (p : Properties) (isMapping : Bool) : Builder :=
  let (a, b) := b.name p.anchor
  { b with stack := ⟨mark, p.tag, isMapping, a, []⟩ :: b.stack }

/-- Adds what an event says. An alias of no anchor cuts the document off. -/
def step (b : Builder) (mark : Mark) : Event → Except Cut Builder
  | .reference name =>
    match b.names.lookup name with
    | none => .error (.unknownAnchor mark)
    | some n => .ok { b.add none (reference mark n) with size := b.size + 1 }
  | .scalar p text style =>
    let (a, b) := b.name p.anchor
    .ok { b.add a (scalar mark p.tag text style) with size := b.size + 1 }
  | .sequenceStart p => .ok { b.enter mark p false with size := b.size + 1 }
  | .mappingStart p => .ok { b.enter mark p true with size := b.size + 1 }
  | .sequenceEnd | .mappingEnd => .ok { b.close with size := b.size + 1 }
  | .documentStart | .documentEnd | .streamEnd => .ok b

/-- Ends all that is open, since the text broke off. -/
def breakOff (b : Builder) : Builder :=
  match b.stack, b.root with
  | [], none => { b with root := some missing }
  | [], some _ => b
  | _ :: _, _ => (List.range b.stack.length).foldl (fun b _ => b.close) (b.add none missing)

/-- The anchored node with a number that starts last. -/
def target (b : Builder) (n : Nat) : Option Node :=
  let start : Option (Anchored × Node) := none
  (b.anchored.foldl (fun best x =>
    if x.1.number != n then best
    else match best with
      | some y => if y.1.position < x.1.position then some x else best
      | none => some x) start).map (·.2)

def document (b : Builder) (root : Node) (cut : Option Cut) (continued : Bool) : Document :=
  { root := root, size := b.size, cut := cut, continued := continued,
    targets := (List.range (b.names.length + 1)).filterMap fun n => (b.target n).map (n, ·) }

def cutDocument (b : Builder) (c : Cut) : Document :=
  let b := b.breakOff
  b.document (b.root.getD missing) (some c) false

def build (fault : Option SyntaxFault) : List (Event × Mark) → Builder → Document
  | [], b =>
    match fault with
    | some f => b.cutDocument (.malformed f)
    | none => { root := .void, size := 1 }
  | (.streamEnd, _) :: _, _ => { root := .void, size := 1 }
  | (.documentEnd, _) :: rest, b =>
    let continued := match rest with
      | (.streamEnd, _) :: _ => false
      | _ => true
    b.document (b.root.getD missing) none continued
  | (e, mark) :: rest, b =>
    match b.step mark e with
    | .error c => b.cutDocument c
    | .ok b => build fault rest b

end Builder

end Node

/-- The first document of some events, which end in a fault or at the end of the text. -/
def Document.ofEvents (events : List (Event × Mark)) (fault : Option SyntaxFault) : Document :=
  Node.Builder.build fault events { }

end RouteCascade.Yaml
