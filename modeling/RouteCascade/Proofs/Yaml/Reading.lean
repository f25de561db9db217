import Mathlib.Data.List.Forall2
import RouteCascade.Yaml.Decode

/-!
# What is read off a document

What readers come to, told by the nodes of the document with aliases taken for what they stand for. The
entries of a record are read one after the other, so what is known of a record is an invariant over the
entries that were read.
-/
namespace RouteCascade.Yaml

open Text

namespace Document
variable (d : Document)

/-- The node that is meant: an alias stands for the node with the anchor. -/
def meant : Node → Node
  | .reference _ target => (d.targets.lookup target).getD .missing
  | n => n

def written? (n : Node) : Option String :=
  match d.meant n with
  | .scalar _ _ s _ => some s
  | _ => none

/-- The scalar that is meant, if it is a text and nothing else. -/
def text? (n : Node) : Option String :=
  match d.meant n with
  | .scalar _ tag s style =>
    match Scalar.resolve tag style s with
    | .ok (.text s) => some s
    | _ => none
  | _ => none

/-- The entries of a mapping; nothing else has any. -/
def entries (n : Node) : List (Node × Node) :=
  match d.meant n with
  | .mapping _ _ es => es
  | _ => []

/-- The items of a sequence; nothing else has any. -/
def items (n : Node) : List Node :=
  match d.meant n with
  | .sequence _ _ ns => ns
  | _ => []

/-- The value of a key in some entries, the last one if there are more. -/
def last? (es : List (Node × Node)) (key : String) : Option Node :=
  (es.reverse.find? fun e => d.written? e.1 == some key).map (·.2)

section
variable {d} {es : List (Node × Node)} {k v : Node} {key : String}

theorem last?_append_of_eq (h : d.written? k = some key) : d.last? (es ++ [(k, v)]) key = some v := by
  rw [last?, List.reverse_append, List.reverse_singleton, List.singleton_append, List.find?_cons_of_pos]
  · rfl
  · exact beq_iff_eq.mpr h

theorem last?_append_of_ne (h : d.written? k ≠ some key) :
    d.last? (es ++ [(k, v)]) key = d.last? es key := by
  rw [last?, List.reverse_append, List.reverse_singleton, List.singleton_append, List.find?_cons_of_neg]
  · rfl
  · exact fun he => h (beq_iff_eq.mp he)

end

end Document

namespace Decode

/-- If something is read off a document, it has a property. -/
def Gives {α : Type} (d : Document) (x : Decode α) (P : α → Prop) : Prop :=
  ∀ used a used', (x.run d).run used = .ok (a, used') → P a

section
variable {α β : Type} {d : Document} {x : Decode α} {P Q : α → Prop}

theorem gives_pure {a : α} (h : P a) : Gives d (pure a) P := by
  rintro used _ _ ⟨rfl⟩
  exact h

theorem gives_throw {e : Fault} : Gives d (throw e : Decode α) P := by
  intro used a used' h
  cases h

theorem gives_read : Gives d (read : Decode Document) (· = d) := by
  rintro used _ _ ⟨rfl⟩
  rfl

theorem Gives.bind {f : α → Decode β} {Q : β → Prop} (h : Gives d x P)
    (hf : ∀ a, P a → Gives d (f a) Q) : Gives d (x >>= f) Q := by
  intro used b used' hrun
  rw [ReaderT.run_bind, StateT.run_bind] at hrun
  cases hx : (x.run d).run used with
  | error e =>
      rw [hx] at hrun
      cases hrun
  | ok r =>
      rw [hx] at hrun
      exact hf r.1 (h used r.1 r.2 hx) r.2 b used' hrun

/-- What comes after a part does not depend on what was read there. -/
theorem gives_then {f : α → Decode β} {Q : β → Prop} (hf : ∀ a, Gives d (f a) Q) : Gives d (x >>= f) Q :=
  Gives.bind (P := fun _ => True) (fun _ _ _ _ => trivial) fun a _ => hf a

theorem Gives.map {f : α → β} {Q : β → Prop} (h : Gives d x P) (hf : ∀ a, P a → Q (f a)) :
    Gives d (f <$> x) Q :=
  h.bind fun a ha => gives_pure (hf a ha)

end

section
variable {α σ : Type} {d : Document} {P : α → Prop} (p : Place) (n : Node)

theorem gives_broken : Gives d (broken : Decode α) P := by
  unfold broken
  refine gives_read.bind ?_
  rintro _ rfl
  split <;> exact gives_throw

theorem gives_complain (c : Complaint) : Gives d (complain p n c : Decode α) P := gives_throw

theorem gives_refuse (expected : String) : Gives d (refuse expected p n : Decode α) P := by
  unfold refuse
  split
  · split <;> exact gives_complain _ _ _
  · exact gives_complain _ _ _
  · exact gives_complain _ _ _
  · exact gives_throw
  · exact gives_broken
  · exact gives_broken

theorem gives_look : Gives d (look n) (· = d.meant n) := by
  unfold look
  split
  · exact gives_broken
  · refine gives_read.bind ?_
    rintro _ rfl
    refine gives_then fun used => ?_
    dsimp only
    split
    · exact gives_throw
    · rintro used _ _ ⟨rfl⟩
      rfl
  · rename_i hreference
    refine gives_pure ?_
    cases n with
    | reference mark target => exact absurd rfl (hreference mark target)
    | _ => rfl

theorem gives_scalarText (expected : String) :
    Gives d (scalarText expected p n) fun s => d.written? n = some s := by
  unfold scalarText
  refine (gives_look n).bind ?_
  rintro _ rfl
  unfold Document.written?
  cases d.meant n with
  | scalar => exact gives_pure rfl
  | _ => exact gives_refuse _ _ _

/-- A value is a string if its node is a text, and then it is that text. -/
theorem gives_valueWith (inner : Option (Decoder Value)) :
    Gives d (valueWith inner p n) fun v => v.string? = d.text? n := by
  unfold valueWith
  refine (gives_look n).bind ?_
  rintro _ rfl
  unfold Document.text?
  cases d.meant n with
  | void => exact gives_pure rfl
  | missing | reference => exact gives_broken
  | scalar mark tag s style =>
      dsimp only
      split
      · exact gives_complain _ _ _
      · cases hr : Scalar.resolve tag style s with
        | error standard => exact gives_complain _ _ _
        | ok found =>
            cases found with
            | wide i => exact gives_complain _ _ _
            | _ => exact gives_pure rfl
  | sequence mark tag ns =>
      dsimp only
      split
      · exact gives_complain _ _ _
      split
      · exact gives_throw
      · exact gives_then (f := fun vs => pure (Value.sequence vs)) fun _ => gives_pure rfl
  | mapping mark tag es =>
      dsimp only
      split
      · exact gives_complain _ _ _
      split
      · exact gives_throw
      · exact gives_then (f := fun vs => pure (Value.mapping vs)) fun _ => gives_pure rfl

theorem gives_value : Gives d (value p n) fun v => v.string? = d.text? n := by
  unfold value
  cases p.room <;> exact gives_valueWith p n _

theorem gives_items {R : Node → α → Prop} {dec : Decoder α} (h : ∀ p n, Gives d (dec p n) (R n)) (i : Nat)
    (ns : List Node) : Gives d (items dec p i ns) fun xs => List.Forall₂ R ns xs := by
  induction ns generalizing i with
  | nil => exact gives_pure .nil
  | cons n ns ih =>
      refine (h _ n).bind fun x hx => ?_
      exact (ih (i + 1)).bind fun xs hxs => gives_pure (.cons hx hxs)

theorem gives_sequence {R : Node → α → Prop} {dec : Decoder α} (h : ∀ p n, Gives d (dec p n) (R n)) :
    Gives d (sequence dec p n) fun xs => List.Forall₂ R (d.items n) xs := by
  unfold sequence
  refine (gives_look n).bind ?_
  rintro _ rfl
  unfold Document.items
  cases d.meant n with
  | void => exact gives_pure .nil
  | missing | reference | mapping => exact gives_refuse _ _ _
  | scalar mark tag s style =>
      dsimp only
      split
      · exact gives_pure .nil
      · exact gives_refuse _ _ _
  | sequence mark tag ns => exact gives_then fun q => gives_items q h 0 ns

/-- An invariant over the entries that were read is kept by each entry, and so by all of them. -/
theorem gives_fields {I : List (Node × Node) → σ → Prop} {keyed : String}
    {step : σ → String → Place → Node → Decode σ}
    (hstep : ∀ done read k v key q, I done read → d.written? k = some key →
      Gives d (step read key q v) (I (done ++ [(k, v)])))
    {done : List (Node × Node)} {read : σ} (h : I done read) (es : List (Node × Node)) :
    Gives d (fields keyed step p read es) (I (done ++ es)) := by
  induction es generalizing done read with
  | nil =>
      rw [List.append_nil]
      exact gives_pure h
  | cons e es ih =>
      obtain ⟨k, v⟩ := e
      refine (gives_scalarText p k keyed).bind fun key hkey => ?_
      refine (hstep done read k v key _ h hkey).bind fun read' hread => ?_
      have hrest := ih hread
      rwa [List.append_assoc] at hrest

theorem gives_record {I : List (Node × Node) → σ → Prop} {expected keyed : String} {start : σ}
    {step : Place → Node → σ → String → Place → Node → Decode σ} {finish : Place → Node → σ → Decode α}
    (hstart : I [] start)
    (hstep : ∀ whole done read k v key q, I done read → d.written? k = some key →
      Gives d (step p whole read key q v) (I (done ++ [(k, v)])))
    (hfinish : ∀ whole read, I (d.entries n) read → Gives d (finish p whole read) P) :
    Gives d (record expected keyed start step finish p n) P := by
  have hrest (whole : Node) (inner : Decode Place) (es : List (Node × Node)) (hes : d.entries n = es) :
      Gives d (do let q ← inner; finish p whole (← fields keyed (step p whole) q start es)) P := by
    refine gives_then fun q => ?_
    refine (gives_fields q (hstep whole) hstart es).bind fun read hread => ?_
    rw [← hes] at hread
    exact hfinish whole read hread
  have hentries : d.entries n = match d.meant n with
      | .mapping _ _ es => es
      | _ => [] := rfl
  unfold record
  refine (gives_look n).bind ?_
  rintro _ rfl
  generalize d.meant n = whole at hentries ⊢
  cases whole with
  | mapping mark tag es =>
      refine (gives_pure (P := (· = es)) rfl).bind ?_
      rintro _ rfl
      exact hrest _ (enter p _) _ hentries
  | void =>
      refine (gives_pure (P := (· = [])) rfl).bind ?_
      rintro _ rfl
      exact hrest _ (pure p) _ hentries
  | missing | reference | sequence => exact (gives_refuse (P := fun _ => False) _ _ _).bind nofun
  | scalar mark tag s style =>
      dsimp only
      split
      · refine (gives_pure (P := (· = [])) rfl).bind ?_
        rintro _ rfl
        exact hrest _ (pure p) _ hentries
      · exact (gives_refuse (P := fun _ => False) _ _ _).bind nofun

theorem gives_once {name : String} {old : Option α} {x : Decode α} (h : Gives d x P) :
    Gives d (once p n name old x) fun r => old = none ∧ ∃ a, r = some a ∧ P a := by
  unfold once
  cases old with
  | some a => exact gives_complain _ _ _
  | none => exact h.map fun a ha => ⟨rfl, a, rfl, ha⟩

end

end Decode

end RouteCascade.Yaml
