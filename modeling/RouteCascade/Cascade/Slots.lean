import RouteCascade.Cascade.Connection

/-!
# Slots

Several connections side by side. A slot is filled by connecting a tunnel, unless that fails, and is
emptied by whatever is done with the connection then: making an attempt, releasing it or letting it go.
-/
namespace RouteCascade.Cascade

open Text

variable {σ τ : Type}

abbrev Slots (τ : Type) := List (Option (Instance τ))

inductive SlotStep (σ τ : Type) where
  /-- Connects a tunnel for a new slot. -/
  | acquire (session : Session) (tunnel : τ)
  | run (slot : Nat) (attempt : Act σ τ (Reply Bytes))
  | release (slot : Nat)
  | drop (slot : Nat)

inductive SlotResult (τ : Type) where
  | acquired (result : Ending (Except Failure τ))
  | ran (result : Ending (Except Failure Bytes))
  | released (result : Ending Unit)
  | dropped
  /-- There is nothing in the slot. -/
  | empty

namespace Slots

/-- The slots without what is in one of them. -/
def emptied (slots : Slots τ) (n : Nat) : Slots τ := slots.set n none

/-- The result of a step for whoever waits for it, with the work that is left done as well. -/
def settled {α : Type} (e : StepEnd σ τ α) : Act σ τ (Ending α) := StepEnd.settle (pure ()) e

def step (c : Collaborators σ τ) (slots : Slots τ) : SlotStep σ τ → Act σ τ (SlotResult τ × Slots τ)
  | .acquire session t => do
    let i : Instance τ := ⟨slots.length, t⟩
    match ← settled (← Connection.acquire c session i) with
    | .returned (.ok ()) => pure (.acquired (.returned (.ok t)), slots ++ [some i])
    | .returned (.error e) => pure (.acquired (.returned (.error e)), slots ++ [none])
    | .panicked t => pure (.acquired (.panicked t), slots ++ [none])
    | .abandoned => pure (.acquired .abandoned, slots ++ [none])
  | .run n attempt =>
    match slots[n]?.join with
    | none => pure (.empty, slots)
    | some i => do
      let ending ← settled (← Connection.run c i attempt)
      pure (.ran ending, emptied slots n)
  | .release n =>
    match slots[n]?.join with
    | none => pure (.empty, slots)
    | some i => do
      let ending ← settled (← Connection.release c i)
      pure (.released ending, emptied slots n)
  | .drop n =>
    match slots[n]?.join with
    | none => pure (.empty, slots)
    | some i => do
      let later ← Connection.drop c i
      later
      pure (.dropped, emptied slots n)

def steps (c : Collaborators σ τ) (slots : Slots τ) :
    List (SlotStep σ τ) → Act σ τ (List (SlotResult τ) × Slots τ)
  | [] => pure ([], slots)
  | st :: sts => do
    let (result, slots) ← step c slots st
    let (results, slots) ← steps c slots sts
    pure (result :: results, slots)

end Slots

end RouteCascade.Cascade
