/-!
# Stop signals

Conditions under which a run is given up. A token knows the tokens it descends from, and cancelling
any of them cancels it; a flag can be raised and lowered; and one signal never fires. Tokens and flags
are shared by name, so a copy is the same signal.
-/
namespace RouteCascade

/-- A token, by the numbers of its lineage: its own first, then those it descends from. -/
structure Token where
  lineage : List Nat
  deriving DecidableEq, Repr

structure Flag where
  number : Nat
  deriving DecidableEq, Repr

inductive StopSignal where
  | token (t : Token)
  | flag (f : Flag)
  | never
  deriving DecidableEq, Repr

/-- Which tokens have been cancelled and which flags are up. -/
structure SignalBoard where
  /-- The number of the next token or flag. -/
  fresh : Nat := 0
  cancelled : List Nat := []
  raised : List Nat := []

namespace SignalBoard

def newToken (b : SignalBoard) : Token × SignalBoard :=
  (⟨[b.fresh]⟩, { b with fresh := b.fresh + 1 })

/-- A token that is cancelled with its parent. -/
def childOf (b : SignalBoard) (parent : Token) : Token × SignalBoard :=
  (⟨b.fresh :: parent.lineage⟩, { b with fresh := b.fresh + 1 })

def newFlag (b : SignalBoard) : Flag × SignalBoard :=
  (⟨b.fresh⟩, { b with fresh := b.fresh + 1 })

/-- Cancels a token and all that descend from it, for good. -/
def cancel (b : SignalBoard) (t : Token) : SignalBoard :=
  { b with cancelled := t.lineage.head?.toList ++ b.cancelled }

def raise (b : SignalBoard) (f : Flag) : SignalBoard := { b with raised := f.number :: b.raised }

def lower (b : SignalBoard) (f : Flag) : SignalBoard :=
  { b with raised := b.raised.filter (· != f.number) }

end SignalBoard

def StopSignal.isSignalled (b : SignalBoard) : StopSignal → Bool
  | .token t => t.lineage.any fun n => b.cancelled.contains n
  | .flag f => b.raised.contains f.number
  | .never => false

/-- Once cancelled, a token stays so whatever else is cancelled. -/
theorem StopSignal.isSignalled_cancel {b : SignalBoard} {t : Token} (u : Token)
    (h : (StopSignal.token t).isSignalled b = true) :
    (StopSignal.token t).isSignalled (b.cancel u) = true := by
  simp only [isSignalled, List.any_eq_true, SignalBoard.cancel, List.contains_eq_mem,
    decide_eq_true_eq] at h ⊢
  obtain ⟨n, hn, hc⟩ := h
  exact ⟨n, hn, by simp [hc]⟩

/-- A child is cancelled whenever its parent is. -/
theorem StopSignal.isSignalled_childOf {b : SignalBoard} {parent : Token}
    (h : (StopSignal.token parent).isSignalled b = true) :
    (StopSignal.token (b.childOf parent).1).isSignalled (b.childOf parent).2 = true := by
  simp only [isSignalled, List.any_eq_true, SignalBoard.childOf, List.contains_eq_mem,
    decide_eq_true_eq] at h ⊢
  obtain ⟨n, hn, hc⟩ := h
  exact ⟨n, by simp [hn], hc⟩

end RouteCascade
