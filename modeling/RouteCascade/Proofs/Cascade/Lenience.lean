import RouteCascade.Proofs.Cascade.Agreement
import RouteCascade.Proofs.Cascade.Log
import Mathlib.Data.List.Nodup

/-!
# Disconnections that fail

A tunnel that was connected for one attempt is disconnected after it, and given up whatever comes of
that. Of two runs that differ only in whether such disconnections work, neither does anything that the
other does not do, and both return the same.
-/
namespace RouteCascade.Cascade

open Text Net

variable {σ σ' τ : Type}

/-- An event that does not tell whether a disconnection worked. -/
def Event.regardless : Event τ → Event τ
  | .disconnect i (.error _) => .disconnect i (.ok ())
  | e => e

def Event.failsToDisconnect : Event τ → Bool
  | .disconnect _ (.error _) => true
  | _ => false

/-- Two sets of collaborators that answer alike, but for whether a disconnection works. In states that
belong together the catalog hands out the same tunnels. -/
structure DifferInDisconnecting (c : Collaborators σ τ) (c' : Collaborators σ' τ) (session : Session)
    (R : σ → σ' → Prop) : Prop extends Alike c c' session id Reply.EndsAs R where
  enumerate : ∀ s s', R s s' → (c'.enumerate s').1 = (c.enumerate s).1 ∧
    R (c.enumerate s).2 (c'.enumerate s').2

theorem regardless_disconnect (i : Instance τ) {r r' : Reply Unit} (h : r.EndsAs r') :
    (Event.disconnect i r').regardless = (Event.disconnect i r).regardless := by
  rcases h with rfl | ⟨h, h'⟩
  · rfl
  · cases r <;> cases h <;> cases r' <;> cases h' <;> rfl

/-- Logs are the same, regardless of whether disconnections worked. -/
theorem compares_regardless :
    Compares (τ := τ) id Reply.EndsAs
      (fun xs ys => ys.map Event.regardless = xs.map Event.regardless) where
  nil := rfl
  append hx hy := by rw [List.map_append, List.map_append, hx, hy]
  event e _ := by rw [Event.renumber_id]
  disconnect i _ _ h := congrArg (fun e => [e]) (regardless_disconnect i h)
  endsAs h := h

theorem DifferInDisconnecting.agrees_select {c : Collaborators σ τ} {c' : Collaborators σ' τ}
    {session : Session} {R : σ → σ' → Prop} (h : DifferInDisconnecting c c' session R) :
    (select c session).Agrees R (fun xs ys => ys.map Event.regardless = xs.map Event.regardless)
      (fun is is' => is' = is.map (·.renumber id)) (select c' session) := by
  apply agrees_select_of_askCatalog compares_regardless h.toAlike
  constructor
  · intro s s' _
    rfl
  · intro s s' hs
    simp only [Collaborators.result_askCatalog, Collaborators.handedOut, (h.enumerate s s' hs).1,
      Instance.renumber_id, List.map_id']
  · intro s s' hs
    exact (h.enumerate s s' hs).2

/-- Whether disconnections work changes neither what a run returns nor what it does: a failed one is not
returned or reported, is not tried again, and takes no other path. -/
theorem lenient_run {c : Collaborators σ τ} {c' : Collaborators σ' τ} {o : Order} {R : σ → σ' → Prop}
    (h : DifferInDisconnecting c c' o.session R) (current : Option τ) {s : σ} {s' : σ'} (hs : R s s') :
    (run c' o current).result s' = (run c o current).result s ∧
      ((run c' o current).events s').map Event.regardless =
        ((run c o current).events s).map Event.regardless := by
  have hrun := agrees_run compares_regardless h.toAlike h.agrees_select current
  constructor
  · exact (hrun.result s s' hs).symm
  · exact hrun.events s s' hs

/-- The same collaborators, except that no disconnection is said to have worked. -/
def Collaborators.grudging (c : Collaborators σ τ) (e : Failure) : Collaborators σ τ :=
  { c with
    disconnect := fun i s =>
      match c.disconnect i s with
      | (.ok (), s) => (.error e, s)
      | (r, s) => (r, s) }

theorem differInDisconnecting_grudging (c : Collaborators σ τ) (e : Failure) (session : Session) :
    DifferInDisconnecting c (c.grudging e) session Eq where
  name := rfl
  kind := rfl
  routes := rfl
  background := rfl
  isConnected := by rintro s _ rfl t; rfl
  poll := by rintro s _ rfl; exact ⟨rfl, rfl⟩
  attempt := by rintro s _ rfl a; rw [Attempt.renumber_id]; exact ⟨rfl, rfl⟩
  requiresHandshake := by rintro s _ rfl i; exact ⟨rfl, rfl⟩
  connect := by rintro s _ rfl i; exact ⟨rfl, rfl⟩
  disconnect := by
    rintro s _ rfl i
    simp only [Collaborators.grudging, Instance.renumber_id]
    rcases c.disconnect i s with ⟨_ | _ | _ | _, s'⟩
    · exact ⟨.inr ⟨rfl, rfl⟩, rfl⟩
    · exact ⟨.inl rfl, rfl⟩
    · exact ⟨.inl rfl, rfl⟩
    · exact ⟨.inl rfl, rfl⟩
  dispose := by rintro s _ rfl i; rfl
  enumerate := by rintro s _ rfl; exact ⟨rfl, rfl⟩

theorem lenient_secondTunnel :
    let c := Script.collaborators true
    let c' := c.grudging ⟨.io, "gone"⟩
    let s := Script.sample [Script.noRoute, Script.noRoute, Script.noRoute, .ok [79, 75]]
    DifferInDisconnecting c c' Order.sample.session Eq ∧
      ((run c' Order.sample none).events s).any Event.failsToDisconnect = true ∧
      (run c Order.sample none).result s = done (.success [79, 75]) ∧
      (run c' Order.sample none).result s = (run c Order.sample none).result s ∧
      ((run c' Order.sample none).events s).map Event.regardless =
        ((run c Order.sample none).events s).map Event.regardless :=
  ⟨differInDisconnecting_grudging _ _ _, by decide +kernel, by decide +kernel,
    lenient_run (differInDisconnecting_grudging _ _ _) none rfl⟩

end RouteCascade.Cascade
