import RouteCascade.Proofs.Tunnel.Calls
import Mathlib.Data.List.Nodup
import Mathlib.Data.List.Perm.Basic

/-!
# Calls side by side

Any number of calls on one tunnel, whose steps are taken in any order. A listener that was started and not
shut down has one owner: the slot, or the one call that is about to put it there or to shut it down.
The proof keeps the list of what is owned a rearrangement of the list of what serves.
-/
namespace RouteCascade.Tunnel

/-- A tunnel and the calls made on it so far. -/
structure Traffic where
  state : State := { }
  calls : List Stage := []

/-- What happens next: a call is made, or one takes a step. -/
inductive Turn where
  | connect (session : Session)
  | disconnect
  | step (call : Nat) (w : World)

def Turn.steps (n : Nat) : Turn → Bool
  | step m _ => m == n
  | _ => false

/-- The listener that a call has to put into the slot or to shut down. -/
def Stage.held? : Stage → Option Listener
  | storing l | discarding l | stopping l => some l
  | connecting _ | probing | binding | disconnecting | done _ => none

/-- What a step does to the listeners. -/
inductive StepExec (s : State) : Stage → State → Stage → Option Deed → Prop
  | idle {st st' : Stage} {d : Option Deed} : st.held? = none → st'.held? = none →
      (∀ x ∈ d, x.starts = false ∧ x.stops = false) → StepExec s st s st' d
  | started : StepExec s .binding { s with live := s.fresh :: s.live, fresh := s.fresh + 1 }
      (.storing s.fresh) (some (.bind (some s.fresh)))
  | stored (l : Listener) : s.slot = none →
      StepExec s (.storing l) { s with slot := some l } (.done (.ok ())) none
  | spare (l : Listener) : s.slot ≠ none → StepExec s (.storing l) s (.discarding l) none
  | taken {l : Listener} : s.slot = some l →
      StepExec s .disconnecting { s with slot := none } (.stopping l) none
  | shut {st : Stage} {l : Listener} : st = .discarding l ∨ st = .stopping l →
      StepExec s st (s.shutDown l) (.done (.ok ())) (some (.shutDown l))

theorem step_exec (kind : Kind) (w : World) (s : State) (st : Stage) :
    StepExec s st (st.step kind w s).1 (st.step kind w s).2 (st.deed? w s) := by
  cases st with
  | connecting handshake =>
      by_cases hs : s.isConnected
      · simpa [Stage.step, hs] using StepExec.idle rfl rfl (by simp [Stage.deed?])
      · cases handshake <;> simpa [Stage.step, hs] using StepExec.idle rfl rfl (by simp [Stage.deed?])
  | probing =>
      cases hp : w.probe <;> simpa [Stage.step, hp] using
        StepExec.idle rfl rfl (by simp [Stage.deed?, Deed.starts, Deed.stops])
  | binding =>
      cases hb : w.bind with
      | error e =>
          simpa [Stage.step, hb] using StepExec.idle rfl rfl
            (by simp [Stage.deed?, hb, Except.isOk, Except.toBool, Deed.starts, Deed.stops])
      | ok =>
          simpa [Stage.step, Stage.deed?, State.start, hb, Except.isOk, Except.toBool] using
            StepExec.started
  | storing l =>
      cases hs : s.slot with
      | none => simpa [Stage.step, Stage.deed?, State.isConnected, hs] using StepExec.stored l hs
      | some m =>
          have hne : s.slot ≠ none := by simp [hs]
          simpa [Stage.step, Stage.deed?, State.isConnected, hs] using StepExec.spare l hne
  | discarding l => exact .shut (.inl rfl)
  | disconnecting =>
      cases hs : s.slot with
      | none => simpa [Stage.step, hs] using StepExec.idle rfl rfl (by simp [Stage.deed?])
      | some l => simpa [Stage.step, Stage.deed?, hs] using StepExec.taken hs
  | stopping l => exact .shut (.inr rfl)
  | done r => exact .idle rfl rfl (by simp [Stage.deed?])

/-- What serves is what a log tells: the listeners that were started and not shut down. -/
structure Told (s : State) (log : List Deed) : Prop where
  serving : ∀ l, l ∈ s.live ↔ .bind (some l) ∈ log ∧ .shutDown l ∉ log
  started : ∀ l, .bind (some l) ∈ log ↔ l < s.fresh
  stopped : ∀ l, .shutDown l ∈ log → l < s.fresh

section Step
variable {kind : Kind} {s s' : State} {st st' : Stage} {d : Option Deed} {rest : List Listener}

/-- A step hands on what it owns, or shuts it down. -/
theorem StepExec.perm (h : StepExec s st s' st' d) (hn : s.live.Nodup)
    (hp : (s.slot.toList ++ (st.held?.toList ++ rest)).Perm s.live) :
    (s'.slot.toList ++ (st'.held?.toList ++ rest)).Perm s'.live := by
  cases h with
  | idle hst hst' =>
      rw [hst] at hp
      rwa [hst']
  | started => exact List.perm_middle.trans (hp.cons s.fresh)
  | stored l hs => rwa [hs] at hp
  | spare l => exact hp
  | taken hs => rwa [hs] at hp
  | @shut _ l hst =>
      have hheld : st.held? = some l := by
        rcases hst with rfl | rfl <;> rfl
      rw [hheld] at hp
      have hcons : (l :: (s.slot.toList ++ rest)).Perm s.live := List.perm_middle.symm.trans hp
      have hnot : l ∉ s.slot.toList ++ rest := (List.nodup_cons.mp (hcons.nodup_iff.mpr hn)).1
      have hfilter := hcons.filter (· != l)
      rw [List.filter_cons_of_neg (by simp), List.filter_eq_self.mpr] at hfilter
      · exact hfilter
      · intro x hx
        exact bne_iff_ne.mpr fun h => hnot (h ▸ hx)

/-- The deed of a step is what it does to the listeners. -/
theorem StepExec.told (h : StepExec s st s' st' d) {log : List Deed} (ht : Told s log)
    (hheld : ∀ l, st.held? = some l → l ∈ s.live) : Told s' (log ++ d.toList) := by
  obtain ⟨hserving, hstarted, hstopped⟩ := ht
  cases h with
  | idle _ _ hd =>
      have hstart : ∀ l, .bind (some l) ∉ d.toList := by
        intro l hl
        exact Bool.noConfusion (hd _ (Option.mem_toList.mp hl)).1
      have hstop : ∀ l, .shutDown l ∉ d.toList := by
        intro l hl
        exact Bool.noConfusion (hd _ (Option.mem_toList.mp hl)).2
      constructor <;> simpa [hstart, hstop]
  | started =>
      constructor
      · intro l
        have hfresh : .shutDown s.fresh ∉ log := fun h => Nat.lt_irrefl _ (hstopped _ h)
        by_cases hl : l = s.fresh
        · simp [hl, hfresh]
        · simp [hl, hserving]
      · intro l
        simp only [Option.toList_some, List.mem_append, hstarted, List.mem_singleton, Deed.bind.injEq,
          Option.some.injEq]
        exact Nat.lt_succ_iff_lt_or_eq.symm
      · intro l hl
        have := hstopped l (by simpa using hl)
        exact Nat.lt_succ_of_lt this
  | stored | spare | taken => constructor <;> simpa
  | @shut _ l hst =>
      have hl : l ∈ s.live := hheld l (by rcases hst with rfl | rfl <;> rfl)
      constructor
      · intro m
        simp only [State.shutDown, List.mem_filter, hserving, Option.toList_some, List.mem_append,
          List.mem_singleton, Deed.shutDown.injEq, bne_iff_ne, reduceCtorEq, or_false, not_or, and_assoc]
      · simpa [State.shutDown] using hstarted
      · intro m hm
        rcases List.mem_append.mp hm with hm | hm
        · exact hstopped m hm
        · obtain rfl : m = l := by simpa using hm
          exact (hstarted m).mp ((hserving m).mp hl).1

theorem StepExec.nodup (h : StepExec s st s' st' d) {log : List Deed} (ht : Told s log)
    (hn : s.live.Nodup) : s'.live.Nodup := by
  cases h with
  | started =>
      refine List.nodup_cons.mpr ⟨fun hmem => ?_, hn⟩
      have hlt := (ht.started s.fresh).mp ((ht.serving s.fresh).mp hmem).1
      exact Nat.lt_irrefl _ hlt
  | shut => exact hn.filter _
  | _ => exact hn

end Step

namespace Traffic

def take (kind : Kind) (t : Traffic) : Turn → Traffic
  | .connect session => { t with calls := t.calls ++ [.connecting (kind.needsHandshake session)] }
  | .disconnect => { t with calls := t.calls ++ [.disconnecting] }
  | .step n w =>
    match t.calls[n]? with
    | none => t
    | some st => ⟨(st.step kind w t.state).1, t.calls.set n (st.step kind w t.state).2⟩

def run (kind : Kind) (t : Traffic) (turns : List Turn) : Traffic := turns.foldl (take kind) t

def deed? (t : Traffic) : Turn → Option Deed
  | .step n w => t.calls[n]?.bind fun st => st.deed? w t.state
  | _ => none

def deeds (kind : Kind) : Traffic → List Turn → List Deed
  | _, [] => []
  | t, u :: us => (t.deed? u).toList ++ deeds kind (t.take kind u) us

def Holds (t : Traffic) (n : Nat) (l : Listener) : Prop :=
  ∃ st, t.calls[n]? = some st ∧ st.held? = some l

/-- What the slot and the calls own. -/
def owned (t : Traffic) : List Listener := t.state.slot.toList ++ t.calls.filterMap Stage.held?

section
variable {kind : Kind} {t : Traffic} {n : Nat} {st : Stage} {w : World}

theorem take_step (h : t.calls[n]? = some st) :
    t.take kind (.step n w) =
      ⟨(st.step kind w t.state).1, t.calls.set n (st.step kind w t.state).2⟩ := by
  simp only [take, h]

theorem take_step_of_none (h : t.calls[n]? = none) : t.take kind (.step n w) = t := by
  simp only [take, h]

/-- Only its own steps move a call. -/
theorem calls_take {u : Turn} (h : t.calls[n]? = some st) (hu : u.steps n = false) :
    (t.take kind u).calls[n]? = some st := by
  have hlt : n < t.calls.length := (List.getElem?_eq_some_iff.mp h).1
  cases u with
  | connect session => exact (List.getElem?_append_left hlt).trans h
  | disconnect => exact (List.getElem?_append_left hlt).trans h
  | step m w =>
      have hne : m ≠ n := by simpa [Turn.steps] using hu
      cases hm : t.calls[m]? with
      | none => rwa [take_step_of_none hm]
      | some st' =>
          rw [take_step hm, List.getElem?_set_ne hne]
          exact h

variable (kind w) in
theorem calls_take_step (h : t.calls[n]? = some st) :
    (t.take kind (.step n w)).calls[n]? = some (st.step kind w t.state).2 := by
  have hlt : n < t.calls.length := (List.getElem?_eq_some_iff.mp h).1
  rw [take_step h]
  exact List.getElem?_set_self hlt

/-- A step changes what its own call holds, and nothing else that is held. -/
theorem held_set (h : t.calls[n]? = some st) (st' : Stage) :
    ∃ rest, (t.calls.filterMap Stage.held?).Perm (st.held?.toList ++ rest) ∧
      ((t.calls.set n st').filterMap Stage.held?).Perm (st'.held?.toList ++ rest) := by
  obtain ⟨hlt, hst⟩ := List.getElem?_eq_some_iff.mp h
  refine ⟨(t.calls.take n ++ t.calls.drop (n + 1)).filterMap Stage.held?, ?_, ?_⟩
  · have hsplit : t.calls = t.calls.take n ++ st :: t.calls.drop (n + 1) := by
      rw [← hst, List.getElem_cons_drop, List.take_append_drop]
    have hperm : t.calls.Perm (st :: (t.calls.take n ++ t.calls.drop (n + 1))) := by
      conv_lhs => rw [hsplit]
      exact List.perm_middle
    have := hperm.filterMap Stage.held?
    cases hh : st.held? <;> simpa [List.filterMap_cons, hh] using this
  · have hperm : (t.calls.set n st').Perm (st' :: (t.calls.take n ++ t.calls.drop (n + 1))) := by
      rw [List.set_eq_take_append_cons_drop, if_pos hlt]
      exact List.perm_middle
    have := hperm.filterMap Stage.held?
    cases hh : st'.held? <;> simpa [List.filterMap_cons, hh] using this

end

/-- Every listener that serves has an owner, and only one. -/
structure Owned (t : Traffic) (log : List Deed) : Prop where
  perm : t.owned.Perm t.state.live
  nodup : t.state.live.Nodup
  told : Told t.state log

section Run
variable {kind : Kind} {t : Traffic} {log : List Deed}

variable (kind) in
theorem Owned.take (h : Owned t log) (u : Turn) :
    Owned (t.take kind u) (log ++ (t.deed? u).toList) := by
  obtain ⟨hperm, hnodup, htold⟩ := h
  cases u with
  | connect session | disconnect =>
      have htold' : Told t.state (log ++ []) := by rwa [List.append_nil]
      constructor
      · simpa [owned, Traffic.take, List.filterMap_cons, Stage.held?] using hperm
      · exact hnodup
      · exact htold'
  | step n w =>
      cases hn : t.calls[n]? with
      | none =>
          rw [take_step_of_none hn]
          simpa [deed?, hn] using ⟨hperm, hnodup, htold⟩
      | some st =>
          have hexec := step_exec kind w t.state st
          obtain ⟨rest, hbefore, hafter⟩ := held_set hn (st.step kind w t.state).2
          have hp := ((List.Perm.refl _).append hbefore).symm.trans hperm
          have hp' := hexec.perm hnodup hp
          have hheld : ∀ l, st.held? = some l → l ∈ t.state.live := by
            intro l hl
            refine hp.subset ?_
            simp [hl]
          rw [take_step hn]
          constructor
          · exact ((List.Perm.refl _).append hafter).trans hp'
          · exact hexec.nodup htold hnodup
          · simpa [deed?, hn] using hexec.told htold hheld

variable (kind) in
theorem Owned.run (h : Owned t log) (us : List Turn) :
    Owned (t.run kind us) (log ++ deeds kind t us) := by
  induction us generalizing t log with
  | nil => simpa [Traffic.run, deeds] using h
  | cons u us ih =>
      have hu := ih (h.take kind u)
      rwa [List.append_assoc] at hu

theorem Holds.mem {n : Nat} {l : Listener} (h : t.Holds n l) :
    l ∈ t.calls.filterMap Stage.held? := by
  obtain ⟨st, hn, hl⟩ := h
  exact List.mem_filterMap.mpr ⟨st, List.mem_of_getElem? hn, hl⟩

/-- A listener that is held twice is held by the same call. -/
theorem Holds.unique {n m : Nat} {l : Listener} (hn : t.Holds n l) (hm : t.Holds m l)
    (hnodup : (t.calls.filterMap Stage.held?).Nodup) : n = m := by
  obtain ⟨a, ha, hal⟩ := hn
  obtain ⟨b, hb, hbl⟩ := hm
  obtain ⟨hnlt, rfl⟩ := List.getElem?_eq_some_iff.mp ha
  obtain ⟨hmlt, rfl⟩ := List.getElem?_eq_some_iff.mp hb
  have hpair := List.pairwise_iff_getElem.mp (List.pairwise_filterMap.mp hnodup)
  rcases Nat.lt_trichotomy n m with h | h | h
  · exact absurd rfl (hpair n m hnlt hmlt h l hal l hbl)
  · exact h
  · exact absurd rfl (hpair m n hmlt hnlt h l hbl l hal)

/-- The one owner of a listener that serves. -/
theorem Owned.owner (h : Owned t log) {l : Listener} (hl : l ∈ t.state.live) :
    t.state.slot = some l ∧ (∀ n, ¬ t.Holds n l) ∨
      t.state.slot ≠ some l ∧ ∃ n, t.Holds n l ∧ ∀ m, t.Holds m l → m = n := by
  have hnodup := h.perm.nodup_iff.mpr h.nodup
  obtain ⟨-, hheld, hdisjoint⟩ := List.nodup_append.mp hnodup
  rcases List.mem_append.mp (h.perm.mem_iff.mpr hl) with hslot | hcall
  · refine .inl ⟨Option.mem_toList.mp hslot, fun n hn => ?_⟩
    exact hdisjoint l hslot l hn.mem rfl
  · obtain ⟨st, hst, hstl⟩ := List.mem_filterMap.mp hcall
    obtain ⟨n, hn⟩ := List.mem_iff_getElem?.mp hst
    refine .inr ⟨fun hslot => ?_, n, ⟨st, hn, hstl⟩, fun m hm => ?_⟩
    · exact hdisjoint l (Option.mem_toList.mpr hslot) l hcall rfl
    · exact hm.unique ⟨st, hn, hstl⟩ hheld

end Run

/-- The call with this number is over, and a listener that it held is in the slot or shut down. -/
structure Fulfilled (t : Traffic) (n : Nat) (l : Listener) : Prop where
  returned : t.calls[n]? = some (.done (.ok ()))
  placed : t.state.slot = some l ∨ l ∉ t.state.live

section Progress
variable {kind : Kind} {t : Traffic} {n : Nat} {l : Listener}

theorem eq_step_of_steps {u : Turn} (h : u.steps n = true) : ∃ w, u = .step n w := by
  cases u with
  | step m w => exact ⟨w, by rw [beq_iff_eq.mp h]⟩
  | connect session | disconnect => cases h

/-- A call that is about to shut a listener down does so in its next step, whenever that comes. -/
theorem fulfilled_of_shutting {st : Stage} (hst : st = .discarding l ∨ st = .stopping l)
    {us : List Turn} (hn : t.calls[n]? = some st) (hus : 1 ≤ us.countP (Turn.steps n)) :
    ∃ vs, vs <+: us ∧ (t.run kind vs).Fulfilled n l := by
  induction us generalizing t with
  | nil => exact absurd hus (Nat.not_succ_le_zero 0)
  | cons u us ih =>
      cases hu : u.steps n with
      | true =>
          obtain ⟨w, rfl⟩ := eq_step_of_steps hu
          have hstep : st.step kind w t.state = (t.state.shutDown l, .done (.ok ())) := by
            rcases hst with rfl | rfl <;> rfl
          refine ⟨[.step n w], ⟨us, rfl⟩, ?_, .inr ?_⟩
          · change (t.take kind (.step n w)).calls[n]? = _
            rw [calls_take_step kind w hn, hstep]
          · change l ∉ (t.take kind (.step n w)).state.live
            rw [take_step hn, hstep]
            simp [State.shutDown]
      | false =>
          rw [List.countP_cons_of_neg (by simp [hu])] at hus
          obtain ⟨vs, ⟨rest, hrest⟩, hful⟩ := ih (calls_take hn hu) hus
          exact ⟨u :: vs, ⟨rest, by rw [List.cons_append, hrest]⟩, hful⟩

/-- A call that is about to store a listener stores it in its next step, or shuts it down in the one
after that. -/
theorem fulfilled_of_storing {us : List Turn} (hn : t.calls[n]? = some (.storing l))
    (hus : 2 ≤ us.countP (Turn.steps n)) : ∃ vs, vs <+: us ∧ (t.run kind vs).Fulfilled n l := by
  induction us generalizing t with
  | nil => exact absurd hus (Nat.not_succ_le_zero 1)
  | cons u us ih =>
      cases hu : u.steps n with
      | true =>
          obtain ⟨w, rfl⟩ := eq_step_of_steps hu
          rw [List.countP_cons_of_pos hu] at hus
          have hnext := calls_take_step kind w hn
          cases hs : t.state.isConnected with
          | false =>
              have hstep : Stage.step kind w t.state (.storing l) =
                  ({ t.state with slot := some l }, .done (.ok ())) := by
                simp [Stage.step, hs]
              refine ⟨[.step n w], ⟨us, rfl⟩, ?_, .inl ?_⟩
              · rw [hstep] at hnext
                exact hnext
              · change (t.take kind (.step n w)).state.slot = some l
                rw [take_step hn, hstep]
          | true =>
              have hstep : Stage.step kind w t.state (.storing l) = (t.state, .discarding l) := by
                simp [Stage.step, hs]
              rw [hstep] at hnext
              obtain ⟨vs, ⟨rest, hrest⟩, hful⟩ :=
                fulfilled_of_shutting (.inl rfl) hnext (Nat.le_of_succ_le_succ hus)
              exact ⟨.step n w :: vs, ⟨rest, by rw [List.cons_append, hrest]⟩, hful⟩
      | false =>
          rw [List.countP_cons_of_neg (by simp [hu])] at hus
          obtain ⟨vs, ⟨rest, hrest⟩, hful⟩ := ih (calls_take hn hu) hus
          exact ⟨u :: vs, ⟨rest, by rw [List.cons_append, hrest]⟩, hful⟩

theorem Holds.fulfilled (h : t.Holds n l) {us : List Turn} (hus : 2 ≤ us.countP (Turn.steps n)) :
    ∃ vs, vs <+: us ∧ (t.run kind vs).Fulfilled n l := by
  obtain ⟨st, hn, hl⟩ := h
  cases st with
  | storing m =>
      obtain rfl := Option.some.inj hl
      exact fulfilled_of_storing hn hus
  | discarding m =>
      obtain rfl := Option.some.inj hl
      exact fulfilled_of_shutting (.inl rfl) hn (Nat.le_of_succ_le hus)
  | stopping m =>
      obtain rfl := Option.some.inj hl
      exact fulfilled_of_shutting (.inr rfl) hn (Nat.le_of_succ_le hus)
  | _ => cases hl

/-- Only a call to disconnect the tunnel takes a listener out of the slot, and none puts another one in
its place. -/
theorem slot_take (hl : t.state.slot = some l) (u : Turn) :
    (t.take kind u).state.slot = some l ∨
      ∃ n w, u = .step n w ∧ t.calls[n]? = some .disconnecting ∧
        (t.take kind u).state.slot = none ∧ (t.take kind u).calls[n]? = some (.stopping l) := by
  cases u with
  | connect session | disconnect => exact .inl hl
  | step n w =>
      cases hn : t.calls[n]? with
      | none => exact .inl (by rwa [take_step_of_none hn])
      | some st =>
          have hnext := calls_take_step kind w hn
          have hexec := step_exec kind w t.state st
          rw [take_step hn] at hnext ⊢
          generalize st.deed? w t.state = d at hexec
          generalize st.step kind w t.state = p at hexec hnext ⊢
          obtain ⟨s', st'⟩ := p
          cases hexec with
          | idle | started | spare | shut => exact .inl hl
          | stored m hs => rw [hs] at hl; cases hl
          | taken hs =>
              obtain rfl := Option.some.inj (hs.symm.trans hl)
              exact .inr ⟨n, w, rfl, hn, rfl, hnext⟩

end Progress

/-- What becomes of the listeners of a tunnel on which calls are made side by side. -/
structure LeakFree (kind : Kind) (t : Traffic) (log : List Deed) : Prop where
  serving : ∀ l, l ∈ t.state.live ↔ .bind (some l) ∈ log ∧ .shutDown l ∉ log
  owner : ∀ l ∈ t.state.live, t.state.slot = some l ∧ (∀ n, ¬ t.Holds n l) ∨
    t.state.slot ≠ some l ∧ ∃ n, t.Holds n l ∧ ∀ m, t.Holds m l → m = n
  /-- However the other calls go on, two more steps of the owner are enough. -/
  fulfils : ∀ n l us, t.Holds n l → 2 ≤ us.countP (Turn.steps n) →
    ∃ vs, vs <+: us ∧ (t.run kind vs).Fulfilled n l
  kept : ∀ l u, t.state.slot = some l → (t.take kind u).state.slot = some l ∨
    ∃ n w, u = .step n w ∧ t.calls[n]? = some .disconnecting ∧
      (t.take kind u).state.slot = none ∧ (t.take kind u).calls[n]? = some (.stopping l)
  /-- When no call is under way, only a listener in the slot serves. -/
  atRest : (∀ st ∈ t.calls, st.result? ≠ none) →
    t.state.live.length = if t.state.isConnected then 1 else 0

/-- Whatever calls are made on a tunnel, and in whatever order they take their steps, no listener is
leaked. -/
theorem leakFree_run (kind : Kind) (turns : List Turn) :
    LeakFree kind (run kind { } turns) (deeds kind { } turns) := by
  have hnew : Owned { } [] := by
    refine ⟨List.Perm.refl _, List.nodup_nil, ?_⟩
    constructor <;> simp
  have h := hnew.run kind turns
  rw [List.nil_append] at h
  generalize run kind { } turns = t at h ⊢
  generalize deeds kind { } turns = log at h ⊢
  refine {
    serving := h.told.serving
    owner := fun l hl => h.owner hl
    fulfils := fun n l us hn hus => hn.fulfilled hus
    kept := fun l u hl => slot_take hl u
    atRest := fun hdone => ?_ }
  have hnone : t.calls.filterMap Stage.held? = [] := by
    refine List.filterMap_eq_nil_iff.mpr fun st hst => ?_
    have hresult := hdone st hst
    cases st with
    | done r => rfl
    | _ => exact absurd rfl hresult
  have hlength := h.perm.length_eq
  rw [owned, hnone, List.append_nil] at hlength
  rw [← hlength, State.isConnected]
  cases t.state.slot <;> rfl

-- Two calls find the tunnel down and bind a listener each; the one that comes too late is shut down.
example :
    let session : Session :=
      { address := "192.0.2.1", port := 8080, identity := .certificate [], capabilities := ["Http"] }
    (run .http { } ([.connect session, .connect session] ++
      [0, 1, 0, 1, 0, 1, 1, 0, 0].map fun n => .step n { })).state =
        { slot := some 1, live := [1], fresh := 2 } := by
  decide +kernel

end Traffic

end RouteCascade.Tunnel
