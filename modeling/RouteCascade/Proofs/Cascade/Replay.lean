import RouteCascade.Proofs.Cascade.Execution

/-!
# Replaying a log

The events of a run are what the collaborators answered, each in the state that the events before it
have led to, and the last of these states is the one that the run ends in. So whatever holds of the
collaborators can be followed along a log, one event after the other, without another look at the run.
-/
namespace RouteCascade.Cascade

open Text Net

variable {σ τ α β : Type}

/-- The event tells what the collaborators answer in a state. -/
def Event.Tells (c : Collaborators σ τ) (session : Session) (s : σ) : Event τ → Prop
  | .poll b => b = (c.poll s).1
  | .attempt a r => r = (c.attempt a s).1
  | .handshake i b => b = (c.requiresHandshake i session s).1
  | .connect i r => r = (c.connect i session s).1
  | .disconnect i r => r = (c.disconnect i s).1
  | .enumerate | .dispose _ | .abandon => True

/-- Events that the collaborators answered lead from one of their states to another. -/
inductive Replays (c : Collaborators σ τ) (session : Session) : σ → List (Event τ) → σ → Prop
  | nil (s : σ) : Replays c session s [] s
  | cons {s s' : σ} {e : Event τ} {es : List (Event τ)} : e.Tells c session s →
      Replays c session (e.after c session s) es s' → Replays c session s (e :: es) s'

section Log
variable {c : Collaborators σ τ} {session : Session} {s m s' : σ} {xs ys : List (Event τ)}

theorem Replays.append (hx : Replays c session s xs m) (hy : Replays c session m ys s') :
    Replays c session s (xs ++ ys) s' := by
  induction hx with
  | nil => exact hy
  | cons he _ ih => exact .cons he (ih hy)

theorem Replays.eq_replay (h : Replays c session s xs s') : s' = replay c session xs s := by
  induction h with
  | nil => rfl
  | cons _ _ ih => exact ih

theorem replays_append_iff :
    Replays c session s (xs ++ ys) s' ↔ ∃ m, Replays c session s xs m ∧ Replays c session m ys s' := by
  constructor
  · intro h
    induction xs generalizing s with
    | nil => exact ⟨s, .nil s, h⟩
    | cons e xs ih =>
        cases h with
        | cons he h =>
            obtain ⟨m, hx, hy⟩ := ih h
            exact ⟨m, .cons he hx, hy⟩
  · rintro ⟨m, hx, hy⟩
    exact hx.append hy

/-- What no event changes, no log changes. -/
theorem replay_unchanged {f : σ → α} (h : ∀ (s : σ) (e : Event τ), f (e.after c session s) = f s)
    (s : σ) (es : List (Event τ)) : f (replay c session es s) = f s := by
  induction es generalizing s with
  | nil => rfl
  | cons e es ih => exact (ih _).trans (h s e)

end Log

/-- The events of an action can be replayed to the state that it ends in, and its result has a property. -/
structure Act.Replayed (c : Collaborators σ τ) (session : Session) (P : α → Prop) (x : Act σ τ α) :
    Prop where
  replays : ∀ s, Replays c session s (x.events s) (x.final s)
  result : ∀ s, P (x.result s)

/-- The events of what a step leaves to be done can be replayed. -/
def StepEnd.Replayed (c : Collaborators σ τ) (session : Session) (x : StepEnd σ τ α) : Prop :=
  ∀ later, x = .abandoned later → later.Replayed c session fun _ => True

section Actions
variable {c : Collaborators σ τ} {session : Session} {P : α → Prop} {Q : β → Prop}

theorem replayed_pure {a : α} (ha : P a) : (pure a : Act σ τ α).Replayed c session P :=
  ⟨fun s => .nil s, fun _ => ha⟩

theorem Act.Replayed.bind {x : Act σ τ α} {f : α → Act σ τ β} (hx : x.Replayed c session P)
    (hf : ∀ a, P a → (f a).Replayed c session Q) : (x >>= f).Replayed c session Q := by
  constructor
  · intro s
    exact (hx.replays s).append ((hf _ (hx.result s)).replays _)
  · intro s
    exact (hf _ (hx.result s)).result _

/-- A call is replayed by its event. -/
theorem replayed_call {f : σ → α × σ} {event : α → Event τ}
    (ht : ∀ s, (event (f s).1).Tells c session s)
    (hf : ∀ s, (event (f s).1).after c session s = (f s).2) :
    (Act.call f event).Replayed c session fun _ => True := by
  constructor
  · intro s
    refine .cons (ht s) ?_
    rw [hf s]
    exact .nil _
  · intro s
    trivial

theorem replayed_askStop : c.askStop.Replayed c session fun _ => True :=
  replayed_call (fun _ => rfl) (fun _ => rfl)

theorem replayed_send (a : Attempt τ) : (c.send a).Replayed c session fun _ => True :=
  replayed_call (fun _ => rfl) (fun _ => rfl)

theorem replayed_askHandshake (i : Instance τ) :
    (c.askHandshake session i).Replayed c session fun _ => True :=
  replayed_call (fun _ => rfl) (fun _ => rfl)

theorem replayed_bringUp (i : Instance τ) : (c.bringUp session i).Replayed c session fun _ => True :=
  replayed_call (fun _ => rfl) (fun _ => rfl)

theorem replayed_takeDown (i : Instance τ) : (c.takeDown i).Replayed c session fun _ => True :=
  replayed_call (fun _ => rfl) (fun _ => rfl)

theorem replayed_discard (i : Instance τ) : (c.discard i).Replayed c session fun _ => True :=
  replayed_call (fun _ => trivial) (fun _ => rfl)

theorem replayed_discardAll (is : List (Instance τ)) :
    (c.discardAll is).Replayed c session fun _ => True := by
  induction is with
  | nil => exact replayed_pure trivial
  | cons i is ih => exact (replayed_discard i).bind fun _ _ => ih

theorem replayed_abandon : (Act.abandon : Act σ τ Unit).Replayed c session fun _ => True :=
  ⟨fun s => .cons trivial (.nil s), fun _ => trivial⟩

theorem replayed_askCatalog : c.askCatalog.Replayed c session fun _ => True :=
  ⟨fun _ => .cons trivial (.nil _), fun _ => trivial⟩

theorem replayed_seeConnected (t : τ) : (c.seeConnected t).Replayed c session fun _ => True :=
  ⟨fun s => .nil s, fun _ => trivial⟩

theorem stepEnd_returned (a : α) : (StepEnd.returned a : StepEnd σ τ α).Replayed c session := nofun

theorem stepEnd_panicked (t : String) : (StepEnd.panicked t : StepEnd σ τ α).Replayed c session := nofun

theorem stepEnd_abandoned {later : Act σ τ Unit} (h : later.Replayed c session fun _ => True) :
    (StepEnd.abandoned later : StepEnd σ τ α).Replayed c session := by
  rintro _ ⟨⟩
  exact h

theorem replayed_settle {cleanup : Act σ τ Unit} {x : StepEnd σ τ α}
    (hc : cleanup.Replayed c session fun _ => True) (hx : x.Replayed c session) :
    (x.settle cleanup).Replayed c session fun _ => True := by
  cases x with
  | returned a => exact hc.bind fun _ _ => replayed_pure trivial
  | panicked t => exact hc.bind fun _ _ => replayed_pure trivial
  | abandoned later =>
      exact hc.bind fun _ _ => (hx later rfl).bind fun _ _ => replayed_pure trivial

namespace Connection

theorem replayed_nothing : (nothing : Act σ τ Unit).Replayed c session fun _ => True :=
  replayed_pure trivial

theorem replayed_acquire (i : Instance τ) :
    (acquire c session i).Replayed c session (StepEnd.Replayed c session) := by
  refine (replayed_askHandshake i).bind fun needed _ => ?_
  cases needed with
  | true => exact (replayed_discard i).bind fun _ _ => replayed_pure (stepEnd_returned _)
  | false =>
      refine (replayed_bringUp i).bind fun reply _ => ?_
      cases reply with
      | ok a => exact replayed_pure (stepEnd_returned _)
      | error e => exact (replayed_discard i).bind fun _ _ => replayed_pure (stepEnd_returned _)
      | panic t => exact (replayed_discard i).bind fun _ _ => replayed_pure (stepEnd_panicked t)
      | hang =>
          exact replayed_abandon.bind fun _ _ => (replayed_discard i).bind fun _ _ =>
            replayed_pure (stepEnd_abandoned replayed_nothing)

theorem replayed_release (i : Instance τ) :
    (release c i).Replayed c session (StepEnd.Replayed c session) := by
  refine (replayed_takeDown i).bind fun reply _ => ?_
  cases reply with
  | ok a => exact (replayed_discard i).bind fun _ _ => replayed_pure (stepEnd_returned _)
  | error e => exact (replayed_discard i).bind fun _ _ => replayed_pure (stepEnd_returned _)
  | panic t => exact (replayed_discard i).bind fun _ _ => replayed_pure (stepEnd_panicked t)
  | hang =>
      exact replayed_abandon.bind fun _ _ => (replayed_discard i).bind fun _ _ =>
        replayed_pure (stepEnd_abandoned replayed_nothing)

theorem replayed_releaseInBackground (i : Instance τ) :
    (releaseInBackground c i).Replayed c session fun _ => True := by
  refine (replayed_takeDown i).bind fun reply _ => ?_
  cases reply with
  | hang => exact replayed_pure trivial
  | _ => exact replayed_discard i

theorem replayed_drop (i : Instance τ) :
    (drop c i).Replayed c session fun later => later.Replayed c session fun _ => True := by
  unfold drop
  split
  · exact replayed_pure (replayed_releaseInBackground i)
  · exact (replayed_discard i).bind fun _ _ => replayed_pure replayed_nothing

theorem replayed_releaseAfter (i : Instance τ) {x : StepEnd σ τ α} (hx : x.Replayed c session) :
    (releaseAfter c i x).Replayed c session (StepEnd.Replayed c session) := by
  refine (replayed_release i).bind fun ended hended => ?_
  cases ended with
  | returned a => exact replayed_pure hx
  | panicked t => exact replayed_pure (stepEnd_panicked t)
  | abandoned later => exact replayed_pure (stepEnd_abandoned (hended later rfl))

theorem replayed_run (i : Instance τ) {attempt : Act σ τ (Reply α)}
    (ha : attempt.Replayed c session fun _ => True) :
    (run c i attempt).Replayed c session (StepEnd.Replayed c session) := by
  refine ha.bind fun reply _ => ?_
  cases reply with
  | ok a => exact replayed_releaseAfter i (stepEnd_returned _)
  | error e => exact replayed_releaseAfter i (stepEnd_returned _)
  | panic t => exact replayed_releaseAfter i (stepEnd_panicked t)
  | hang =>
      exact replayed_abandon.bind fun _ _ => (replayed_drop i).bind fun _ hlater =>
        replayed_pure (stepEnd_abandoned hlater)

end Connection

theorem replayed_keepEligible (is : List (Instance τ)) :
    (keepEligible c session is).Replayed c session fun _ => True := by
  induction is with
  | nil => exact replayed_pure trivial
  | cons i is ih =>
      refine (replayed_askHandshake i).bind fun needed _ => ?_
      cases needed with
      | true => exact (replayed_discard i).bind fun _ _ => ih
      | false => exact ih.bind fun _ _ => replayed_pure trivial

variable (o : Order)

theorem replayed_tryDirect (fs : List FailedPath) (ps : List Port) :
    (tryDirect c o fs ps).Replayed c session fun _ => True := by
  induction ps generalizing fs with
  | nil => exact replayed_pure trivial
  | cons p ps ih =>
      refine replayed_askStop.bind fun stop _ => ?_
      cases stop with
      | true => exact replayed_pure trivial
      | false =>
          refine (replayed_send _).bind fun reply _ => ?_
          cases reply with
          | error e => exact ih _
          | hang => exact replayed_abandon.bind fun _ _ => replayed_pure trivial
          | _ => exact replayed_pure trivial

theorem replayed_tryTunnels (fs : List FailedPath) (is : List (Instance τ)) :
    (tryTunnels c o fs is).Replayed c o.session fun _ => True := by
  induction is generalizing fs with
  | nil => exact replayed_pure trivial
  | cons i rest ih =>
      have hrest : (c.discardAll rest).Replayed c o.session fun _ => True := replayed_discardAll rest
      refine replayed_askStop.bind fun stop _ => ?_
      cases stop with
      | true => exact (replayed_discardAll (i :: rest)).bind fun _ _ => replayed_pure trivial
      | false =>
          refine (Connection.replayed_acquire i).bind fun acquired hacquired => ?_
          rcases acquired with ⟨e | a⟩ | t | later
          · exact ih _
          · refine replayed_askStop.bind fun stop _ => ?_
            cases stop with
            | true =>
                refine (Connection.replayed_release i).bind fun ended hended => ?_
                refine replayed_settle hrest ?_
                cases ended with
                | returned a => exact stepEnd_returned _
                | panicked t => exact stepEnd_panicked t
                | abandoned later => exact stepEnd_abandoned (hended later rfl)
            | false =>
                refine (Connection.replayed_run i (replayed_send _)).bind fun ended hended => ?_
                rcases ended with ⟨e | b⟩ | t | later
                · exact ih _
                · exact replayed_settle hrest (stepEnd_returned _)
                · exact replayed_settle hrest (stepEnd_panicked t)
                · exact replayed_settle hrest (stepEnd_abandoned (hended later rfl))
          · exact replayed_settle hrest (stepEnd_panicked t)
          · exact replayed_settle hrest (stepEnd_abandoned (hacquired later rfl))

theorem replayed_tryCurrent (t : τ) : (tryCurrent c o t).Replayed c session fun _ => True := by
  refine (replayed_send _).bind fun reply _ => ?_
  cases reply with
  | hang => exact replayed_abandon.bind fun _ _ => replayed_pure trivial
  | _ => exact replayed_pure trivial

theorem replayed_tryAll : (tryAll c o).Replayed c o.session fun _ => True := by
  refine (replayed_tryDirect o [] _).bind fun ended _ => ?_
  cases ended with
  | ended x => exact replayed_pure trivial
  | failed fs =>
      have hselect : (select c o.session).Replayed c o.session fun _ => True :=
        replayed_askCatalog.bind fun is _ => replayed_keepEligible is
      refine hselect.bind fun candidates _ => ?_
      cases candidates with
      | nil => exact replayed_pure trivial
      | cons i rest => exact replayed_tryTunnels o fs (i :: rest)

/-- The events of a run are the answers of its collaborators, and lead to the state that it ends in. -/
theorem replayed_run (current : Option τ) :
    (run c o current).Replayed c o.session fun _ => True := by
  refine replayed_askStop.bind fun stop _ => ?_
  cases stop with
  | true => exact replayed_pure trivial
  | false =>
      simp only [Bool.false_eq_true, if_false]
      split
      · exact replayed_pure trivial
      · have hconnected : (connected? c current).Replayed c o.session fun _ => True := by
          cases current with
          | none => exact replayed_pure trivial
          | some t =>
              refine (replayed_seeConnected t).bind fun up _ => ?_
              cases up <;> exact replayed_pure trivial
        refine hconnected.bind fun t _ => ?_
        cases t with
        | some t => exact replayed_tryCurrent o t
        | none =>
            cases o.allowTemporary with
            | true => exact replayed_tryAll o
            | false => exact replayed_pure trivial

end Actions

end RouteCascade.Cascade
