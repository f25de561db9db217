import RouteCascade.Proofs.Cascade.Branches
import RouteCascade.Proofs.Cascade.Handover

/-!
# Tunnels brought up beforehand

A run looks at the tunnel that was brought up before it and may send its request over it, but leaves it as
it is: what was up stays up, for whoever brought it up to take it down. A tunnel that could not be brought
up has no listener, and so a run with it is the run without it.
-/
namespace RouteCascade.Cascade

open Text Net Log Tunnel

variable {ω : Type}

namespace Fleet

section Current
variable (w : Outside ω) (session : Session) (f : Fleet ω)

/-- No event of a run touches the tunnel that was brought up beforehand. -/
theorem current_after (e : Event Plan) : (e.after (collaborators w) session f).current = f.current := by
  by_cases he : e = .enumerate
  · rw [he]
    rfl
  · exact (f.keeps_after w session he).current

theorem current_replay (es : List (Event Plan)) :
    (replay (collaborators w) session es f).current = f.current :=
  replay_unchanged (f := current) (current_after w session) f es

end Current

/-- The tunnel that was to be brought up beforehand, if any, is down. -/
def Idle (f : Fleet ω) : Prop := ∀ t, f.current = some t → t.state.slot = none ∧ t.state.live = []

def alone (f : Fleet ω) : Fleet ω := { f with current := none }

@[simp] theorem handedOut_alone (f : Fleet ω) : f.alone.handedOut = f.handedOut := rfl

theorem idle_alone (f : Fleet ω) : f.alone.Idle := by
  intro t ht
  cases ht

section Idle
variable {w : Outside ω} {session : Session} {f g : Fleet ω}

theorem Idle.of_current (h : f.Idle) (hg : g.current = f.current) : g.Idle := by
  unfold Idle
  rw [hg]
  exact h

theorem isUp_of_idle (h : f.Idle) : f.isUp = false := by
  unfold isUp
  cases hc : f.current with
  | none => rfl
  | some t => simp [State.isConnected, (h t hc).1]

theorem listeners_alone (h : f.Idle) : f.alone.listeners = f.listeners := by
  unfold listeners alone
  cases hc : f.current with
  | none => rfl
  | some t => simp [liveCount, (h t hc).2]

theorem listening?_alone (h : f.Idle) : f.alone.listening? = f.listening? := by
  unfold listening? alone
  cases hc : f.current with
  | none => rfl
  | some t => simp [(h t hc).2]

theorem bind_alone (h : f.Idle) : f.alone.bind w = f.bind w := by
  have htaken : f.alone.isTaken = f.isTaken := by
    unfold isTaken
    rw [listeners_alone h]
    rfl
  unfold bind
  rw [htaken]
  rfl

theorem connectRelay_alone (h : f.Idle) (t : Relay) :
    f.alone.connectRelay w session t = f.connectRelay w session t := by
  unfold connectRelay
  rw [bind_alone h]
  rfl

theorem connect_alone (h : f.Idle) (number : Nat) :
    f.alone.connect w session number =
      ((f.connect w session number).1, (f.connect w session number).2.alone) := by
  unfold connect
  rw [handedOut_alone]
  cases f.handedOut[number]? with
  | none => rfl
  | some t =>
      dsimp only
      rw [connectRelay_alone h]
      rfl

theorem disconnect_alone (f : Fleet ω) (number : Nat) :
    f.alone.disconnect number = ((f.disconnect number).1, (f.disconnect number).2.alone) := by
  unfold disconnect
  rw [handedOut_alone]
  cases f.handedOut[number]? <;> rfl

theorem discard_alone (f : Fleet ω) (number : Nat) : f.alone.discard number = (f.discard number).alone := by
  unfold discard
  rw [handedOut_alone]
  cases f.handedOut[number]? <;> rfl

/-- To a run, a fleet with a tunnel that is down is like one without it. -/
theorem alike_alone (w : Outside ω) (session : Session) :
    Alike (collaborators w) (collaborators w) session id Eq (fun f g => f.Idle ∧ g = f.alone) where
  routes := rfl
  isConnected := by
    rintro f _ ⟨h, rfl⟩ t
    exact (isUp_of_idle h).symm
  poll := by
    rintro f _ ⟨h, rfl⟩
    exact ⟨rfl, h.of_current rfl, rfl⟩
  attempt := by
    rintro f _ ⟨h, rfl⟩ a
    rw [Attempt.renumber_id]
    dsimp only [collaborators]
    rw [listening?_alone h]
    exact ⟨rfl, h.of_current rfl, rfl⟩
  name := rfl
  kind := rfl
  background := rfl
  requiresHandshake := by
    rintro f _ ⟨h, rfl⟩ i
    exact ⟨rfl, h, rfl⟩
  connect := by
    rintro f _ ⟨h, rfl⟩ i
    dsimp only [collaborators, Instance.renumber_id]
    rw [connect_alone h]
    exact ⟨rfl, h.of_current (f.keeps_connect w session i.number).current, rfl⟩
  disconnect := by
    rintro f _ ⟨h, rfl⟩ i
    dsimp only [collaborators, Instance.renumber_id]
    rw [disconnect_alone]
    exact ⟨rfl, h.of_current (f.keeps_disconnect i.number).current, rfl⟩
  dispose := by
    rintro f _ ⟨h, rfl⟩ i
    exact ⟨h.of_current (f.keeps_discard i.number).current, discard_alone f i.number⟩

theorem agrees_select_alone (w : Outside ω) (session : Session) :
    (select (collaborators w) session).Agrees (fun f g => f.Idle ∧ g = f.alone) Eq
      (fun is is' => is' = is.map (·.renumber id)) (select (collaborators w) session) := by
  apply agrees_select_of_askCatalog compares_same (alike_alone w session)
  constructor
  · intro f g _
    rfl
  · rintro f _ ⟨-, rfl⟩
    simp only [Instance.renumber_id, List.map_id']
    rfl
  · rintro f _ ⟨h, rfl⟩
    exact ⟨h.of_current rfl, rfl⟩

end Idle

end Fleet

def Errand.alone (q : Errand ω) : Errand ω := { q with current := none }

section Errands
variable {q : Errand ω} {f : Fleet ω}

/-- After a run the tunnel that was brought up beforehand is as it was before. -/
theorem Errand.current_final (q : Errand ω) (f : Fleet ω) : (q.act.final f).current = f.current := by
  rw [(q.replays f).eq_replay]
  exact Fleet.current_replay _ _ _ _

theorem Errand.act_of_idle (h : f.Idle) : q.act f = q.alone.act f := by
  obtain ⟨w, o, current⟩ := q
  cases current with
  | none => rfl
  | some t =>
      -- The run looks for the tunnel after it has asked whether to stop.
      have hdown := Fleet.isUp_of_idle (h.of_current (g := ((Fleet.collaborators w).poll f).2) rfl)
      exact run_of_down (c := Fleet.collaborators w) (t := t) hdown

/-- With a tunnel that is down, a run does what it does without. -/
theorem Errand.act_alone (q : Errand ω) (h : f.Idle) :
    q.alone.act.events f.alone = q.act.events f ∧ q.alone.act.result f.alone = q.act.result f ∧
      q.alone.act.final f.alone = (q.act.final f).alone := by
  have halike := Fleet.alike_alone q.outside q.order.session
  have hselect := Fleet.agrees_select_alone q.outside q.order.session
  have hrun := agrees_run compares_same halike hselect none
  have hdown := Errand.act_of_idle (q := q) h
  simp only [Act.events, Act.result, Act.final, hdown]
  have hstart : f.Idle ∧ f.alone = f.alone := ⟨h, rfl⟩
  exact ⟨(hrun.events f f.alone hstart).symm, (hrun.result f f.alone hstart).symm,
    (hrun.final f f.alone hstart).2⟩

end Errands

/-- What is outside after a tunnel that was down was to be connected. -/
def Outside.probed (w : Outside ω) (session : Session) (p : Plan) (u : ω) : ω :=
  if p.gateway.kind.needsHandshake session then u else (w.probe p.gateway u).2

namespace Fleet

section BringUp
variable {w : Outside ω} {session : Session} {f f' : Fleet ω} {t : Relay} {own : List Line}

/-- What bringing a tunnel up comes to. -/
structure BringsUp (w : Outside ω) (session : Session) (f : Fleet ω) (t : Relay)
    (result : Except Failure Unit) (f' : Fleet ω) : Prop where
  plan : f'.current.map (·.plan) = some t.plan
  /-- A tunnel that was new and could be connected has one listener, and it is in its slot. -/
  up : result = .ok () → t.state = { } → ∃ u l, f'.current = some u ∧ u.state.slot = some l ∧
    u.state.live = [l]
  /-- A tunnel that was down and could not be connected is down still, and nothing else has changed. -/
  down : ∀ e, result = .error e → t.state = { } → f'.Idle ∧
    f'.alone = { f.alone with outside := w.probed session t.plan f.outside }

theorem plan_connectRelay (w : Outside ω) (session : Session) (f : Fleet ω) (t : Relay) :
    (f.connectRelay w session t).2.1.plan = t.plan := by
  unfold connectRelay
  dsimp only
  split <;> rfl

theorem outside_connectRelay (h : t.state = { }) :
    (f.connectRelay w session t).2.2.2 = w.probed session t.plan f.outside := by
  unfold connectRelay Outside.probed Relay.needsHandshake
  rw [h]
  cases t.plan.gateway.kind.needsHandshake session <;> rfl

theorem bringsUp_bringUp {result : Except Failure Unit} (h : f.bringUp w session t = (result, own, f')) :
    BringsUp w session f t result f' := by
  obtain ⟨ds, hexec⟩ := f.connectRelay_exec w session t
  obtain ⟨rfl, rfl, rfl⟩ : (f.connectRelay w session t).1 = result ∧
      (f.connectRelay w session t).2.2.1 = own ∧
      { f with current := some (f.connectRelay w session t).2.1,
               outside := (f.connectRelay w session t).2.2.2 } = f' := by
    simpa [bringUp] using h
  constructor
  · exact congrArg some (plan_connectRelay w session f t)
  · intro hok hnew
    rw [hok, hnew] at hexec
    generalize (f.connectRelay w session t).2.1 = u at hexec ⊢
    obtain ⟨plan, s⟩ := u
    cases hexec with
    | up hup => cases hup
    | connected => exact ⟨_, _, rfl, rfl, rfl⟩
  · intro e herror hnew
    rw [herror] at hexec
    constructor
    · rintro _ ⟨⟩
      rw [hexec.down_of_error.1, hnew]
      exact ⟨rfl, rfl⟩
    · rw [outside_connectRelay hnew]
      rfl

end BringUp

section TakeDown
variable {f : Fleet ω} {t t' : Relay}

/-- A tunnel that served was taken down: the one listener that it had was shut down. -/
structure TakesDown (t t' : Relay) : Prop where
  plan : t'.plan = t.plan
  stopped : ∃ l, t.state.slot = some l ∧ t.state.live = [l] ∧
    DisconnectExec t.state t'.state [.shutDown l]

theorem TakesDown.left (h : TakesDown t t') : t'.state.slot = none ∧ t'.state.live = [] := by
  obtain ⟨l, hslot, hlive, hexec⟩ := h.stopped
  refine ⟨hexec.slot_eq_none, hexec.silent fun m hm => ?_⟩
  obtain rfl : m = l := by simpa [hlive] using hm
  exact hslot

theorem outside_takeDown (f : Fleet ω) : f.takeDown.2.2.outside = f.outside := by
  unfold takeDown
  cases f.current with
  | none => rfl
  | some t => dsimp only; split <;> rfl

/-- There is nothing to take down. -/
theorem takeDown_of_idle (h : f.Idle) : f.takeDown = (none, [], f) := by
  unfold takeDown
  cases hc : f.current with
  | none => rfl
  | some t => simp [State.isConnected, (h t hc).1]

theorem takeDown_of_connected (hc : f.current = some t) (hup : t.state.isConnected = true) :
    f.takeDown = (some t.plan, f.disconnectLines t, { f with current := some (disconnectRelay t) }) := by
  unfold takeDown
  simp only [hc, hup, if_true]

theorem takeDown_of_up (hc : f.current = some t) {l : Listener} (hslot : t.state.slot = some l)
    (hlive : t.state.live = [l]) :
    f.takeDown.1 = some t.plan ∧ ∃ t', f.takeDown.2.2.current = some t' ∧ TakesDown t t' := by
  have hup : t.state.isConnected = true := by rw [State.isConnected, hslot]; rfl
  rw [takeDown_of_connected hc hup]
  refine ⟨rfl, disconnectRelay t, rfl, rfl, l, hslot, hlive, ?_⟩
  obtain ⟨ds, hexec⟩ := disconnectRelay_exec t
  generalize (disconnectRelay t).state = s at hexec ⊢
  cases hexec with
  | down hnone =>
      rw [hslot] at hnone
      cases hnone
  | @stopped m hm =>
      obtain rfl : m = l := Option.some.inj (hm.symm.trans hslot)
      exact .stopped hm

/-- A new tunnel that could be connected, and was left alone after that, is taken down. -/
theorem BringsUp.takesDown {w : Outside ω} {session : Session} {g : Fleet ω}
    (h : BringsUp w session f t (.ok ()) g) (hnew : t.state = { }) {g' : Fleet ω}
    (hg : g'.current = g.current) : g'.takeDown.1 = some t.plan ∧ ∃ u u', g.current = some u ∧
      g'.takeDown.2.2.current = some u' ∧ u.plan = t.plan ∧ TakesDown u u' := by
  obtain ⟨u, l, hu, hslot, hlive⟩ := h.up rfl hnew
  have hplan : u.plan = t.plan := by simpa [hu] using h.plan
  obtain ⟨hdown, u', hu', htakes⟩ := takeDown_of_up (hg.trans hu) hslot hlive
  exact ⟨hdown.trans (congrArg some hplan), u, u', hu, hu', hplan, htakes⟩

end TakeDown

end Fleet

end RouteCascade.Cascade
