import RouteCascade.Cascade.Fleet
import RouteCascade.Proofs.Cascade.Replay
import RouteCascade.Proofs.Cascade.Teardown
import RouteCascade.Proofs.Tunnel.Calls

/-!
# Handing over the local address

The tunnels of a registry all listen at one address, and one after the other gets it. Between events of
a run nothing listens there but the tunnel that is up: connecting a tunnel needs that none is, and
disconnecting it waits until its listener is gone. So a run that finds the address free never meets it
taken, and leaves it free for the next run.
-/
namespace RouteCascade.Cascade

open Text Net Log Tunnel

variable {ω σ τ : Type}

/-- An event leaves no choice which tunnel is up after it. -/
theorem Event.Moves.unique {e : Event τ} {h m k : Option (Instance τ)} (hm : e.Moves h m)
    (hk : e.Moves h k) : m = k := by
  cases e with
  | connect i r => cases r <;> exact hm.2.trans hk.2.symm
  | disconnect i r => exact hm.2.trans hk.2.symm
  | _ => exact Eq.trans hm (Eq.symm hk)

namespace Fleet

section Counting

theorem foldl_live_eq_zero_iff (ts : List Relay) (n : Nat) :
    ts.foldl (fun n t => n + t.state.live.length) n = 0 ↔ n = 0 ∧ ∀ t ∈ ts, t.state.live = [] := by
  induction ts generalizing n with
  | nil => simp
  | cons t ts ih =>
      rw [List.foldl_cons, ih, List.forall_mem_cons, Nat.add_eq_zero_iff, List.length_eq_zero_iff,
        and_assoc]

theorem liveCount_eq_zero_iff {ts : List Relay} :
    liveCount ts = 0 ↔ ∀ t ∈ ts, t.state.live = [] := by
  unfold liveCount
  rw [foldl_live_eq_zero_iff]
  exact and_iff_right rfl

theorem listeners_eq_zero_iff {f : Fleet ω} :
    f.listeners = 0 ↔ f.earlier = 0 ∧ (∀ t, f.current = some t → t.state.live = []) ∧
      ∀ t ∈ f.handedOut, t.state.live = [] := by
  unfold listeners
  rw [Nat.add_eq_zero_iff, liveCount_eq_zero_iff, List.forall_mem_append]
  simp only [Option.mem_toList]

theorem isTaken_of_listeners {f : Fleet ω} (h : f.listeners = 0) : f.isTaken = false := by
  simp [isTaken, h]

end Counting

section Calls
variable (w : Outside ω) (session : Session) (f : Fleet ω) (t : Relay)

/-- What answers to the call that connects a tunnel. -/
def worldFor : World := ⟨(w.probe t.plan.gateway f.outside).1, f.bind w⟩

theorem connectRelay_exec :
    ∃ ds, ConnectExec t.plan.gateway.kind session (f.worldFor w t) t.state
      (f.connectRelay w session t).2.1.state (f.connectRelay w session t).1 ds := by
  obtain ⟨result, hr, h⟩ := connect_exec t.plan.gateway.kind session (f.worldFor w t) t.state
  unfold connectAlone at hr h
  have hlast := Stage.finish_of_done hr
  rw [← hlast, Stage.finish_succ] at hr h
  simp only [connectRelay, Relay.needsHandshake]
  rcases Stage.step_connecting t.plan.gateway.kind t.state (t.plan.gateway.kind.needsHandshake session)
    with ⟨r, hstep⟩ | hstep
  · rw [hstep, Stage.finish_done] at hr h
    obtain rfl := Stage.done.inj hr
    simp only [hstep]
    exact ⟨_, h⟩
  · rw [hstep] at hr h
    dsimp only [worldFor] at hr h
    simp only [hstep, hr]
    exact ⟨_, h⟩

theorem disconnectRelay_exec :
    ∃ ds, DisconnectExec t.state (disconnectRelay t).state ds :=
  ⟨_, (disconnect_exec t.plan.gateway.kind t.state).2⟩

end Calls

/-- What one fleet has is what another has, but for what the tunnels handed out are doing. -/
structure Keeps (f g : Fleet ω) : Prop where
  registry : g.registry = f.registry
  current : g.current = f.current
  handedOut : g.handedOut.length = f.handedOut.length

section Keeps
variable (w : Outside ω) (session : Session) (f : Fleet ω) (number : Nat)

theorem keeps_connect : f.Keeps (f.connect w session number).2 := by
  unfold connect
  cases f.handedOut[number]? with
  | none => exact ⟨rfl, rfl, rfl⟩
  | some t => exact ⟨rfl, rfl, List.length_set⟩

theorem keeps_disconnect : f.Keeps (f.disconnect number).2 := by
  unfold disconnect
  cases f.handedOut[number]? with
  | none => exact ⟨rfl, rfl, rfl⟩
  | some t => exact ⟨rfl, rfl, List.length_set⟩

theorem keeps_discard : f.Keeps (f.discard number) := by
  unfold discard
  cases f.handedOut[number]? with
  | none => exact ⟨rfl, rfl, rfl⟩
  | some t => exact ⟨rfl, rfl, List.length_set⟩

theorem keeps_after {e : Event Plan} (he : e ≠ .enumerate) :
    f.Keeps (e.after (collaborators w) session f) := by
  cases e with
  | connect i r => exact f.keeps_connect w session i.number
  | disconnect i r => exact f.keeps_disconnect i.number
  | dispose i => exact f.keeps_discard i.number
  | enumerate => exact absurd rfl he
  | _ => exact ⟨rfl, rfl, rfl⟩

theorem registry_after (e : Event Plan) : (e.after (collaborators w) session f).registry = f.registry := by
  by_cases he : e = .enumerate
  · rw [he]
    rfl
  · exact (f.keeps_after w session he).registry

theorem registry_replay (es : List (Event Plan)) :
    (replay (collaborators w) session es f).registry = f.registry :=
  replay_unchanged (f := registry) (registry_after w session) f es

/-- Every tunnel of the registry is handed out. -/
def Stocked (f : Fleet ω) : Prop := f.handedOut.length = f.registry.plans.length

/-- From when the catalog was asked, every tunnel of the registry is handed out. -/
theorem stocked_replay {es : List (Event Plan)} (h : f.Stocked ∨ .enumerate ∈ es) :
    (replay (collaborators w) session es f).Stocked := by
  induction es generalizing f with
  | nil => exact h.resolve_right List.not_mem_nil
  | cons e es ih =>
      refine ih (e.after (collaborators w) session f) ?_
      by_cases he : e = .enumerate
      · rw [he]
        exact .inl (List.length_map _)
      · have hkeeps := f.keeps_after w session he
        rcases h with h | h
        · exact .inl (hkeeps.handedOut.trans (h.trans (congrArg (·.plans.length) hkeeps.registry.symm)))
        · exact .inr ((List.mem_cons.mp h).resolve_left (Ne.symm he))

/-- The tunnels that are handed out have the numbers of those in the registry. -/
theorem number_lt_of_handedOutIn {es : List (Event Plan)} {i : Instance Plan}
    (h : i ∈ handedOutIn (collaborators w) session es f) : i.number < f.registry.plans.length := by
  induction es generalizing f with
  | nil => cases h
  | cons e es ih =>
      cases e with
      | enumerate =>
          have hnumber := List.mem_map_of_mem (f := (·.number)) h
          rw [handedOutIn, map_number_handedOut] at hnumber
          have hlt := (List.mem_range'_1.mp hnumber).2
          rw [Nat.zero_add] at hlt
          exact hlt
      | _ =>
          rw [← registry_after w session f]
          exact ih _ h

end Keeps

/-- Nothing listens but the tunnel that is up, with the listener in its slot. -/
structure Holds (f : Fleet ω) (up : Option (Instance Plan)) : Prop where
  earlier : f.earlier = 0
  current : ∀ t, f.current = some t → t.state.live = []
  handedOut : ∀ n t, f.handedOut[n]? = some t → ∀ l ∈ t.state.live,
    t.state.slot = some l ∧ ∃ i, up = some i ∧ i.number = n

theorem holds_none_iff {f : Fleet ω} : f.Holds none ↔ f.listeners = 0 := by
  rw [listeners_eq_zero_iff]
  constructor
  · rintro ⟨hearlier, hcurrent, hout⟩
    refine ⟨hearlier, hcurrent, fun t ht => ?_⟩
    obtain ⟨n, hn⟩ := List.mem_iff_getElem?.mp ht
    rw [List.eq_nil_iff_forall_not_mem]
    intro l hl
    obtain ⟨-, i, hi, -⟩ := hout n t hn l hl
    cases hi
  · rintro ⟨hearlier, hcurrent, hout⟩
    refine ⟨hearlier, hcurrent, fun n t hn l hl => ?_⟩
    rw [hout t (List.mem_of_getElem? hn)] at hl
    cases hl

theorem isAnswer_replyOf {α : Type} (r : Except Failure α) : (replyOf r).isAnswer = true := by
  cases r <;> rfl

theorem eq_error_of_replyOf {α : Type} {r : Except Failure α} {e : Failure}
    (h : replyOf r = .error e) : r = .error e := by
  cases r with
  | error => exact congrArg Except.error (Reply.error.inj h)
  | ok => cases h

section Events
variable {w : Outside ω} {session : Session} {f : Fleet ω} {up up' : Option (Instance Plan)}

/-- A tunnel may take another state, as long as nothing else is up then. -/
theorem Holds.set {n : Nat} {t : Relay} (h : f.Holds up)
    (hup : ∀ i, up = some i → up' = some i ∨ i.number = n)
    (ht : ∀ l ∈ t.state.live, t.state.slot = some l ∧ ∃ i, up' = some i ∧ i.number = n)
    (outside : ω) (notes : List (List Line)) :
    ({ f with handedOut := f.handedOut.set n t, outside := outside, notes := notes } : Fleet ω).Holds up' := by
  refine ⟨h.earlier, h.current, fun k u hk l hl => ?_⟩
  by_cases hkn : n = k
  · subst hkn
    rw [List.getElem?_set] at hk
    obtain ⟨-, rfl⟩ : n < f.handedOut.length ∧ t = u := by simpa using hk
    exact ht l hl
  · rw [List.getElem?_set_ne hkn] at hk
    obtain ⟨hslot, i, hi, rfl⟩ := h.handedOut k u hk l hl
    rcases hup i hi with hi | hi
    · exact ⟨hslot, i, hi, rfl⟩
    · exact absurd hi.symm hkn

theorem Holds.connect (h : f.Holds none) (i : Instance Plan)
    (hm : (Event.connect i (replyOf (f.connect w session i.number).1)).Moves none up') :
    (f.connect w session i.number).2.Holds up' := by
  unfold Fleet.connect at hm ⊢
  cases ht : f.handedOut[i.number]? with
  | none =>
      -- No tunnel has this number, and so none listens under it.
      exact ⟨h.earlier, h.current, fun n t hn l hl =>
        nomatch (h.handedOut n t hn l hl).2⟩
  | some t =>
      obtain ⟨ds, hexec⟩ := f.connectRelay_exec w session t
      have hlive : t.state.live = [] := by
        rw [List.eq_nil_iff_forall_not_mem]
        intro l hl
        obtain ⟨-, j, hj, -⟩ := h.handedOut _ t ht l hl
        cases hj
      simp only [ht] at hm ⊢
      generalize f.connectRelay w session t = p at hm hexec ⊢
      obtain ⟨result, t', lines, outside⟩ := p
      refine h.set nofun ?_ _ _
      intro l hl
      dsimp only at hexec hm
      generalize t'.state = s at hexec hl ⊢
      cases hexec with
      | connected =>
          obtain rfl : l = t.state.fresh := by simpa [hlive] using hl
          exact ⟨rfl, i, hm.2, rfl⟩
      | _ => rw [hlive] at hl; cases hl

/-- Once the tunnel of a number has been disconnected, nothing of it serves. -/
theorem Holds.live_disconnectRelay (h : f.Holds up) {n : Nat} {t : Relay} (ht : f.handedOut[n]? = some t) :
    (disconnectRelay t).state.live = [] := by
  obtain ⟨ds, hexec⟩ := disconnectRelay_exec t
  exact hexec.silent fun l hl => (h.handedOut n t ht l hl).1

theorem Holds.disconnect {i : Instance Plan} (h : f.Holds (some i)) :
    (f.disconnect i.number).2.Holds none := by
  unfold Fleet.disconnect
  cases ht : f.handedOut[i.number]? with
  | none =>
      refine ⟨h.earlier, h.current, fun n t hn l hl => ?_⟩
      obtain ⟨-, j, hj, rfl⟩ := h.handedOut n t hn l hl
      cases hj
      exact nomatch ht.symm.trans hn
  | some t =>
      refine h.set (fun j hj => .inr (by cases hj; rfl)) ?_ _ _
      rw [h.live_disconnectRelay ht]
      exact List.forall_mem_nil _

theorem Holds.discard (h : f.Holds up) (n : Nat) : (f.discard n).Holds up := by
  unfold Fleet.discard
  cases ht : f.handedOut[n]? with
  | none => exact h
  | some t =>
      refine h.set (fun i hi => .inl hi) ?_ _ _
      have hlive := h.live_disconnectRelay ht
      unfold disconnectRelay at hlive
      rw [← dropped_eq_disconnectAlone] at hlive
      dsimp only
      rw [hlive]
      exact List.forall_mem_nil _

theorem holds_handOut (h : f.Holds none) : f.handOut.Holds none := by
  obtain ⟨hearlier, hcurrent, hout⟩ := listeners_eq_zero_iff.mp (holds_none_iff.mp h)
  refine ⟨?_, hcurrent, fun n t hn l hl => ?_⟩
  · change f.earlier + liveCount f.handedOut = 0
    rw [hearlier, liveCount_eq_zero_iff.mpr hout]
  · obtain ⟨p, -, rfl⟩ := List.mem_map.mp (List.mem_of_getElem? hn)
    cases hl

/-- An event that the fleet answers keeps what is up and what listens in step. -/
theorem Holds.after {e : Event Plan} (h : f.Holds up) (ht : e.Tells (collaborators w) session f)
    (hm : e.Moves up up') (hdown : e = .enumerate → up = none) :
    (e.after (collaborators w) session f).Holds up' := by
  cases e with
  | poll | attempt | handshake | abandon =>
      obtain rfl : up' = up := hm
      exact ⟨h.earlier, h.current, h.handedOut⟩
  | dispose i =>
      obtain rfl : up' = up := hm
      exact h.discard i.number
  | enumerate =>
      obtain rfl : up' = up := hm
      obtain rfl := hdown rfl
      exact holds_handOut h
  | connect i r =>
      obtain rfl : up = none := by cases r <;> exact hm.1
      obtain rfl : r = replyOf (f.connect w session i.number).1 := ht
      exact h.connect i hm
  | disconnect i r =>
      obtain ⟨rfl, rfl⟩ := hm
      exact h.disconnect

/-- As long as the catalog is asked only while no tunnel is up, a log keeps them in step. -/
theorem Holds.replays {es : List (Event Plan)} {f' : Fleet ω} (h : f.Holds up)
    (hr : Replays (collaborators w) session f es f') (hl : Leads es up up')
    (hdown : ∀ u v, es = u ++ .enumerate :: v → Leads u up none) : f'.Holds up' := by
  induction hr generalizing up with
  | nil s =>
      obtain rfl : up' = up := hl
      exact h
  | @cons s s' e es ht _ ih =>
      obtain ⟨m, hm, hl⟩ := hl
      refine ih (h.after ht hm ?_) hl ?_
      · rintro rfl
        exact Eq.symm (hdown [] es rfl)
      · rintro u v rfl
        obtain ⟨k, hk, hu⟩ := hdown (e :: u) v rfl
        rwa [hm.unique hk]

/-- The fleet answers every call. -/
theorem isSettled_of_replays {es : List (Event Plan)} {f' : Fleet ω}
    (hr : Replays (collaborators w) session f es f') : ∀ e ∈ es, e.isSettled = true := by
  induction hr with
  | nil => exact List.forall_mem_nil _
  | @cons s s' e es ht _ ih =>
      refine List.forall_mem_cons.mpr ⟨?_, ih⟩
      cases e with
      | attempt a r =>
          have hr : r = replyOf (w.attempt a s.listening? s.outside).1 := ht
          change r.isAnswer = true
          rw [hr, isAnswer_replyOf]
      | connect i r =>
          have hr : r = replyOf (s.connect w session i.number).1 := ht
          change r.isAnswer = true
          rw [hr, isAnswer_replyOf]
      | disconnect i r =>
          have hr : r = replyOf (s.disconnect i.number).1 := ht
          change r.isAnswer = true
          rw [hr, isAnswer_replyOf]
      | _ => rfl

end Events

/-- Why a tunnel is not connected while nothing listens at the local address. -/
inductive Obstacle (w : Outside ω) (session : Session) (f : Fleet ω) (t : Relay) : Failure → Prop
  | unlisted : ¬ t.plan.gateway.kind.IsListed session →
      Obstacle w session f t (Tunnel.handshakeFailure t.plan.gateway.kind)
  | unreachable {e : Failure} : (w.probe t.plan.gateway f.outside).1 = .error e →
      Obstacle w session f t e
  | unbound {n : Int} : w.bindError = some n → n ≠ OsError.addressInUse →
      Obstacle w session f t (LocalProxy.bindFailure f.address n)

theorem bind_eq_error {w : Outside ω} {f : Fleet ω} {e : Failure} (h : f.bind w = .error e)
    (hf : f.isTaken = false) : ∃ n, w.bindError = some n ∧ e = LocalProxy.bindFailure f.address n := by
  unfold Fleet.bind at h
  cases hn : w.bindError with
  | none => simp [hn, hf] at h
  | some n => exact ⟨n, rfl, by simpa [hn] using h.symm⟩

/-- A tunnel that is not connected while the address is free fails for another reason. -/
theorem obstacle_of_connect {w : Outside ω} {session : Session} {f : Fleet ω} {n : Nat} {e : Failure}
    (hw : w.bindError ≠ some OsError.addressInUse) (hf : f.isTaken = false)
    (hn : n < f.handedOut.length) (h : (f.connect w session n).1 = .error e) :
    ∃ t, f.handedOut[n]? = some t ∧ f.Obstacle w session t e := by
  unfold Fleet.connect at h
  cases ht : f.handedOut[n]? with
  | none => exact absurd (List.getElem?_eq_none_iff.mp ht) (Nat.not_le_of_lt hn)
  | some t =>
      refine ⟨t, rfl, ?_⟩
      obtain ⟨ds, hexec⟩ := f.connectRelay_exec w session t
      have hr : (f.connectRelay w session t).1 = .error e := by simpa [ht] using h
      rw [hr] at hexec
      generalize (f.connectRelay w session t).2.1.state = s at hexec
      cases hexec with
      | refused _ hl => exact .unlisted hl
      | unreachable _ _ hp => exact .unreachable hp
      | unbound _ _ _ hb =>
          obtain ⟨n, hn, rfl⟩ := bind_eq_error hb hf
          exact .unbound hn fun h => hw (h ▸ hn)

end Fleet

section Runs
variable {c : Collaborators σ τ} {o : Order} {fs : List FailedPath} {es : List (Event τ)}

/-- The catalog is asked while no tunnel is up. -/
theorem RunExec.down_of_enumerate {current : Option τ} {s : σ} {x : Ending Answer}
    (h : RunExec c o current s es x) {u v : List (Event τ)} (hu : es = u ++ .enumerate :: v) :
    Leads u none none := by
  refine (leads_of_isStill fun e he => ?_).mpr rfl
  rcases h.split with hs | ⟨before, turns, fs, kept, rfl, hs, -, -, ht⟩
  · exact hs e (hu ▸ List.mem_append_left _ he)
  · rcases List.append_eq_append_iff.mp hu with ⟨m, rfl, hm⟩ | ⟨m, rfl, hm⟩
    · exact absurd (hm ▸ List.mem_append_right m List.mem_cons_self) ht.enumerate_not_mem
    · exact hs e (List.mem_append_left m he)

theorem DirectExec.returns {ps : List Port} {x : DirectEnd} (h : DirectExec o fs ps es x)
    (hs : ∀ e ∈ es, e.isSettled = true) {y : Ending Answer} (hx : x = .ended y) :
    ∃ answer, y = .returned answer := by
  induction h with
  | failed => cases hx
  | stopped | succeeded =>
      obtain rfl := DirectEnd.ended.inj hx
      exact ⟨_, rfl⟩
  | panicked | abandoned => simp [Event.isSettled, Reply.isAnswer] at hs
  | next _ ih => exact ih (fun e he => hs e (by simp [he])) hx

theorem CurrentExec.returns {a : Attempt τ} {x : Ending Answer} (h : CurrentExec a es x)
    (hs : ∀ e ∈ es, e.isSettled = true) : ∃ answer, x = .returned answer := by
  cases h with
  | succeeded | failed => exact ⟨_, rfl⟩
  | panicked | abandoned => simp [Event.isSettled, Reply.isAnswer] at hs

theorem Connection.ReleaseExec.returns {i : Instance τ} {x : StepEnd σ τ Unit}
    (h : ReleaseExec i es x) (hs : ∀ e ∈ es, e.isSettled = true) : x = .returned () := by
  cases h with
  | returned => rfl
  | panicked | abandoned => simp [Event.isSettled, Reply.isAnswer] at hs

theorem TurnExec.returns {i : Instance τ} {x : Ending (Except Failure Outcome)}
    {late : List (Event τ)} (h : TurnExec c o i es x late) (hs : ∀ e ∈ es, e.isSettled = true) :
    ∃ result, x = .returned result := by
  cases h with
  | stopped | refused | unreachable => exact ⟨_, rfl⟩
  | connectPanicked | connectAbandoned | left => simp [Event.isSettled, Reply.isAnswer] at hs
  | unused hr =>
      obtain rfl := hr.returns fun e he => hs e (by simp [he])
      exact ⟨_, rfl⟩
  | @used r _ _ _ hr =>
      obtain rfl := hr.returns fun e he => hs e (by simp [he])
      cases r with
      | ok | error => exact ⟨_, rfl⟩
      | panic | hang => simp [Event.isSettled, Reply.isAnswer] at hs

theorem TunnelsExec.returns {is : List (Instance τ)} {x : Ending Answer}
    (h : TunnelsExec c o fs is es x) (hs : ∀ e ∈ es, e.isSettled = true) :
    ∃ answer, x = .returned answer := by
  induction h with
  | exhausted => exact ⟨_, rfl⟩
  | next _ _ ih => exact ih fun e he => hs e (List.mem_append_right _ he)
  | last fs rest ht hx =>
      obtain ⟨result, rfl⟩ := ht.returns fun e he => hs e (List.mem_append_left _ he)
      cases result with
      | error e => cases hx
      | ok b =>
          cases hx
          exact ⟨_, rfl⟩

/-- A run whose calls all come back returns. -/
theorem RunExec.returns {current : Option τ} {s : σ} {x : Ending Answer}
    (h : RunExec c o current s es x) (hs : ∀ e ∈ es, e.isSettled = true) :
    ∃ answer, x = .returned answer := by
  cases h with
  | stopped | invalid | disallowed | noEligible => exact ⟨_, rfl⟩
  | current _ _ hc => exact hc.returns fun e he => hs e (List.mem_cons_of_mem _ he)
  | direct _ hd => exact hd.returns (fun e he => hs e (List.mem_cons_of_mem _ he)) rfl
  | tunnels _ _ _ _ ht => exact ht.returns fun e he => hs e (by simp [he])

end Runs

/-- A request to send: what answers outside, and which tunnel may be up. -/
structure Errand (ω : Type) where
  outside : Outside ω
  order : Order
  current : Option Plan := none

namespace Errand

def act (q : Errand ω) : Act (Fleet ω) Plan (Ending Answer) :=
  run (Fleet.collaborators q.outside) q.order q.current

def fleetAfter (q : Errand ω) (u : List (Event Plan)) (f : Fleet ω) : Fleet ω :=
  replay (Fleet.collaborators q.outside) q.order.session u f

end Errand

def Fleet.after (f : Fleet ω) (qs : List (Errand ω)) : Fleet ω := qs.foldl (fun f q => q.act.final f) f

/-- How a run uses the local address. -/
structure HandsOver (q : Errand ω) (f : Fleet ω) : Prop where
  returns : ∃ answer, q.act.result f = .returned answer
  /-- Whenever a tunnel is connected, nothing listens at the address. -/
  free : Everywhere (fun u e _ => ∀ i r, e = .connect i r →
    (q.fleetAfter u f).isTaken = false ∧ (q.fleetAfter u f).listeners = 0) (q.act.events f)
  reason : Everywhere (fun u e _ => ∀ i error, e = .connect i (.error error) →
    ∃ t, (q.fleetAfter u f).handedOut[i.number]? = some t ∧
      (q.fleetAfter u f).Obstacle q.outside q.order.session t error) (q.act.events f)
  leaves : (q.act.final f).isTaken = false ∧ (q.act.final f).listeners = 0

section Errands
variable {q : Errand ω} {f : Fleet ω}

theorem Errand.exec (q : Errand ω) (f : Fleet ω) :
    RunExec (Fleet.collaborators q.outside) q.order q.current f (q.act.events f) (q.act.result f) :=
  run_exec _ q.order q.current f

theorem Errand.replays (q : Errand ω) (f : Fleet ω) :
    Replays (Fleet.collaborators q.outside) q.order.session f (q.act.events f) (q.act.final f) :=
  (replayed_run q.order q.current).replays f

/-- A run can be cut in two anywhere. -/
theorem Errand.replays_of_events {u v : List (Event Plan)} (hu : q.act.events f = u ++ v) :
    Replays (Fleet.collaborators q.outside) q.order.session f u (q.fleetAfter u f) ∧
      Replays (Fleet.collaborators q.outside) q.order.session (q.fleetAfter u f) v (q.act.final f) := by
  have h := q.replays f
  rw [hu, replays_append_iff] at h
  obtain ⟨m, hm, hv⟩ := h
  obtain rfl := hm.eq_replay
  exact ⟨hm, hv⟩

/-- The fleet in the middle of a run that found the address free. -/
theorem Errand.holds (hf : f.listeners = 0) {u v : List (Event Plan)}
    (hu : q.act.events f = u ++ v) {up : Option (Instance Plan)} (hl : Leads u none up) :
    (q.fleetAfter u f).Holds up := by
  have hstart := Fleet.holds_none_iff.mpr hf
  refine hstart.replays (Errand.replays_of_events hu).1 hl ?_
  rintro a b rfl
  have hsplit : q.act.events f = a ++ .enumerate :: (b ++ v) := by rw [hu, List.append_assoc]; rfl
  exact (q.exec f).down_of_enumerate hsplit

/-- Whatever tunnel a run does something with was handed out to it. -/
theorem Errand.number_lt {u v : List (Event Plan)} {e : Event Plan} (hu : q.act.events f = u ++ e :: v)
    {i : Instance Plan} (hi : e.tunnel? = some i) : i.number < (q.fleetAfter u f).handedOut.length := by
  have he : e ∈ q.act.events f := hu ▸ List.mem_append_right u List.mem_cons_self
  have hout := (q.exec f).mem_handedOutIn he hi
  have hstocked : (q.fleetAfter u f).Stocked :=
    Fleet.stocked_replay _ _ f (.inr ((q.exec f).enumerate_mem_of_tunnel? hu hi))
  rw [hstocked, Errand.fleetAfter, Fleet.registry_replay]
  exact Fleet.number_lt_of_handedOutIn _ _ f hout

theorem handsOver_act (hw : q.outside.bindError ≠ some OsError.addressInUse) (hf : f.listeners = 0) :
    HandsOver q f := by
  have hleads := (q.exec f).leads fun _ => rfl
  have hfree : ∀ u i r v, q.act.events f = u ++ .connect i r :: v →
      (q.fleetAfter u f).listeners = 0 := by
    intro u i r v hu
    exact Fleet.holds_none_iff.mp (Errand.holds hf hu (hleads.down_of_connect hu))
  constructor
  · exact (q.exec f).returns (Fleet.isSettled_of_replays (q.replays f))
  · rintro u e v hu i r rfl
    have h := hfree u i r v hu
    exact ⟨Fleet.isTaken_of_listeners h, h⟩
  · rintro u e v hu i error rfl
    have h := hfree u i _ v hu
    cases (Errand.replays_of_events hu).2 with
    | cons ht _ =>
        have hconnect := Fleet.eq_error_of_replyOf (Eq.symm ht)
        exact Fleet.obstacle_of_connect hw (Fleet.isTaken_of_listeners h) (Errand.number_lt hu rfl) hconnect
  · have hfinal := Errand.holds hf (List.append_nil _).symm hleads
    unfold Errand.fleetAfter at hfinal
    rw [← (q.replays f).eq_replay, Fleet.holds_none_iff] at hfinal
    exact ⟨Fleet.isTaken_of_listeners hfinal, hfinal⟩

theorem listeners_after (hf : f.listeners = 0) (qs : List (Errand ω))
    (hq : ∀ q ∈ qs, q.outside.bindError ≠ some OsError.addressInUse) : (f.after qs).listeners = 0 := by
  induction qs generalizing f with
  | nil => exact hf
  | cons q qs ih =>
      obtain ⟨hq, hqs⟩ := List.forall_mem_cons.mp hq
      exact ih (handsOver_act hq hf).leaves.2 hqs

end Errands

/-- Tunnels that share a fixed address hand it over: if it is free before some requests, and nobody else
listens there, no tunnel that one of them connects ever finds it taken. -/
theorem handsOver_errands (qs : List (Errand ω))
    (hq : ∀ q ∈ qs, q.outside.bindError ≠ some OsError.addressInUse) (f : Fleet ω)
    (hfixed : f.picksPort = false) (hfree : f.isTaken = false) :
    Everywhere (fun before q _ => HandsOver q (f.after before)) qs := by
  have hf : f.listeners = 0 := by simpa [Fleet.isTaken, hfixed] using hfree
  rintro before q later rfl
  obtain ⟨hbefore, hlater⟩ := List.forall_mem_append.mp hq
  exact handsOver_act (hlater q List.mem_cons_self) (listeners_after hf before hbefore)

def Fleet.sample : Fleet Unit where
  registry := {
    plans := [
      ⟨"first", { kind := .http, server := "198.51.100.1", port := 3128 }⟩,
      ⟨"second", { kind := .socks5, server := "198.51.100.2", port := 1080 }⟩]
    localProxy := .v4 ⟨127, 0, 0, 1⟩ 18080
    connectTimeout := 5 }
  outside := ()

/-- A request that no path leads through, though every tunnel can be connected. -/
def Errand.sample : Errand Unit where
  outside := {
    poll := fun _ => (false, ())
    probe := fun _ _ => (.ok (), ())
    attempt := fun _ _ _ => (.error ⟨.connection, "no route"⟩, [], ()) }
  order := { Order.sample with
    session := { Order.sample.session with capabilities := ["HTTP", "socks5"] } }

theorem handsOver_twoTunnels :
    (Errand.sample.act.events Fleet.sample).countP (Event.opens 0) = 1 ∧
      (Errand.sample.act.events Fleet.sample).countP (Event.opens 1) = 1 ∧
      Everywhere (fun before q _ => HandsOver q (Fleet.sample.after before))
        [Errand.sample, Errand.sample] := by
  have hfixed : Fleet.sample.picksPort = false := by decide +kernel
  have hfree : Fleet.sample.isTaken = false := by decide +kernel
  have halone : ∀ q ∈ [Errand.sample, Errand.sample],
      q.outside.bindError ≠ some OsError.addressInUse := by
    simp [Errand.sample]
  refine ⟨by decide +kernel, by decide +kernel, ?_⟩
  exact handsOver_errands [Errand.sample, Errand.sample] halone Fleet.sample hfixed hfree

end RouteCascade.Cascade
