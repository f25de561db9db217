import RouteCascade.Proofs.Cascade.Handover
import RouteCascade.Proofs.Tunnel.Interleaving
import RouteCascade.Proofs.Tunnel.Misspoken

/-!
# Failures to establish a path

What fails before there is a path is told apart from what an endpoint refuses once there is one. A tunnel that
is not brought up is always a failure of the first sort. A gateway that is asked for a target may also not
answer in its protocol, and that alone counts as a failure of the second sort.
-/
namespace RouteCascade

open Text Net Tunnel

namespace Tunnel

/-- What the world can say to the calls on a tunnel: whether a gateway is reached, and whether there is
somebody else at an address. -/
structure World.Of (g : Gateway) (address : String) (w : World) : Prop where
  probe : ∃ reach, w.probe = g.probe reach
  bind : w.bind = .ok () ∨ ∃ n, w.bind = .error (LocalProxy.bindFailure address n)

section Calls
variable {g : Gateway} {address : String} {w : World} {kind : Kind} {f : Failure}

theorem isConnectionFailure_reachFault (e : ReachFault) : (e.failure address).isConnectionFailure = true := by
  cases e <;> rfl

theorem isConnectionFailure_probe {reach : Except ReachFault Stream} (h : g.probe reach = .error f) :
    f.isConnectionFailure = true := by
  cases reach with
  | ok => cases h
  | error e =>
      cases h
      exact isConnectionFailure_reachFault e

theorem World.Of.isConnectionFailure_of_probe (hw : w.Of g address) (h : w.probe = .error f) :
    f.isConnectionFailure = true := by
  obtain ⟨reach, hreach⟩ := hw.probe
  exact isConnectionFailure_probe (hreach.symm.trans h)

theorem World.Of.isConnectionFailure_of_bind (hw : w.Of g address) (h : w.bind = .error f) :
    f.isConnectionFailure = true := by
  rcases hw.bind with hok | ⟨n, hn⟩
  · rw [hok] at h
    cases h
  · rw [hn] at h
    cases h
    rfl

theorem ConnectExec.isConnectionFailure {session : Session} {s t : State} {ds : List Deed}
    (hw : w.Of g address) (h : ConnectExec kind session w s t (.error f) ds) :
    f.isConnectionFailure = true := by
  cases h with
  | refused => rfl
  | unreachable _ _ hprobe => exact hw.isConnectionFailure_of_probe hprobe
  | unbound _ _ _ hbind => exact hw.isConnectionFailure_of_bind hbind

/-- If a call has failed, it was for want of a path. -/
def Stage.Sorted (st : Stage) : Prop := ∀ f, st = .done (.error f) → f.isConnectionFailure = true

theorem Stage.sorted_error (h : f.isConnectionFailure = true) : Sorted (.done (.error f)) := by
  rintro _ ⟨rfl⟩
  exact h

theorem Stage.Sorted.step {st : Stage} (h : st.Sorted) (hw : w.Of g address) (s : State) :
    (st.step kind w s).2.Sorted := by
  cases st with
  | connecting handshake =>
      cases hs : s.isConnected with
      | true => simp [Stage.step, Stage.Sorted, hs]
      | false =>
          cases handshake with
          | true => simpa [Stage.step, hs] using sorted_error rfl
          | false => simp [Stage.step, Stage.Sorted, hs]
  | probing =>
      cases hp : w.probe with
      | ok => simp [Stage.step, Stage.Sorted, hp]
      | error e => simpa [Stage.step, hp] using sorted_error (hw.isConnectionFailure_of_probe hp)
  | binding =>
      cases hb : w.bind with
      | ok => simp [Stage.step, Stage.Sorted, hb]
      | error e => simpa [Stage.step, hb] using sorted_error (hw.isConnectionFailure_of_bind hb)
  | storing l => cases hs : s.isConnected <;> simp [Stage.step, Stage.Sorted, hs]
  | disconnecting => cases hs : s.slot <;> simp [Stage.step, Stage.Sorted, hs]
  | discarding l | stopping l => simp [Stage.step, Stage.Sorted]
  | done r => exact h

namespace Traffic

theorem sorted_take {t : Traffic} (h : ∀ st ∈ t.calls, st.Sorted) {u : Turn}
    (hu : ∀ n w, u = .step n w → w.Of g address) : ∀ st ∈ (t.take kind u).calls, st.Sorted := by
  cases u with
  | connect session =>
      refine List.forall_mem_append.mpr ⟨h, List.forall_mem_singleton.mpr nofun⟩
  | disconnect =>
      refine List.forall_mem_append.mpr ⟨h, List.forall_mem_singleton.mpr nofun⟩
  | step n w =>
      cases hst : t.calls[n]? with
      | none =>
          rw [take_step_of_none hst]
          exact h
      | some st =>
          rw [take_step hst]
          intro st' hst'
          rcases List.mem_or_eq_of_mem_set hst' with hmem | rfl
          · exact h st' hmem
          · exact (h st (List.mem_of_getElem? hst)).step (hu n w rfl) t.state

/-- However the calls on a tunnel come in each other's way, those that fail do so for want of a path. -/
theorem sorted_run {t : Traffic} (h : ∀ st ∈ t.calls, st.Sorted) {turns : List Turn}
    (hturns : ∀ n w, .step n w ∈ turns → w.Of g address) : ∀ st ∈ (t.run kind turns).calls, st.Sorted := by
  induction turns generalizing t with
  | nil => exact h
  | cons u us ih =>
      have hfirst : ∀ st ∈ (t.take kind u).calls, st.Sorted :=
        sorted_take h fun n w hu => hturns n w (hu ▸ List.mem_cons_self)
      exact ih hfirst fun n w hmem => hturns n w (List.mem_cons_of_mem u hmem)

end Traffic

end Calls

end Tunnel

namespace Cascade

variable {ω σ τ : Type}

/-- Gateways are looked for by opening streams to them. -/
def Outside.probing (w : Outside ω) (reach : Gateway → ω → Except ReachFault Stream × ω) : Outside ω :=
  { w with probe := fun g x => (g.probe (reach g x).1, (reach g x).2) }

theorem Connection.eq_of_acquire {c : Collaborators σ τ} {session : Session} {i : Instance τ} {s : σ}
    {f : Failure} (h : (acquire c session i).result s = .returned (.error f)) :
    f = handshakeFailure (c.name i.tunnel) ∨
      (c.connect i session (c.requiresHandshake i session s).2).1 = .error f := by
  cases hh : (c.requiresHandshake i session s).1 with
  | true =>
      simp only [acquire, Collaborators.askHandshake, Act.result_bind, Act.result_call, hh] at h
      cases h
      exact .inl rfl
  | false =>
      simp only [acquire, Collaborators.askHandshake, Collaborators.bringUp, Act.result_bind,
        Act.result_call, Act.final_call, hh, Bool.false_eq_true, if_false] at h
      cases hc : (c.connect i session (c.requiresHandshake i session s).2).1 with
      | ok a =>
          rw [hc] at h
          cases h
      | error e =>
          rw [hc] at h
          cases h
          exact .inr rfl
      | panic text =>
          rw [hc] at h
          cases h
      | hang =>
          rw [hc] at h
          cases h

namespace Fleet
variable (w : Outside ω) (reach : Gateway → ω → Except ReachFault Stream × ω)

theorem of_worldFor (fl : Fleet ω) (t : Relay) :
    (fl.worldFor (w.probing reach) t).Of t.plan.gateway fl.address := by
  refine ⟨⟨(reach t.plan.gateway fl.outside).1, rfl⟩, ?_⟩
  change fl.bind (w.probing reach) = .ok () ∨ ∃ n, fl.bind (w.probing reach) = .error _
  unfold bind
  split
  · exact .inr ⟨_, rfl⟩
  split
  · exact .inr ⟨_, rfl⟩
  · exact .inl rfl

/-- A tunnel that is not acquired is always a failure to establish a path. -/
theorem isConnectionFailure_acquire {session : Session} {i : Instance Plan} {fl : Fleet ω} {f : Failure}
    (h : (Connection.acquire (collaborators (w.probing reach)) session i).result fl = .returned (.error f)) :
    f.isConnectionFailure = true := by
  rcases Connection.eq_of_acquire h with rfl | hconnect
  · rfl
  · have herror : (fl.connect (w.probing reach) session i.number).1 = .error f :=
      eq_error_of_replyOf hconnect
    unfold connect at herror
    split at herror
    · cases herror
      rfl
    · rename_i t _
      obtain ⟨ds, hexec⟩ := fl.connectRelay_exec (w.probing reach) session t
      change (fl.connectRelay (w.probing reach) session t).1 = .error f at herror
      rw [herror] at hexec
      exact hexec.isConnectionFailure (of_worldFor w reach fl t)

end Fleet

/-- How the failures to establish a path are sorted: to a host and port over a gateway, and of the tunnels
of a registry. -/
structure PathFailures (g : Gateway) (host : String) (port : Port) (w : Outside ω)
    (reach : Gateway → ω → Except ReachFault Stream × ω) : Prop where
  /-- It counts what was read of the gateway's answer when it failed. -/
  asked : ∀ authorization s f,
    (((Tunnel.connect host port authorization).mapFault ConnectFault.failure).runOn s).1 = .error (.fault f) →
    ∃ c, s.incoming = c ++
      (((Tunnel.connect host port authorization).mapFault ConnectFault.failure).runOn s).2.incoming ∧
      Gateway.Sorted .http c f
  dialed : ∀ s f, (g.dial (.ok s) host port).1 = .error (.fault f) →
    ∃ s' c, (g.dial (.ok s) host port).2 = some s' ∧ s.incoming = c ++ s'.incoming ∧
      Gateway.Sorted g.kind c f
  unreached : ∀ e f, (g.dial (.error e) host port).1 = .error (.fault f) → f.isConnectionFailure = true
  /-- Calls to connect a tunnel, in whatever order they take their steps. -/
  connected : ∀ address turns, (∀ n v, .step n v ∈ turns → v.Of g address) →
    ∀ f, .done (.error f) ∈ (Traffic.run g.kind { } turns).calls → f.isConnectionFailure = true
  acquired : ∀ session i fl f,
    (Connection.acquire (Fleet.collaborators (w.probing reach)) session i).result fl =
      .returned (.error f) → f.isConnectionFailure = true

/-- All failures to establish a path are sorted as such, but for a gateway that does not answer in its
protocol. -/
theorem pathFailures_sorted (g : Gateway) (host : String) (port : Port) (w : Outside ω)
    (reach : Gateway → ω → Except ReachFault Stream × ω) : PathFailures g host port w reach where
  asked authorization s f hf :=
    Gateway.sorted_of_reads (Connect.reads_connect host port authorization)
      Connect.sorted_failure hf
  dialed s f hf := by
    obtain ⟨c, hin, hc⟩ := g.sorted_talk host port hf
    exact ⟨_, c, rfl, hin, hc⟩
  unreached e f hf := by
    cases hf
    exact isConnectionFailure_reachFault e
  connected address turns hturns f hf := by
    have hnone : ∀ st ∈ Traffic.calls { }, st.Sorted := nofun
    exact Traffic.sorted_run hnone hturns _ hf f rfl
  acquired _ _ _ _ hf := Fleet.isConnectionFailure_acquire w reach hf

/-- A proxy that answers with something else than HTTP, and one that speaks another version of SOCKS. -/
theorem not_connectionFailure_garbage :
    let e : Failure := ⟨.protocol, "Malformed CONNECT response: invalid HTTP version"⟩
    let e' : Failure := ⟨.protocol, "Invalid SOCKS5 version"⟩
    let g : Gateway := ⟨.socks5, "gateway.example", 1080, none, none⟩
    (((Tunnel.connect "a" 1 none).mapFault ConnectFault.failure).runOn
        { incoming := bytesOf "garbage\r\n\r\n" }).1 = .error (.fault e) ∧ e.isConnectionFailure = false ∧
      (g.dial (.ok { incoming := [4, 0] }) "a" 1).1 = .error (.fault e') ∧
      e'.isConnectionFailure = false := by
  decide +kernel

end Cascade

end RouteCascade
