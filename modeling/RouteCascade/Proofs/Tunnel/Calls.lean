import RouteCascade.Tunnel.State

/-!
# Calls one after another

What the calls to connect and disconnect a tunnel do to its gateway and its listeners, told by deeds:
a gateway is looked for, a listener is asked for, a listener is shut down. A call that is not disturbed
has five ways to connect a tunnel and two to disconnect it. Between calls the listener in the slot
is the only one that serves, and a log of the deeds so far gives the same number of them.
-/
namespace RouteCascade.Tunnel

open Text

/-- What a step does beyond the slot of its tunnel. -/
inductive Deed where
  | probe (found : Bool)
  /-- A listener is asked for, and this one is started. -/
  | bind (started : Option Listener)
  | shutDown (l : Listener)
  deriving DecidableEq, Repr

namespace Deed

def starts : Deed → Bool
  | bind (some _) => true
  | _ => false

def stops : Deed → Bool
  | shutDown _ => true
  | _ => false

end Deed

namespace Stage

def deed? (w : World) (s : State) : Stage → Option Deed
  | probing => some (.probe w.probe.isOk)
  | binding => some (.bind (if w.bind.isOk then some s.fresh else none))
  | discarding l | stopping l => some (.shutDown l)
  | connecting _ | storing _ | disconnecting | done _ => none

def deeds (kind : Kind) (w : World) : Nat → State → Stage → List Deed
  | 0, _, _ => []
  | n + 1, s, st =>
    (st.deed? w s).toList ++ deeds kind w n (st.step kind w s).1 (st.step kind w s).2

section
variable (kind : Kind) (w : World) (n : Nat) (s : State)

@[simp] theorem finish_done (r : Except Failure Unit) : finish kind w n s (done r) = (s, done r) := by
  induction n with
  | zero => rfl
  | succ n ih => exact ih

@[simp] theorem deeds_done (r : Except Failure Unit) : deeds kind w n s (done r) = [] := by
  induction n with
  | zero => rfl
  | succ n ih => exact ih

theorem finish_succ (st : Stage) :
    finish kind w (n + 1) s st = finish kind w n (st.step kind w s).1 (st.step kind w s).2 := rfl

theorem deeds_succ (st : Stage) :
    deeds kind w (n + 1) s st =
      (st.deed? w s).toList ++ deeds kind w n (st.step kind w s).1 (st.step kind w s).2 := rfl

end

/-- One step more changes nothing once a call has ended. -/
theorem finish_of_done {kind : Kind} {w : World} {n : Nat} {s : State} {st : Stage}
    {r : Except Failure Unit} (h : (finish kind w n s st).2 = done r) :
    finish kind w (n + 1) s st = finish kind w n s st := by
  induction n generalizing s st with
  | zero =>
      obtain rfl : st = done r := h
      rfl
  | succ n ih => exact ih h

/-- The first step of a call to connect asks nobody, and goes on to the gateway if at all. -/
theorem step_connecting (kind : Kind) (s : State) (handshake : Bool) :
    (∃ r, ∀ w, step kind w s (connecting handshake) = (s, done r)) ∨
      ∀ w, step kind w s (connecting handshake) = (s, probing) := by
  cases hs : s.isConnected with
  | true => exact .inl ⟨.ok (), fun w => by simp [step, hs]⟩
  | false =>
      cases handshake with
      | true => exact .inl ⟨.error (handshakeFailure kind), fun w => by simp [step, hs]⟩
      | false => exact .inr fun w => by simp [step, hs]

end Stage

/-- The server lists the capability of a kind, in whatever case. -/
def Kind.IsListed (kind : Kind) (session : Session) : Prop :=
  ∃ c ∈ session.capabilities, equalIgnoringCase c kind.capability = true

theorem Kind.needsHandshake_eq_false_iff {kind : Kind} {session : Session} :
    kind.needsHandshake session = false ↔ kind.IsListed session := by
  unfold needsHandshake Session.hasCapability IsListed
  rw [Bool.not_eq_false', List.any_eq_true]

/-- Connecting a tunnel, undisturbed: the state after it, its result and its deeds. -/
inductive ConnectExec (kind : Kind) (session : Session) (w : World) (s : State) :
    State → Except Failure Unit → List Deed → Prop
  | up : s.isConnected = true → ConnectExec kind session w s s (.ok ()) []
  | refused : s.isConnected = false → ¬ kind.IsListed session →
      ConnectExec kind session w s s (.error (handshakeFailure kind)) []
  | unreachable {e : Failure} : s.isConnected = false → kind.IsListed session →
      w.probe = .error e → ConnectExec kind session w s s (.error e) [.probe false]
  | unbound {e : Failure} : s.isConnected = false → kind.IsListed session →
      w.probe = .ok () → w.bind = .error e →
      ConnectExec kind session w s s (.error e) [.probe true, .bind none]
  | connected : s.isConnected = false → kind.IsListed session →
      w.probe = .ok () → w.bind = .ok () →
      ConnectExec kind session w s
        { slot := some s.fresh, live := s.fresh :: s.live, fresh := s.fresh + 1 } (.ok ())
        [.probe true, .bind (some s.fresh)]

/-- A call to connect a tunnel has come to its end after the most steps that a call can have. -/
theorem connect_exec (kind : Kind) (session : Session) (w : World) (s : State) :
    ∃ result, (connectAlone kind session w s).2 = .done result ∧
      ConnectExec kind session w s (connectAlone kind session w s).1 result
        (Stage.deeds kind w Stage.maxSteps s (.connecting (kind.needsHandshake session))) := by
  unfold connectAlone Stage.maxSteps
  simp only [Stage.finish_succ, Stage.deeds_succ]
  cases hs : s.isConnected with
  | true =>
      refine ⟨.ok (), ?_⟩
      simpa [Stage.step, Stage.deed?, hs] using ConnectExec.up hs
  | false =>
      have hslot : s.slot = none := by simpa [State.isConnected] using hs
      cases hn : kind.needsHandshake session with
      | true =>
          have hl : ¬ kind.IsListed session := by
            rw [← Kind.needsHandshake_eq_false_iff, hn]
            exact Bool.noConfusion
          refine ⟨.error (handshakeFailure kind), ?_⟩
          simpa [Stage.step, Stage.deed?, hs] using ConnectExec.refused hs hl
      | false =>
          have hl := Kind.needsHandshake_eq_false_iff.mp hn
          cases hp : w.probe with
          | error e =>
              refine ⟨.error e, ?_⟩
              simpa [Stage.step, Stage.deed?, hs, hp, Except.isOk, Except.toBool] using
                ConnectExec.unreachable hs hl hp
          | ok =>
              cases hb : w.bind with
              | error e =>
                  refine ⟨.error e, ?_⟩
                  simpa [Stage.step, Stage.deed?, hs, hp, hb, Except.isOk, Except.toBool] using
                    ConnectExec.unbound hs hl hp hb
              | ok =>
                  refine ⟨.ok (), ?_⟩
                  simpa [Stage.step, Stage.deed?, State.isConnected, hslot, hp, hb, Except.isOk,
                    Except.toBool, State.start] using ConnectExec.connected hs hl hp hb

inductive DisconnectExec (s : State) : State → List Deed → Prop
  | down : s.slot = none → DisconnectExec s s []
  | stopped {l : Listener} : s.slot = some l →
      DisconnectExec s ({ s with slot := none }.shutDown l) [.shutDown l]

theorem disconnect_exec (kind : Kind) (s : State) :
    (disconnectAlone kind s).2 = .done (.ok ()) ∧
      DisconnectExec s (disconnectAlone kind s).1
        (Stage.deeds kind { } Stage.maxSteps s .disconnecting) := by
  unfold disconnectAlone Stage.maxSteps
  simp only [Stage.finish_succ, Stage.deeds_succ]
  cases hs : s.slot with
  | none => simpa [Stage.step, Stage.deed?, hs] using DisconnectExec.down hs
  | some l => simpa [Stage.step, Stage.deed?, hs] using DisconnectExec.stopped hs

/-- A call that is not disturbed, with what the world says to it. -/
inductive Call where
  | connect (session : Session) (w : World)
  | disconnect

namespace Call

def make (kind : Kind) (s : State) : Call → State × Stage
  | connect session w => connectAlone kind session w s
  | disconnect => disconnectAlone kind s

def deeds (kind : Kind) (s : State) : Call → List Deed
  | connect session w =>
    Stage.deeds kind w Stage.maxSteps s (.connecting (kind.needsHandshake session))
  | disconnect => Stage.deeds kind { } Stage.maxSteps s .disconnecting

end Call

/-- The state after calls, one after another, and all their deeds. -/
def calls (kind : Kind) : State → List Call → State × List Deed
  | s, [] => (s, [])
  | s, c :: cs =>
    ((calls kind (c.make kind s).1 cs).1, c.deeds kind s ++ (calls kind (c.make kind s).1 cs).2)

/-- Nothing serves but the listener in the slot, and the deeds so far have left as many as serve. -/
structure Settled (s : State) (log : List Deed) : Prop where
  serves : s.live = s.slot.toList
  balanced : log.countP Deed.starts = log.countP Deed.stops + s.live.length

section Calls
variable {kind : Kind} {s t : State} {log ds : List Deed}

theorem ConnectExec.settled {session : Session} {w : World} {result : Except Failure Unit}
    (h : ConnectExec kind session w s t result ds) (hs : Settled s log) : Settled t (log ++ ds) := by
  obtain ⟨hserves, hbalanced⟩ := hs
  cases h with
  | connected hdown =>
      have hslot : s.slot = none := by simpa [State.isConnected] using hdown
      have hlive : s.live = [] := by rw [hserves, hslot]; rfl
      constructor
      · rw [hlive]
        rfl
      · simp [List.countP_append, Deed.starts, Deed.stops, hbalanced, hlive]
  | _ => exact ⟨hserves, by simpa [List.countP_append, Deed.starts, Deed.stops] using hbalanced⟩

theorem DisconnectExec.settled (h : DisconnectExec s t ds) (hs : Settled s log) :
    Settled t (log ++ ds) := by
  obtain ⟨hserves, hbalanced⟩ := hs
  cases h with
  | down => exact ⟨hserves, by simpa using hbalanced⟩
  | @stopped l hl =>
      have hlive : s.live = [l] := by rw [hserves, hl]; rfl
      constructor
      · simp [State.shutDown, hlive]
      · simp [List.countP_append, Deed.starts, Deed.stops, State.shutDown, hbalanced, hlive]

variable (kind) in
theorem Settled.make (hs : Settled s log) (c : Call) :
    Settled (c.make kind s).1 (log ++ c.deeds kind s) := by
  cases c with
  | connect session w =>
      obtain ⟨result, -, h⟩ := connect_exec kind session w s
      exact h.settled hs
  | disconnect => exact (disconnect_exec kind s).2.settled hs

variable (kind) in
theorem Settled.calls (hs : Settled s log) (cs : List Call) :
    Settled (calls kind s cs).1 (log ++ (calls kind s cs).2) := by
  induction cs generalizing s log with
  | nil => simpa [Tunnel.calls] using hs
  | cons c cs ih =>
      have h := ih (hs.make kind c)
      rwa [List.append_assoc] at h

/-- A call to connect a tunnel that fails has found it down, and leaves it so. -/
theorem ConnectExec.down_of_error {session : Session} {w : World} {e : Failure}
    (h : ConnectExec kind session w s t (.error e) ds) : t = s ∧ s.isConnected = false := by
  cases h with
  | refused hdown | unreachable hdown | unbound hdown => exact ⟨rfl, hdown⟩

theorem DisconnectExec.slot_eq_none (h : DisconnectExec s t ds) : t.slot = none := by
  cases h with
  | down h => exact h
  | stopped => rfl

/-- If nothing served but the listener in the slot, nothing serves any more. -/
theorem DisconnectExec.silent (h : DisconnectExec s t ds) (hs : ∀ l ∈ s.live, s.slot = some l) :
    t.live = [] := by
  rw [List.eq_nil_iff_forall_not_mem]
  intro l hl
  cases h with
  | down hnone => exact nomatch hnone.symm.trans (hs l hl)
  | @stopped m hm =>
      obtain ⟨hl, hne⟩ : l ∈ s.live ∧ l ≠ m := by simpa [State.shutDown] using hl
      exact hne (Option.some.inj ((hs l hl).symm.trans hm))

end Calls

theorem dropped_eq_disconnectAlone (kind : Kind) (s : State) :
    s.dropped = (disconnectAlone kind s).1 := by
  obtain ⟨ds, h⟩ : ∃ ds, DisconnectExec s (disconnectAlone kind s).1 ds := ⟨_, (disconnect_exec kind s).2⟩
  unfold State.dropped
  generalize (disconnectAlone kind s).1 = t at h ⊢
  cases h with
  | down hs => simp only [hs]
  | stopped hs =>
      simp only [hs]
      rfl

/-- How the next call on a tunnel turns out. -/
structure CallLaws (kind : Kind) (s : State) : Prop where
  connects : ∀ session w, ∃ result, (connectAlone kind session w s).2 = .done result ∧
    ConnectExec kind session w s (connectAlone kind session w s).1 result
      ((Call.connect session w).deeds kind s)
  /-- After a failure nothing serves. -/
  fails : ∀ session w e, (connectAlone kind session w s).2 = .done (.error e) →
    (connectAlone kind session w s).1.isConnected = false ∧ (connectAlone kind session w s).1.live = []
  disconnects : (disconnectAlone kind s).2 = .done (.ok ()) ∧
    (disconnectAlone kind s).1.isConnected = false ∧ (disconnectAlone kind s).1.live = []
  /-- Disconnecting the tunnel once more does nothing. -/
  again : disconnectAlone kind (disconnectAlone kind s).1 = ((disconnectAlone kind s).1, .done (.ok ())) ∧
    Call.disconnect.deeds kind (disconnectAlone kind s).1 = []

theorem Settled.callLaws {kind : Kind} {s : State} {log : List Deed} (hs : Settled s log) :
    CallLaws kind s where
  connects := fun session w => connect_exec kind session w s
  fails := by
    intro session w e he
    obtain ⟨result, hr, h⟩ := connect_exec kind session w s
    obtain rfl : result = .error e := by
      rw [hr] at he
      exact Stage.done.inj he
    obtain ⟨ht, hdown⟩ := h.down_of_error
    have hslot : s.slot = none := by simpa [State.isConnected] using hdown
    rw [ht]
    refine ⟨hdown, ?_⟩
    rw [hs.serves, hslot]
    rfl
  disconnects := by
    obtain ⟨hr, h⟩ := disconnect_exec kind s
    have hslot := h.slot_eq_none
    have hserves := (h.settled hs).serves
    refine ⟨hr, ?_, ?_⟩
    · rw [State.isConnected, hslot]
      rfl
    · rw [hserves, hslot]
      rfl
  again := by
    have hslot := (disconnect_exec kind s).2.slot_eq_none
    generalize (disconnectAlone kind s).1 = t at hslot
    obtain ⟨hr, h⟩ := disconnect_exec kind t
    unfold Call.deeds
    generalize hd : Stage.deeds kind { } Stage.maxSteps t .disconnecting = ds at h
    generalize ht : disconnectAlone kind t = p at h hr
    obtain ⟨u, st⟩ := p
    cases h with
    | down => exact ⟨by rw [← hr], rfl⟩
    | stopped hl => rw [hslot] at hl; cases hl

/-- Whatever calls were made, a tunnel is up if and only if one listener of it serves, and otherwise none
does. -/
theorem settles_calls (kind : Kind) (cs : List Call) :
    ((calls kind { } cs).1.isConnected = true ↔ (calls kind { } cs).1.live.length = 1) ∧
      ((calls kind { } cs).1.isConnected = false ↔ (calls kind { } cs).1.live = []) ∧
      Settled (calls kind { } cs).1 (calls kind { } cs).2 ∧ CallLaws kind (calls kind { } cs).1 := by
  have hnew : Settled { } [] := ⟨rfl, rfl⟩
  have hs := hnew.calls kind cs
  rw [List.nil_append] at hs
  refine ⟨?_, ?_, hs, hs.callLaws⟩
  · rw [hs.serves, State.isConnected]
    cases (calls kind { } cs).1.slot <;> simp
  · rw [hs.serves, State.isConnected]
    cases (calls kind { } cs).1.slot <;> simp

end RouteCascade.Tunnel
