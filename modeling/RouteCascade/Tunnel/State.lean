import RouteCascade.Session
import RouteCascade.Tunnel.Kind

/-!
# Tunnels over time

A tunnel is up while a listener of its own is in its slot. Calls to connect and disconnect it go in
steps, between which other calls may take steps of theirs: a call looks whether the tunnel is up, probes
the gateway, binds a listener, and puts it into the slot or, if another call was faster, shuts
it down again.
-/
namespace RouteCascade.Tunnel

abbrev Listener := Nat

structure State where
  /-- The listener in use. -/
  slot : Option Listener := none
  /-- The listeners that are serving. -/
  live : List Listener := []
  /-- The number of the next listener. -/
  fresh : Listener := 0
  deriving DecidableEq, Repr

namespace State

def isConnected (s : State) : Bool := s.slot.isSome

def start (s : State) : Listener × State :=
  (s.fresh, { s with live := s.fresh :: s.live, fresh := s.fresh + 1 })

def shutDown (s : State) (l : Listener) : State := { s with live := s.live.filter (· != l) }

/-- The tunnel is given up as it is: a listener that is still in its slot is shut down with it. -/
def dropped (s : State) : State :=
  match s.slot with
  | none => s
  | some l => { s.shutDown l with slot := none }

end State

/-- A kind of tunnels cannot be connected without a handshake if the server lacks its capability. -/
def Kind.needsHandshake (kind : Kind) (session : Session) : Bool :=
  !session.hasCapability kind.capability

def handshakeFailure (kind : Kind) : Failure :=
  ⟨.handshakeRequired, s!"server entry has no {kind.capability} capability"⟩

/-- Where a call stands. -/
inductive Stage where
  /-- About to connect; the flag tells that a handshake is needed. -/
  | connecting (needsHandshake : Bool)
  | probing
  | binding
  /-- About to put a listener into the slot. -/
  | storing (l : Listener)
  /-- About to shut down a listener that is not needed. -/
  | discarding (l : Listener)
  | disconnecting
  /-- About to shut down the listener that was in the slot. -/
  | stopping (l : Listener)
  | done (result : Except Failure Unit)

/-- What the world says to a step: how probing the gateway and binding an address turn out. -/
structure World where
  probe : Except Failure Unit := .ok ()
  bind : Except Failure Unit := .ok ()

namespace Stage

def step (kind : Kind) (w : World) (s : State) : Stage → State × Stage
  | connecting handshake =>
    if s.isConnected then (s, done (.ok ()))
    else if handshake then (s, done (.error (handshakeFailure kind)))
    else (s, probing)
  | probing =>
    match w.probe with
    | .ok () => (s, binding)
    | .error e => (s, done (.error e))
  | binding =>
    match w.bind with
    | .ok () => let (l, s) := s.start; (s, storing l)
    | .error e => (s, done (.error e))
  | storing l => if s.isConnected then (s, discarding l) else ({ s with slot := some l }, done (.ok ()))
  | discarding l => (s.shutDown l, done (.ok ()))
  | disconnecting =>
    match s.slot with
    | none => (s, done (.ok ()))
    | some l => ({ s with slot := none }, stopping l)
  | stopping l => (s.shutDown l, done (.ok ()))
  | done r => (s, done r)

def result? : Stage → Option (Except Failure Unit)
  | done r => some r
  | _ => none

def isProbing : Stage → Bool
  | probing => true
  | _ => false

def maxSteps : Nat := 5

/-- Takes a call to its end without letting another one in between. -/
def finish (kind : Kind) (w : World) : Nat → State → Stage → State × Stage
  | 0, s, st => (s, st)
  | n + 1, s, st => let (s, st) := st.step kind w s; finish kind w n s st

end Stage

def connectAlone (kind : Kind) (session : Session) (w : World) (s : State) : State × Stage :=
  Stage.finish kind w Stage.maxSteps s (.connecting (kind.needsHandshake session))

def disconnectAlone (kind : Kind) (s : State) : State × Stage :=
  Stage.finish kind { } Stage.maxSteps s .disconnecting

end RouteCascade.Tunnel
