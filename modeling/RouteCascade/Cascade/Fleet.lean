import RouteCascade.Cascade.Collaborators
import RouteCascade.Log
import RouteCascade.Tunnel.LocalProxy
import RouteCascade.Tunnel.Registry

/-!
# Fleets

The tunnels of a registry as the collaborators of a run. All of them listen at one local address, which
is taken as long as one of their listeners serves. What gateways and the server itself answer
comes from outside.
-/
namespace RouteCascade.Cascade

open Text Net Log Tunnel

/-- What answers from outside; any question may change what comes next. -/
structure Outside (ω : Type) where
  /-- The stop signal is up. -/
  poll : ω → Bool × ω
  /-- A gateway is looked for. -/
  probe : Gateway → ω → Except Failure Unit × ω
  /-- An attempt is sent, with the tunnel that listens at the local address; it may leave lines. -/
  attempt : Attempt Plan → Option Plan → ω → Except Failure Bytes × List Line × ω
  /-- The error of the system with which nobody can listen at the local address. -/
  bindError : Option Int := none

/-- The tunnels of a registry and what is outside. -/
structure Fleet (ω : Type) where
  registry : Registry
  /-- The tunnel that was brought up beforehand. -/
  current : Option Relay := none
  /-- The tunnels last handed out, by number. -/
  handedOut : List Relay := []
  /-- The listeners of tunnels handed out before those. -/
  earlier : Nat := 0
  outside : ω
  /-- The lines of each call so far. -/
  notes : List (List Line) := []

namespace Fleet

variable {ω : Type}

def liveCount (ts : List Relay) : Nat := ts.foldl (fun n t => n + t.state.live.length) 0

/-- The number of listeners that serve. -/
def listeners (f : Fleet ω) : Nat := f.earlier + liveCount (f.current.toList ++ f.handedOut)

/-- The system gives every listener a port of its own. -/
def picksPort (f : Fleet ω) : Bool := f.registry.localProxy.port == 0

/-- The local address is taken. -/
def isTaken (f : Fleet ω) : Bool := !f.picksPort && f.listeners != 0

/-- The tunnel that listens at the local address. -/
def listening? (f : Fleet ω) : Option Plan :=
  ((f.current.toList ++ f.handedOut).find? fun t => !t.state.live.isEmpty).map (·.plan)

def address (f : Fleet ω) : String := f.registry.localProxy.text

def bind (w : Outside ω) (f : Fleet ω) : Except Failure Unit :=
  match w.bindError with
  | some e => .error (LocalProxy.bindFailure f.address e)
  | none =>
    if f.isTaken then .error (LocalProxy.bindFailure f.address OsError.addressInUse) else .ok ()

def connectLines (f : Fleet ω) (p : Plan) (bound : Except Failure Unit) (result : Except Failure Unit) :
    List Line :=
  let probing : List Line := [⟨.debug, s!"[{p.name}] Probing upstream {p.gateway.address}"⟩]
  match result, bound with
  | .ok (), .ok () =>
    probing ++ [⟨.info, s!"Local proxy listening on {f.address}"⟩,
      ⟨.info, s!"[{p.name}] {p.gateway.kind.text} tunnel connected via {p.gateway.address}"⟩]
  | _, _ => probing

def disconnectLines (f : Fleet ω) (t : Relay) : List Line :=
  if t.state.isConnected then
    [⟨.info, s!"Local proxy on {f.address} stopped"⟩,
      ⟨.info, s!"[{t.plan.name}] {t.plan.gateway.kind.text} tunnel disconnected"⟩]
  else []

/-- Connects a tunnel: the result, the tunnel after that, the lines, and what is outside then. -/
def connectRelay (w : Outside ω) (session : Session) (f : Fleet ω) (t : Relay) :
    Except Failure Unit × Relay × List Line × ω :=
  let kind := t.plan.gateway.kind
  let ended (last : Stage) : Except Failure Unit := last.result?.getD (.ok ())
  match Stage.step kind { } t.state (.connecting (t.needsHandshake session)) with
  | (s, .probing) =>
    let (probe, outside) := w.probe t.plan.gateway f.outside
    let (s, last) := Stage.finish kind ⟨probe, f.bind w⟩ Stage.maxSteps s .probing
    (ended last, { t with state := s }, f.connectLines t.plan (f.bind w) (ended last), outside)
  | (s, last) => (ended last, { t with state := s }, [], f.outside)

def disconnectRelay (t : Relay) : Relay :=
  { t with state := (disconnectAlone t.plan.gateway.kind t.state).1 }

/-- The failure that there is no tunnel of a number. A run asks only for tunnels that it was handed. -/
def noTunnel (number : Nat) : Failure := ⟨.connection, s!"there is no tunnel {number}"⟩

def connect (w : Outside ω) (session : Session) (number : Nat) (f : Fleet ω) :
    Except Failure Unit × Fleet ω :=
  match f.handedOut[number]? with
  | none => (.error (noTunnel number), f)
  | some t =>
    let (result, t, lines, outside) := f.connectRelay w session t
    (result, { f with handedOut := f.handedOut.set number t, outside, notes := f.notes ++ [lines] })

def disconnect (number : Nat) (f : Fleet ω) : Except Failure Unit × Fleet ω :=
  match f.handedOut[number]? with
  | none => (.error (noTunnel number), f)
  | some t =>
    (.ok (), { f with
      handedOut := f.handedOut.set number (disconnectRelay t),
      notes := f.notes ++ [f.disconnectLines t] })

def discard (number : Nat) (f : Fleet ω) : Fleet ω :=
  match f.handedOut[number]? with
  | none => f
  | some t => { f with handedOut := f.handedOut.set number { t with state := t.state.dropped } }

def handOut (f : Fleet ω) : Fleet ω :=
  { f with
    handedOut := f.registry.all,
    earlier := f.earlier + liveCount f.handedOut }

/-- Brings up a tunnel before a run: the result and its lines. -/
def bringUp (w : Outside ω) (session : Session) (t : Relay) (f : Fleet ω) :
    Except Failure Unit × List Line × Fleet ω :=
  let (result, t, lines, outside) := f.connectRelay w session t
  (result, lines, { f with current := some t, outside })

/-- Takes down the tunnel that was brought up before a run, if it is up: which one that was, and the lines
on it. -/
def takeDown (f : Fleet ω) : Option Plan × List Line × Fleet ω :=
  match f.current with
  | none => (none, [], f)
  | some t =>
    if t.state.isConnected then
      (some t.plan, f.disconnectLines t, { f with current := some (disconnectRelay t) })
    else (none, [], f)

def isUp (f : Fleet ω) : Bool := f.current.any fun t => t.state.isConnected

def replyOf {α : Type} : Except Failure α → Reply α
  | .ok a => .ok a
  | .error e => .error e

/-- The tunnels and what is outside as the collaborators of a run. -/
def collaborators (w : Outside ω) : Collaborators (Fleet ω) Plan where
  poll f := let (stop, outside) := w.poll f.outside; (stop, { f with outside })
  attempt a f :=
    let (result, lines, outside) := w.attempt a f.listening? f.outside
    (replyOf result, { f with outside, notes := f.notes ++ [lines] })
  enumerate f := (f.registry.plans, f.handOut)
  requiresHandshake i session f := (i.tunnel.gateway.kind.needsHandshake session, f)
  connect i session f := let (result, f) := f.connect w session i.number; (replyOf result, f)
  disconnect i f := let (result, f) := f.disconnect i.number; (replyOf result, f)
  dispose i f := f.discard i.number
  name p := p.name
  kind p := p.gateway.kind
  routesThroughLocalProxy _ := true
  isConnected _ f := f.isUp
  background := true

end Fleet

end RouteCascade.Cascade
