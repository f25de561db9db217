import RouteCascade.Tunnel.LocalProxy
import RouteCascade.Tunnel.State

/-!
# Tunnels with a script

A tunnel whose gateway answers as laid down beforehand. What was asked of the server and what was
sent over the streams that it opened is kept until somebody looks at it, and a client may be kept
waiting while others are served.
-/
namespace RouteCascade.Tunnel

open Text Net Http

inductive Asked where
  | probe
  | dial (host : String) (port : Port)
  deriving DecidableEq, Repr

structure Script where
  kind : Kind := .socks5
  /-- The outcomes of dialing; after the last one, streams that end at once are opened. -/
  dials : List (Except Failure Stream) := []
  /-- The outcomes of probes; after the last one, the server is always found. -/
  probes : List (Except Failure Unit) := []
  /-- The failure with which nobody can listen. -/
  bindFailure : Option Failure := none
  /-- The failure with which no second listener can be had. -/
  secondFailure : Option Failure := none
  state : State := { }
  asked : List Asked := []
  relayed : List Bytes := []
  /-- What the client that is kept waiting has got since. -/
  held : Option Bytes := none

structure Exchange where
  received : Bytes
  asked : List Asked
  relayed : List Bytes
  ending : LocalProxy.ServeEnd

namespace Script

/-- A listener of its own, with no tunnel around it. -/
def listening (s : Script) : Script := { s with state := s.state.start.2 }

/-- What has been asked, looked at once. -/
def lookAsked (s : Script) : List Asked × Script := (s.asked, { s with asked := [] })

def serve (s : Script) (client : Client) : LocalProxy.Served × Script :=
  let next := s.dials.headD (.ok { })
  let served := LocalProxy.serve (fun _ _ => next.mapError .fault) client
  let dialed := served.dialed.map fun (host, port) => Asked.dial host port
  (served, { s with
    dials := if dialed.isEmpty then s.dials else s.dials.drop 1,
    asked := s.asked ++ dialed,
    relayed := s.relayed ++ (served.outgoing.map (·.sent)).toList })

/-- Serves a client that stops sending; none is served without a listener. -/
def request (s : Script) (pieces : List Bytes) : Option Exchange × Script :=
  if s.state.live.isEmpty then (none, s) else
  let (served, s) := s.serve ⟨pieces, true⟩
  (some ⟨served.received, s.asked, s.relayed, served.ending⟩, { s with asked := [], relayed := [] })

/-- Serves a client that keeps its side open, and gives the head of what it got. -/
def hold (s : Script) (pieces : List Bytes) : Option Bytes × Script :=
  if s.state.live.isEmpty then (none, s) else
  let (served, s) := s.serve ⟨pieces, false⟩
  let n := (endOf? served.received).getD served.received.length
  (some (served.received.take n), { s with held := some (served.received.drop n) })

/-- Gives the rest of what the client got that was kept waiting. -/
def release (s : Script) : Option Bytes × Script := (s.held, { s with held := none })

def bind (s : Script) : Except Failure Unit :=
  match s.bindFailure, s.secondFailure with
  | some e, _ => .error e
  | none, some e => if s.state.live.isEmpty then .ok () else .error e
  | none, none => .ok ()

def finish (s : Script) (call : Stage) : Except Failure Unit × Script :=
  let w : World := ⟨s.probes.headD (.ok ()), s.bind⟩
  let (state, last) := Stage.finish s.kind w Stage.maxSteps s.state call
  (last.result?.getD (.ok ()),
    if call.isProbing then { s with state, probes := s.probes.drop 1, asked := s.asked ++ [.probe] }
    else { s with state })

def started (s : Script) (session : Session) : Stage :=
  (Stage.step s.kind { } s.state (.connecting (s.kind.needsHandshake session))).2

def connect (s : Script) (session : Session) : Except Failure Unit × Script :=
  s.finish (s.started session)

/-- Connects the tunnel twice at a time: after the first step of both calls, one ends before the other
goes on. -/
def connectTwice (s : Script) (session : Session) :
    (Except Failure Unit × Except Failure Unit) × Script :=
  let call := s.started session
  let (first, s) := s.finish call
  let (second, s) := s.finish call
  ((first, second), s)

def disconnect (s : Script) : Except Failure Unit × Script := s.finish .disconnecting

def shutDown (s : Script) : Script := { s with state := { s.state with slot := none, live := [] } }

end Script

end RouteCascade.Tunnel
