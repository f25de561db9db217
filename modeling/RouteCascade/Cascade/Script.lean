import RouteCascade.Cascade.Slots

/-!
# Collaborators with a script

Collaborators whose every reply is laid down beforehand. A reply may raise the stop signal first, and
the signal may be set to rise at a certain question. A client that has run out of replies finds nobody
at the port.
-/
namespace RouteCascade.Cascade

open Text

/-- A reply laid down beforehand. -/
structure Cue (α : Type) where
  reply : Reply α
  raisesStop : Bool := false

/-- A tunnel with its replies. Of the answers on handshakes, the last one is given again and again. -/
structure ScriptedTunnel where
  name : String
  kind : Tunnel.Kind
  isConnected : Bool := false
  routes : Bool := true
  handshakes : List Bool := [false]
  connect : Cue Unit := ⟨.ok (), false⟩
  disconnect : Cue Unit := ⟨.ok (), false⟩

structure Script where
  catalog : List ScriptedTunnel := []
  attempts : List (Cue Bytes) := []
  stopped : Bool := false
  /-- The number of the question at which the signal rises, counted from one. -/
  stopAtPoll : Option Nat := none
  polls : Nat := 0
  /-- The numbers of the tunnels that have been asked for handshakes. -/
  asked : List Nat := []

namespace Script

def play {α : Type} (s : Script) (cue : Cue α) : Reply α × Script :=
  (cue.reply, { s with stopped := s.stopped || cue.raisesStop })

/-- The answer to the next question for a handshake. -/
def handshakeAnswer (s : Script) (i : Instance ScriptedTunnel) : Bool :=
  let answers := i.tunnel.handshakes
  (answers[min (s.asked.count i.number) (answers.length - 1)]?).getD false

/-- The reply of a client that has run out of replies. -/
def unreachable (a : Attempt ScriptedTunnel) : Cue Bytes :=
  ⟨.error ⟨.connection, s!"port {a.port} unreachable"⟩, false⟩

def collaborators (background : Bool) : Collaborators Script ScriptedTunnel where
  poll s :=
    let polls := s.polls + 1
    let stopped := s.stopped || s.stopAtPoll == some polls
    (stopped, { s with polls, stopped })
  attempt a s :=
    { s with attempts := s.attempts.drop 1 }.play (s.attempts.headD (unreachable a))
  enumerate s := (s.catalog, { s with asked := [] })
  requiresHandshake i _ s := (s.handshakeAnswer i, { s with asked := i.number :: s.asked })
  connect i _ s := s.play i.tunnel.connect
  disconnect i s := s.play i.tunnel.disconnect
  dispose _ s := s
  name t := t.name
  kind t := t.kind
  routesThroughLocalProxy t := t.routes
  isConnected t _ := t.isConnected
  background := background

/-- An attempt with its reply at hand. -/
def playAttempt (a : Attempt ScriptedTunnel) (cue : Cue Bytes) : Act Script ScriptedTunnel (Reply Bytes) :=
  Act.call (fun s => s.play cue) (.attempt a)

end Script

end RouteCascade.Cascade
