import RouteCascade.Cascade.Connection
import RouteCascade.Cascade.Selection

/-!
# Runs

One request, sent by the first path that works: over the tunnel that is up, if there is one; else
directly, on the configured port and on the standard one; and then over each tunnel of the catalog that
needs no handshake, one after the other, each connected for one attempt only. The stop signal is asked
before each path and once more when a tunnel has been connected.
-/
namespace RouteCascade.Cascade

open Text Net

variable {σ τ : Type}

/-- What to send, and where. -/
structure Order where
  session : Session
  parameters : RequestParameters
  /-- Tunnels of the catalog may be connected. -/
  allowTemporary : Bool := true

/-- What a run returns: an outcome, or what is wrong with its parameters. -/
abbrev Answer := Except ParameterFault Outcome

namespace Order

def directAttempt (o : Order) (port : Port) : Attempt τ :=
  ⟨o.session, port, o.parameters, false, .direct⟩

/-- An attempt over something that may lead through a local proxy. -/
def carriedAttempt (o : Order) (viaLocalProxy : Bool) (carrier : Carrier τ) : Attempt τ :=
  ⟨o.session, o.session.port, o.parameters, viaLocalProxy, carrier⟩

end Order

def done (o : Outcome) : Ending Answer := .returned (.ok o)

/-- What comes of the direct paths: the end of the run, or their failures. -/
inductive DirectEnd where
  | ended (ending : Ending Answer)
  | failed (failures : List FailedPath)

def tryDirect (c : Collaborators σ τ) (o : Order) (failures : List FailedPath) :
    List Port → Act σ τ DirectEnd
  | [] => pure (.failed failures)
  | port :: ports => do
    if ← c.askStop then pure (.ended (done .cancelled)) else
    match ← c.send (o.directAttempt port) with
    | .ok body => pure (.ended (done (.success body)))
    | .error e => tryDirect c o (failures ++ [⟨.direct port, e⟩]) ports
    | .panic t => pure (.ended (.panicked t))
    | .hang => do
      Act.abandon
      pure (.ended .abandoned)

/-- Tries tunnels, one after the other. Those that are not reached are given up at the end. -/
def tryTunnels (c : Collaborators σ τ) (o : Order) (failures : List FailedPath) :
    List (Instance τ) → Act σ τ (Ending Answer)
  | [] => pure (done (.failed (.exhausted failures)))
  | i :: rest => do
    if ← c.askStop then
      c.discardAll (i :: rest)
      pure (done .cancelled)
    else
      let path : Path := .temporary (c.name i.tunnel) (c.kind i.tunnel)
      match ← Connection.acquire c o.session i with
      | .returned (.error e) => tryTunnels c o (failures ++ [⟨path, e⟩]) rest
      | .returned (.ok ()) => do
        if ← c.askStop then
          let ended ← Connection.release c i
          StepEnd.settle (c.discardAll rest) (match ended with
            | .returned () => .returned (.ok .cancelled)
            | .panicked t => .panicked t
            | .abandoned later => .abandoned later)
        else
          let attempt := o.carriedAttempt (c.routesThroughLocalProxy i.tunnel) (.temporary i)
          match ← Connection.run c i (c.send attempt) with
          | .returned (.ok body) => StepEnd.settle (c.discardAll rest) (.returned (.ok (.success body)))
          | .returned (.error e) => tryTunnels c o (failures ++ [⟨path, e⟩]) rest
          | .panicked t => StepEnd.settle (c.discardAll rest) (.panicked t)
          | .abandoned later => StepEnd.settle (c.discardAll rest) (.abandoned later)
      | .panicked t => StepEnd.settle (c.discardAll rest) (.panicked t)
      | .abandoned later => StepEnd.settle (c.discardAll rest) (.abandoned later)

def tryCurrent (c : Collaborators σ τ) (o : Order) (current : τ) : Act σ τ (Ending Answer) := do
  match ← c.send (o.carriedAttempt (c.routesThroughLocalProxy current) (.current current)) with
  | .ok body => pure (done (.success body))
  | .error e => pure (done (.failed (.request e)))
  | .panic t => pure (.panicked t)
  | .hang => do
    Act.abandon
    pure .abandoned

/-- Tries the direct paths and then the tunnels of the catalog. -/
def tryAll (c : Collaborators σ τ) (o : Order) : Act σ τ (Ending Answer) := do
  match ← tryDirect c o [] o.session.directPorts with
  | .ended ending => pure ending
  | .failed failures =>
    match ← select c o.session with
    | [] => pure (done (.failed (.noEligible failures)))
    | candidates => tryTunnels c o failures candidates

def connected? (c : Collaborators σ τ) : Option τ → Act σ τ (Option τ)
  | none => pure none
  | some t => do
    if ← c.seeConnected t then pure (some t) else pure none

/-- Sends a request. The tunnel that is up, if there is one, is used and left as it is. -/
def run (c : Collaborators σ τ) (o : Order) (current : Option τ) : Act σ τ (Ending Answer) := do
  if ← c.askStop then pure (done .cancelled) else
  match o.parameters.fault? with
  | some e => pure (.returned (.error e))
  | none =>
    match ← connected? c current with
    | some t => tryCurrent c o t
    | none =>
      if o.allowTemporary then tryAll c o else pure (done (.failed .temporaryDisallowed))

end RouteCascade.Cascade
