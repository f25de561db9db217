import RouteCascade.Cascade.Collaborators

/-!
# Connections

A tunnel connected for one attempt. Whatever becomes of the attempt, the tunnel is disconnected and
given up: at the end of the attempt, when it is let go unused, or in the background when whoever waited
for it has left.

An abandoned step leaves work for later, since what its caller holds is given up first.
-/
namespace RouteCascade.Cascade

open Text

variable {σ τ α : Type}

/-- How a step with a connection ends. -/
inductive StepEnd (σ τ α : Type) where
  | returned (value : α)
  | panicked (text : String)
  /-- It was abandoned, and this is left to be done in the background. -/
  | abandoned (later : Act σ τ Unit)

/-- The end of a step once its caller has given up what it held, with the work that was left. -/
def StepEnd.settle (cleanup : Act σ τ Unit) : StepEnd σ τ α → Act σ τ (Ending α)
  | .returned a => do cleanup; pure (.returned a)
  | .panicked t => do cleanup; pure (.panicked t)
  | .abandoned later => do cleanup; later; pure .abandoned

namespace Connection

def nothing : Act σ τ Unit := pure ()

def handshakeFailure (name : String) : Failure :=
  ⟨.handshakeRequired, s!"{name} cannot connect without a handshake"⟩

/-- Connects a tunnel that needs no handshake. One that cannot be had is given up. -/
def acquire (c : Collaborators σ τ) (session : Session) (i : Instance τ) :
    Act σ τ (StepEnd σ τ (Except Failure Unit)) := do
  if ← c.askHandshake session i then
    c.discard i
    pure (.returned (.error (handshakeFailure (c.name i.tunnel))))
  else
    match ← c.bringUp session i with
    | .ok () => pure (.returned (.ok ()))
    | .error e => do
      c.discard i
      pure (.returned (.error e))
    | .panic t => do
      c.discard i
      pure (.panicked t)
    | .hang => do
      Act.abandon
      c.discard i
      pure (.abandoned nothing)

/-- Disconnects a tunnel and gives it up. Whether disconnecting worked does not matter. -/
def release (c : Collaborators σ τ) (i : Instance τ) : Act σ τ (StepEnd σ τ Unit) := do
  match ← c.takeDown i with
  | .ok () | .error _ => do
    c.discard i
    pure (.returned ())
  | .panic t => do
    c.discard i
    pure (.panicked t)
  | .hang => do
    Act.abandon
    c.discard i
    pure (.abandoned nothing)

/-- Disconnects a tunnel that nobody waits for. A tunnel whose disconnecting never ends is not given
up, and one that breaks down is. -/
def releaseInBackground (c : Collaborators σ τ) (i : Instance τ) : Act σ τ Unit := do
  match ← c.takeDown i with
  | .hang => pure ()
  | .ok () | .error _ | .panic _ => c.discard i

/-- Lets go of a tunnel: what is done at once, and what is left for later. Without a background it is
only given up. -/
def drop (c : Collaborators σ τ) (i : Instance τ) : Act σ τ (Act σ τ Unit) :=
  if c.background then pure (releaseInBackground c i)
  else do
    c.discard i
    pure nothing

/-- Releases a tunnel after its attempt, whose end is kept unless releasing has another. -/
def releaseAfter (c : Collaborators σ τ) (i : Instance τ) (attemptEnd : StepEnd σ τ α) :
    Act σ τ (StepEnd σ τ α) := do
  match ← release c i with
  | .returned () => pure attemptEnd
  | .panicked t => pure (.panicked t)
  | .abandoned later => pure (.abandoned later)

/-- Makes an attempt over a connected tunnel and releases it. -/
def run (c : Collaborators σ τ) (i : Instance τ) (attempt : Act σ τ (Reply α)) :
    Act σ τ (StepEnd σ τ (Except Failure α)) := do
  match ← attempt with
  | .ok a => releaseAfter c i (.returned (.ok a))
  | .error e => releaseAfter c i (.returned (.error e))
  | .panic t => releaseAfter c i (.panicked t)
  | .hang => do
    Act.abandon
    let later ← drop c i
    pure (.abandoned later)

end Connection

end RouteCascade.Cascade
