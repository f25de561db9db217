import RouteCascade.Cascade.Event

/-!
# Collaborators

Those that a run talks to, as functions on a state of their own that no run looks into: the stop
signal, the client that sends requests, the catalog and its tunnels. An action of a run passes the
state on and gives its events with its result.
-/
namespace RouteCascade.Cascade

open Text

/-- Those that a run talks to. -/
structure Collaborators (σ τ : Type) where
  /-- The stop signal is up. -/
  poll : σ → Bool × σ
  attempt : Attempt τ → σ → Reply Bytes × σ
  /-- New tunnels, in the order of the catalog. -/
  enumerate : σ → List τ × σ
  requiresHandshake : Instance τ → Session → σ → Bool × σ
  connect : Instance τ → Session → σ → Reply Unit × σ
  disconnect : Instance τ → σ → Reply Unit × σ
  dispose : Instance τ → σ → σ
  name : τ → String
  kind : τ → Tunnel.Kind
  routesThroughLocalProxy : τ → Bool
  isConnected : τ → σ → Bool
  /-- There is a background in which abandoned tunnels are disconnected. -/
  background : Bool

/-- An action over the state of the collaborators, with its events. -/
def Act (σ τ α : Type) : Type := σ → α × List (Event τ) × σ

namespace Act

variable {σ τ α β : Type}

instance : Monad (Act σ τ) where
  pure a := fun s => (a, [], s)
  bind x f := fun s =>
    let (a, before, s) := x s
    let (b, after, s) := f a s
    (b, before ++ after, s)

def result (x : Act σ τ α) (s : σ) : α := (x s).1

def events (x : Act σ τ α) (s : σ) : List (Event τ) := (x s).2.1

def final (x : Act σ τ α) (s : σ) : σ := (x s).2.2

/-- A call: its answer makes the event. -/
def call (f : σ → α × σ) (event : α → Event τ) : Act σ τ α := fun s =>
  let (a, s) := f s
  (a, [event a], s)

/-- Whoever waited for the run gives it up. -/
def abandon : Act σ τ Unit := fun s => ((), [.abandon], s)

@[simp] theorem pure_apply (a : α) (s : σ) : (pure a : Act σ τ α) s = (a, [], s) := rfl

@[simp] theorem bind_apply (x : Act σ τ α) (f : α → Act σ τ β) (s : σ) :
    (x >>= f) s = ((f (x s).1 (x s).2.2).1, (x s).2.1 ++ (f (x s).1 (x s).2.2).2.1,
      (f (x s).1 (x s).2.2).2.2) := rfl

@[simp] theorem result_pure (a : α) (s : σ) : (pure a : Act σ τ α).result s = a := rfl
@[simp] theorem events_pure (a : α) (s : σ) : (pure a : Act σ τ α).events s = [] := rfl
@[simp] theorem final_pure (a : α) (s : σ) : (pure a : Act σ τ α).final s = s := rfl

@[simp] theorem result_bind (x : Act σ τ α) (f : α → Act σ τ β) (s : σ) :
    (x >>= f).result s = (f (x.result s)).result (x.final s) := rfl

@[simp] theorem events_bind (x : Act σ τ α) (f : α → Act σ τ β) (s : σ) :
    (x >>= f).events s = x.events s ++ (f (x.result s)).events (x.final s) := rfl

@[simp] theorem final_bind (x : Act σ τ α) (f : α → Act σ τ β) (s : σ) :
    (x >>= f).final s = (f (x.result s)).final (x.final s) := rfl

@[simp] theorem result_call (f : σ → α × σ) (e : α → Event τ) (s : σ) :
    (call f e).result s = (f s).1 := rfl

@[simp] theorem events_call (f : σ → α × σ) (e : α → Event τ) (s : σ) :
    (call f e).events s = [e (f s).1] := rfl

@[simp] theorem final_call (f : σ → α × σ) (e : α → Event τ) (s : σ) :
    (call f e).final s = (f s).2 := rfl

@[simp] theorem events_abandon (s : σ) : (abandon : Act σ τ Unit).events s = [.abandon] := rfl
@[simp] theorem final_abandon (s : σ) : (abandon : Act σ τ Unit).final s = s := rfl

end Act

namespace Collaborators

variable {σ τ : Type} (c : Collaborators σ τ)

def askStop : Act σ τ Bool := Act.call c.poll .poll

def send (a : Attempt τ) : Act σ τ (Reply Bytes) := Act.call (c.attempt a) (.attempt a)

def askCatalog : Act σ τ (List (Instance τ)) := fun s =>
  let (ts, s) := c.enumerate s
  (ts.zipIdx.map fun (t, n) => ⟨n, t⟩, [.enumerate], s)

def askHandshake (session : Session) (i : Instance τ) : Act σ τ Bool :=
  Act.call (c.requiresHandshake i session) (.handshake i)

def bringUp (session : Session) (i : Instance τ) : Act σ τ (Reply Unit) :=
  Act.call (c.connect i session) (.connect i)

def takeDown (i : Instance τ) : Act σ τ (Reply Unit) := Act.call (c.disconnect i) (.disconnect i)

def discard (i : Instance τ) : Act σ τ Unit := Act.call (fun s => ((), c.dispose i s)) fun _ => .dispose i

def discardAll : List (Instance τ) → Act σ τ Unit
  | [] => pure ()
  | i :: is => do discard c i; discardAll is

def seeConnected (t : τ) : Act σ τ Bool := fun s => (c.isConnected t s, [], s)

@[simp] theorem result_seeConnected (t : τ) (s : σ) : (c.seeConnected t).result s = c.isConnected t s := rfl
@[simp] theorem events_seeConnected (t : τ) (s : σ) : (c.seeConnected t).events s = [] := rfl
@[simp] theorem final_seeConnected (t : τ) (s : σ) : (c.seeConnected t).final s = s := rfl

/-- The tunnels that the catalog hands out in a state, in its order. -/
def handedOut (s : σ) : List (Instance τ) := (c.enumerate s).1.zipIdx.map fun (t, n) => ⟨n, t⟩

@[simp] theorem result_askCatalog (s : σ) : c.askCatalog.result s = c.handedOut s := rfl
@[simp] theorem events_askCatalog (s : σ) : c.askCatalog.events s = [.enumerate] := rfl
@[simp] theorem final_askCatalog (s : σ) : c.askCatalog.final s = (c.enumerate s).2 := rfl

@[simp] theorem events_discardAll (is : List (Instance τ)) (s : σ) :
    (c.discardAll is).events s = is.map .dispose := by
  induction is generalizing s with
  | nil => rfl
  | cons i is ih => simp [discardAll, discard, ih]

end Collaborators

end RouteCascade.Cascade
