import RouteCascade.Cascade.Outcome
import RouteCascade.Request.Parameters
import RouteCascade.Session

/-!
# What happens during a run

A run talks to others: it asks whether to stop, sends attempts, asks the catalog for tunnels, and
connects and disconnects them. Each of these calls is an event, kept with what came of it, and so are
the giving up of a tunnel and the abandoning of the run itself.
-/
namespace RouteCascade.Cascade

open Text Net

/-- What a call comes to. -/
inductive Reply (α : Type) where
  | ok (value : α)
  | error (failure : Failure)
  /-- The call breaks down. -/
  | panic (text : String)
  /-- The call never ends. -/
  | hang
  deriving DecidableEq, Repr

/-- A tunnel handed out by a catalog, numbered by its place there. -/
structure Instance (τ : Type) where
  number : Nat
  tunnel : τ
  deriving DecidableEq, Repr

inductive Carrier (τ : Type) where
  | direct
  | current (tunnel : τ)
  | temporary (i : Instance τ)
  deriving DecidableEq, Repr

structure Attempt (τ : Type) where
  session : Session
  port : Port
  parameters : RequestParameters
  viaLocalProxy : Bool
  carrier : Carrier τ
  deriving DecidableEq

inductive Event (τ : Type) where
  | poll (answer : Bool)
  | attempt (attempt : Attempt τ) (reply : Reply Bytes)
  | enumerate
  | handshake (i : Instance τ) (answer : Bool)
  | connect (i : Instance τ) (reply : Reply Unit)
  | disconnect (i : Instance τ) (reply : Reply Unit)
  /-- A tunnel was given up for good. -/
  | dispose (i : Instance τ)
  /-- Whoever waited for the run gave it up. -/
  | abandon
  deriving DecidableEq

/-- How a run ends. -/
inductive Ending (α : Type) where
  | returned (value : α)
  | panicked (text : String)
  | abandoned
  deriving DecidableEq, Repr

end RouteCascade.Cascade
