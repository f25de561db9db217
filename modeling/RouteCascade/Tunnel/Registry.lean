import RouteCascade.Settings.Check
import RouteCascade.Tunnel.State
import RouteCascade.Tunnel.Gateway

/-!
# The registry

The tunnels of some settings: each has a name and a gateway. All of them listen at the same
local address, so only one can be up at a time. The registry hands out new tunnels that are down, all of
them in the order of the settings or one by its name.
-/
namespace RouteCascade.Tunnel

open Net

structure Plan where
  name : String
  gateway : Gateway
  deriving DecidableEq, Repr

inductive PlanFault where
  | invalid (fault : SettingsFault)
  | unknownKind (name : String)
  deriving DecidableEq, Repr

def PlanFault.failure : PlanFault → Failure
  | invalid e => e.failure
  | unknownKind name => Kind.unknown name

def Plan.ofSettings (t : TunnelSettings) : Except PlanFault Plan :=
  match t.fault?, Kind.parse? t.kind with
  | some e, _ => .error (.invalid e)
  | none, none => .error (.unknownKind t.kind)
  | none, some kind =>
    .ok ⟨t.name, kind, t.server, t.port, t.text? "username", t.text? "password"⟩

structure Registry where
  plans : List Plan
  localProxy : SocketAddress
  /-- How long reaching a gateway may take, in seconds. -/
  connectTimeout : UInt64

/-- A tunnel: what it was made from, and its state. -/
structure Relay where
  plan : Plan
  state : State := { }
  deriving DecidableEq, Repr

namespace Registry

/-- The registry of some settings, or what is wrong with the first bad one. -/
def ofSettings (tunnels : List TunnelSettings) (localProxy : SocketAddress) (connectTimeout : UInt64) :
    Except PlanFault Registry :=
  match tunnels.mapM Plan.ofSettings with
  | .ok plans => .ok ⟨plans, localProxy, connectTimeout⟩
  | .error e => .error e

def names (r : Registry) : List String := r.plans.map (·.name)

def all (r : Registry) : List Relay := r.plans.map fun p => { plan := p }

def unknown (name : String) : Failure := ⟨.config, s!"Unknown transport: {name}"⟩

/-- A new tunnel of a name; of several, the first. -/
def create (r : Registry) (name : String) : Except Failure Relay :=
  match r.plans.find? fun p => p.name == name with
  | some p => .ok { plan := p }
  | none => .error (unknown name)

end Registry

namespace Relay

def needsHandshake (t : Relay) (session : Session) : Bool :=
  t.plan.gateway.kind.needsHandshake session

end Relay

end RouteCascade.Tunnel
