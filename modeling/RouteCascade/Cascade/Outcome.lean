import RouteCascade.Failure
import RouteCascade.Net.HostPort
import RouteCascade.Tunnel.Kind

/-!
# Outcomes

What a request comes to: a body, a report of every path that failed, or nothing because it was given
up. A report lists the paths in the order in which they were tried.
-/
namespace RouteCascade.Cascade

open Text Net

inductive Path where
  | direct (port : Port)
  | temporary (name : String) (kind : Tunnel.Kind)
  deriving DecidableEq, Repr

def Path.text : Path → String
  | direct port => s!"direct:{port}"
  | temporary name kind => s!"{name}({kind.text})"

structure FailedPath where
  path : Path
  failure : Failure
  deriving DecidableEq, Repr

def FailedPath.text (f : FailedPath) : String := s!"{f.path.text}: {f.failure.message}"

inductive Reason where
  /-- No tunnel is up and none may be brought up. -/
  | temporaryDisallowed
  /-- The one attempt over the tunnel that is up failed. -/
  | request (failure : Failure)
  /-- The direct paths failed and no tunnel can connect without a handshake. -/
  | noEligible (failures : List FailedPath)
  /-- Every direct path and every eligible tunnel failed. -/
  | exhausted (failures : List FailedPath)
  deriving DecidableEq, Repr

namespace Reason

/-- The failed paths, in the order in which they were tried. -/
def failures : Reason → List FailedPath
  | noEligible fs | exhausted fs => fs
  | temporaryDisallowed | request _ => []

def text : Reason → String
  | temporaryDisallowed => "no transport connected and temporary connections disallowed"
  | request e => s!"request over connected transport failed: {e.message}"
  | noEligible fs =>
    s!"all fallback paths exhausted: no eligible temporary transport ({fs.length} direct attempts failed)"
  | exhausted fs => s!"all fallback paths exhausted ({fs.length} attempts failed)"

end Reason

inductive Outcome where
  | success (body : Bytes)
  | failed (reason : Reason)
  | cancelled
  deriving DecidableEq, Repr

namespace Outcome

def isSuccess : Outcome → Bool
  | success _ => true
  | _ => false

def isCancelled : Outcome → Bool
  | cancelled => true
  | _ => false

end Outcome

end RouteCascade.Cascade
