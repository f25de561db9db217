import RouteCascade.Failure
import RouteCascade.Http.Reply
import RouteCascade.Net.OsError
import RouteCascade.Request.Build
import RouteCascade.Yaml.Complaint

/-!
# Causes

Errors of the system and of the libraries that requests are made with. Each is taken over as a failure in its
own words, and where it comes from decides of what kind.
-/
namespace RouteCascade

open Net Http

inductive Cause where
  /-- An error of the system, by its number. -/
  | system (number : Int)
  | stream (text : String)
  | document (fault : Yaml.Fault)
  /-- A time limit has passed. -/
  | elapsed
  /-- What the library for secure connections did not expect. -/
  | secure (text : String)
  | build (fault : BuildFault)
  | reply (fault : ReplyFault)

namespace Cause

def kind : Cause → Failure.Kind
  | system _ | stream _ => .io
  | document _ => .config
  | elapsed => .timeout
  | secure _ => .tls
  | build _ | reply _ => .request

def text : Cause → String
  | system n => OsError.message n
  | stream s => s
  | document e => e.message
  | elapsed => "deadline has elapsed"
  | secure s => s!"unexpected error: {s}"
  | build e => e.message
  | reply e => e.message

/-- The failure that an error is taken over as. -/
def failure (c : Cause) : Failure := ⟨c.kind, c.text⟩

end Cause

end RouteCascade
