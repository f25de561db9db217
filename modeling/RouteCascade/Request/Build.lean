import RouteCascade.Http.Message
import RouteCascade.Request.Parameters
import RouteCascade.Session

/-!
# Building requests

The request that is sent for some parameters: a `POST` if there is a body, even an empty one, and a
`GET` otherwise. Three fields come first, and those of the caller are added to them one after the other.
-/
namespace RouteCascade

open Text Net Http

inductive BuildFault where
  | target (fault : UriFault)
  | fieldName
  | fieldValue
  | tooManyNames
  deriving DecidableEq, Repr

def BuildFault.message : BuildFault → String
  | target e => e.message
  | fieldName => "invalid HTTP header name"
  | fieldValue => "failed to parse header value"
  | tooManyNames => "max size reached"

namespace RequestParameters

def userAgent : String := "tunnel-fallback/0.3.0"

/-- Adds a field to those before it. Once as many names are there as there is room for, none is added, not
even one of a name that is there. -/
def addField (fields : FieldMap) (field : String × String) : Except BuildFault FieldMap :=
  match fieldName? field.1, fieldValue? field.2 with
  | none, _ => .error .fieldName
  | some _, none => .error .fieldValue
  | some name, some value =>
    if FieldMap.maxNames ≤ fields.length then .error .tooManyNames else .ok (fields.append name value)

def ownFields (session : Session) (port : Port) : List (String × String) :=
  [("host", hostPort session.address port), ("user-agent", userAgent), ("connection", "close")]

def method (p : RequestParameters) : Method := if p.body.isSome then .post else .get

def build (session : Session) (port : Port) (p : RequestParameters) : Except BuildFault Request :=
  match Uri.parse p.path with
  | .error e => .error (.target e)
  | .ok target =>
    match (ownFields session port ++ p.headers).foldlM addField [] with
    | .error e => .error e
    | .ok fields => .ok ⟨p.method, target, fields, p.body.getD []⟩

end RequestParameters

end RouteCascade
