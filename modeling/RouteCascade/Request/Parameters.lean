import RouteCascade.Failure
import RouteCascade.Text.Blank

/-!
# Request parameters

What to send: a path, extra headers and an optional body. A body that is present but empty is not
the same as none.
-/
namespace RouteCascade

open Text

structure RequestParameters where
  path : String
  headers : List (String × String) := []
  body : Option Bytes := none
  deriving DecidableEq, Repr

inductive ParameterFault where
  | emptyPath
  | relativePath (path : String)
  deriving DecidableEq, Repr

def ParameterFault.message : ParameterFault → String
  | emptyPath => "request path cannot be empty"
  | relativePath p => s!"request path must be absolute: {p}"

def ParameterFault.failure (e : ParameterFault) : Failure := ⟨.misuse, e.message⟩

/-- What is wrong with the parameters, if anything: the path has to start with a slash. -/
def RequestParameters.fault? (p : RequestParameters) : Option ParameterFault :=
  match p.path.toList with
  | [] => some .emptyPath
  | c :: _ => if c = '/' then none else some (.relativePath p.path)

/-- Nothing is wrong with exactly the paths that start with a slash. -/
theorem RequestParameters.fault?_eq_none_iff {p : RequestParameters} :
    p.fault? = none ↔ p.path.toList.head? = some '/' := by
  simp only [fault?]
  split
  · simp_all
  · rename_i c s h
    simp [h]

end RouteCascade
