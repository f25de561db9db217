import RouteCascade.Failure
import RouteCascade.Net.OsError

/-!
# Reaching an address

Why no connection to an address could be opened, and the failure that this is.
-/
namespace RouteCascade.Net

inductive ReachFault where
  /-- The system gave an error with this number. -/
  | system (number : Int)
  | timedOut
  deriving DecidableEq, Repr

def ReachFault.failure (address : String) : ReachFault → Failure
  | system n => ⟨.connection, s!"Failed to connect to {address}: {OsError.message n}"⟩
  | timedOut => ⟨.timeout, s!"Connecting to {address} timed out"⟩

def ReachFault.refused : ReachFault := system OsError.connectionRefused

end RouteCascade.Net
