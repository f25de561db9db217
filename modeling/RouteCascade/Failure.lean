/-!
# Failures

What can go wrong with a request, sorted by kind. The kind decides how a failure is announced and
whether it counts as a path that could not be established or as an endpoint that refused.
-/
namespace RouteCascade

inductive Failure.Kind where
  | io | config | protocol | connection | request | timeout | auth | tls | handshakeRequired | misuse
  deriving DecidableEq, Repr

structure Failure where
  kind : Failure.Kind
  detail : String
  deriving DecidableEq, Repr

namespace Failure

/-- The words in front of the detail of a failure. -/
def Kind.label : Kind → String
  | io => "IO error: "
  | config => "Configuration error: "
  | protocol => "Protocol error: "
  | connection => "Connection error: "
  | request => "Request error: "
  | timeout => "Timeout error: "
  | auth => "Authentication failed: "
  | tls => "TLS error: "
  | handshakeRequired => "Handshake required: "
  | misuse => "Misuse: "

def message (f : Failure) : String := f.kind.label ++ f.detail

/-- The kinds that mean a path was not established, as opposed to an endpoint that was reached and
refused the request. -/
def Kind.isConnectionFailure : Kind → Bool
  | io | connection | timeout | auth | tls | handshakeRequired => true
  | config | protocol | request | misuse => false

def isConnectionFailure (f : Failure) : Bool := f.kind.isConnectionFailure

end Failure

end RouteCascade
