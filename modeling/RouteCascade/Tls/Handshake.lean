import RouteCascade.Http.Reply
import RouteCascade.Pin.Verdict
import RouteCascade.Tls.Opening

/-!
# Secure handshakes

Who may be at the other end of a connection, and what trying a handshake with them comes to. A server
presents a certificate; a verifier decides about it before anything is sent over the secure connection.
-/
namespace RouteCascade.Tls

open Text Net

/-- A server that completes handshakes. -/
structure Server where
  /-- The certificate it presents. -/
  certificate : Bytes
  /-- What it sends when it has read a request, and how the connection goes on then. -/
  answer : Bytes → Bytes × Http.Ending

inductive Peer where
  | server (s : Server)
  /-- Somebody who sends some bytes and then ends the connection, or leaves it open. -/
  | other (sent : Bytes) (staysOpen : Bool)

inductive HandshakeFault where
  | opening (fault : OpeningFault)
  | earlyEnd
  /-- The verifier refused what was presented under a name. -/
  | refused (name : ServerName) (reason : String)
  deriving DecidableEq

def HandshakeFault.message : HandshakeFault → String
  | opening e => e.message
  | earlyEnd => "tls handshake eof"
  | refused _ reason => reason

inductive Handshake where
  | done (server : Server)
  | fault (cause : HandshakeFault)
  /-- It waits for ever. -/
  | waiting

/-- A way to make handshakes: with a verifier, under a name, after the bytes that were left unread on the
connection, and with whoever is at its other end. -/
abbrev Method := Pin.Verifier → ServerName → Bytes → Peer → Handshake

namespace Handshake

/-- The bytes that the first record of a server starts with. -/
def serverOpening : Bytes := [22, 3, 3]

def presented (name : ServerName) (s : Server) : Pin.Presented :=
  { certificate := s.certificate, serverName := name }

def verify (v : Pin.Verifier) (name : ServerName) (s : Server) : Handshake :=
  match v (presented name s) [] with
  | none => .done s
  | some reason => .fault (.refused name reason)

/-- A handshake of which nothing more comes. -/
def ended (staysOpen : Bool) : Handshake := if staysOpen then .waiting else .fault .earlyEnd

/-- Tries a handshake. Bytes that were left unread on the connection come first. -/
def run : Method := fun v name unread peer =>
  match peer with
  | .other sent staysOpen =>
    match Opening.read (unread ++ sent) with
    | .fault e => .fault (.opening e)
    | .pending _ | .answered => ended staysOpen
  | .server s =>
    match Opening.read unread with
    | .fault e => .fault (.opening e)
    | .pending [] => verify v name s
    | .pending _ =>
      match Opening.read (unread ++ serverOpening) with
      | .fault e => .fault (.opening e)
      | _ => .fault .earlyEnd
    | .answered => .fault .earlyEnd

end Handshake

end RouteCascade.Tls
