import RouteCascade.Cause
import RouteCascade.Http.Head
import RouteCascade.Net.HostPort
import RouteCascade.Tunnel.Stream

/-!
# Asking an HTTP proxy for a tunnel

The `CONNECT` request and the reading of the reply to it. The reply is read byte by byte up to the end
of its head, so that what follows it is left for whoever uses the tunnel.
-/
namespace RouteCascade.Tunnel

open Text Net Http

inductive ConnectFault where
  | notSent (error : String)
  | notFlushed (error : String)
  | notRead (error : String)
  | closed
  | tooLarge
  | malformed (fault : HeadFault)
  | noStatus
  | credentials
  | refused (target : String) (code : Nat)
  deriving DecidableEq, Repr

def ConnectFault.failure : ConnectFault → Failure
  | notSent e => ⟨.connection, s!"Failed to send CONNECT request: {e}"⟩
  | notFlushed e => (Cause.stream e).failure
  | notRead e => ⟨.connection, s!"Failed to read CONNECT response: {e}"⟩
  | closed => ⟨.connection, "Connection closed during CONNECT"⟩
  | tooLarge => ⟨.connection, "CONNECT response too large"⟩
  | malformed e => ⟨.protocol, s!"Malformed CONNECT response: {e.message}"⟩
  | noStatus => ⟨.protocol, "CONNECT response without status"⟩
  | credentials => ⟨.auth, "Proxy authentication required"⟩
  | refused target code => ⟨.connection, s!"CONNECT to {target} failed with status {code}"⟩

namespace Connect

def lineEnd : String := "\r\n"

def request (host : String) (port : Port) (authorization : Option String) : String :=
  let target := hostPort host port
  s!"CONNECT {target} HTTP/1.1{lineEnd}Host: {target}{lineEnd}Proxy-Connection: keep-alive{lineEnd}" ++
    (match authorization with
      | some a => s!"Proxy-Authorization: {a}{lineEnd}"
      | none => "") ++ lineEnd

/-- The bytes that end a head, backwards. -/
def headEndBackwards : Bytes := [lf, cr, lf, cr]

/-- Reads the rest of a head of which the bytes so far are kept backwards. At most `left` more bytes are
read. -/
def readHead : Nat → Bytes → Talk ConnectFault Bytes
  | 0, _ => Talk.fail .tooLarge
  | left + 1, acc => do
    match ← (Talk.read 1).mapFault .notRead with
    | [] => Talk.fail .closed
    | b :: _ =>
      let acc := b :: acc
      if headEndBackwards.isPrefixOf acc then pure acc.reverse else readHead left acc

def maxFields : Nat := 32

def verdict (target : String) (head : Bytes) : Except ConnectFault Unit :=
  match ResponseHead.parse maxFields head with
  | .bad e => .error (.malformed e)
  | .more => .error .noStatus
  | .done h _ =>
    if h.code = 200 then .ok ()
    else if h.code = 407 then .error .credentials
    else .error (.refused target h.code)

end Connect

/-- Asks the proxy at the other end of a stream for a tunnel to a host and port. -/
def connect (host : String) (port : Port) (authorization : Option String) : Talk ConnectFault Unit := do
  (Talk.write (bytesOf (Connect.request host port authorization))).mapFault .notSent
  Talk.flush.mapFault .notFlushed
  let head ← Connect.readHead maxHead []
  match Connect.verdict (hostPort host port) head with
  | .ok () => pure ()
  | .error e => Talk.fail e

end RouteCascade.Tunnel
