import RouteCascade.Cause
import RouteCascade.Http.Status
import RouteCascade.Net.Reach
import RouteCascade.Tls.Handshake
import RouteCascade.Tunnel.Connect

/-!
# Pinned attempts

One attempt to have a request answered: a connection is opened, directly or through the local proxy, a
secure handshake is tried over it, and only if the server has the pinned certificate is the request
built and sent. Only a complete reply of status 200 is an answer.

What waits for ever is ended by a time limit: one for opening the connection and, over all, one for the
whole attempt.
-/
namespace RouteCascade

open Text Net Http Tunnel

/-- Who is met where a connection is opened. -/
structure Meeting where
  /-- Who is at the server's address. -/
  direct : Except ReachFault Tls.Peer
  /-- What the local proxy sends, and who is met behind it. -/
  proxied : Except ReachFault (Tunnel.Stream × Tls.Peer)

/-- The limits of an attempt, and where the local proxy is. -/
structure PinnedClient where
  localProxy : String
  /-- Milliseconds for opening a connection. -/
  connectLimit : Nat
  /-- Milliseconds for an attempt. -/
  requestLimit : Nat

inductive AttemptFault where
  | reach (address : String) (fault : ReachFault)
  | tunnel (fault : ConnectFault)
  | tunnelTimeout (proxy : String)
  | serverName
  | handshake (fault : Tls.HandshakeFault)
  | build (fault : BuildFault)
  | reply (fault : ReplyFault)
  | status (path : String) (code : Nat)
  | timeout (address : String) (port : Port)
  deriving DecidableEq

def AttemptFault.failure : AttemptFault → Failure
  | reach address e => e.failure address
  | tunnel e => e.failure
  | tunnelTimeout proxy => ⟨.timeout, s!"CONNECT through {proxy} timed out"⟩
  | serverName => ⟨.tls, s!"Invalid server name: {ServerName.invalidText}"⟩
  | handshake e => ⟨.tls, s!"TLS handshake failed: {e.message}"⟩
  | build e => (Cause.build e).failure
  | reply e => (Cause.reply e).failure
  | status path code => ⟨.request, s!"{path} returned {Status.text code}"⟩
  | timeout address port => ⟨.timeout, s!"Request to {address}:{port} timed out"⟩

structure Attempted where
  /-- What the local proxy got before the handshake. -/
  asked : Option Bytes := none
  /-- What the server got over the secure connection. -/
  request : Option Bytes := none
  result : Except AttemptFault Bytes

namespace PinnedClient

def failed (e : AttemptFault) : Attempted := { result := .error e }

def answer (path : String) (r : Http.Reply) : Except AttemptFault Bytes :=
  if r.code = Status.ok then .ok r.body else .error (.status path r.code)

def bareName (address : String) : String := String.ofList (stripBrackets address.toList)

def exchange (session : Session) (port : Port) (p : RequestParameters) (s : Tls.Server) : Attempted :=
  match p.build session port with
  | .error e => failed (.build e)
  | .ok r =>
    let bytes := r.write
    let (reply, ending) := s.answer bytes
    { request := some bytes,
      result :=
        match Http.Reply.read ending reply with
        | .done r => answer p.path r
        | .fault e => .error (.reply e)
        | .waiting => .error (.timeout session.address port) }

def secure (tls : Tls.Method) (session : Session) (port : Port) (p : RequestParameters) (unread : Bytes)
    (peer : Tls.Peer) : Attempted :=
  match ServerName.parse? (bareName session.address) with
  | none => failed .serverName
  | some name =>
    match tls (Pin.verifier session.identity) name unread peer with
    | .fault e => failed (.handshake e)
    | .waiting => failed (.timeout session.address port)
    | .done s => exchange session port p s

/-- The fault of a local proxy that never answers. -/
def tunnelWaiting (c : PinnedClient) (session : Session) (port : Port) : AttemptFault :=
  if c.connectLimit < c.requestLimit then .tunnelTimeout c.localProxy
  else .timeout session.address port

/-- Asks the local proxy for the server, and goes on over what it gives. -/
def throughProxy (tls : Tls.Method) (c : PinnedClient) (session : Session) (port : Port)
    (p : RequestParameters) (proxy : Tunnel.Stream) (behind : Tls.Peer) : Attempted :=
  let (result, s) := (connect session.address port none).runOn proxy
  let attempted :=
    match result with
    | .ok () => secure tls session port p s.incoming behind
    | .error (.fault e) => failed (.tunnel e)
    | .error .waiting => failed (c.tunnelWaiting session port)
  { attempted with asked := some s.sent }

/-- Makes an attempt, with handshakes made in some way. -/
def attemptBy (tls : Tls.Method) (c : PinnedClient) (session : Session) (port : Port)
    (p : RequestParameters) (viaLocalProxy : Bool) (m : Meeting) : Attempted :=
  if viaLocalProxy then
    match m.proxied with
    | .error e => failed (.reach c.localProxy e)
    | .ok (proxy, behind) => throughProxy tls c session port p proxy behind
  else
    match m.direct with
    | .error e => failed (.reach (hostPort session.address port) e)
    | .ok peer => secure tls session port p [] peer

def attempt (c : PinnedClient) (session : Session) (port : Port) (p : RequestParameters)
    (viaLocalProxy : Bool) (m : Meeting) : Attempted :=
  attemptBy Tls.Handshake.run c session port p viaLocalProxy m

end PinnedClient

end RouteCascade
