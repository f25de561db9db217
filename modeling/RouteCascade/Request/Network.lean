import RouteCascade.Log
import RouteCascade.Request.Attempt
import RouteCascade.Tunnel.LocalProxy
import RouteCascade.Tunnel.Gateway

/-!
# Networks

Who is reached where, and the attempts that are made in such surroundings: directly, or through the local
proxy of a tunnel, which has the gateway dial the target.
-/
namespace RouteCascade

open Text Net Log Tunnel

structure Network where
  /-- Who is at a host and port. -/
  server : String → Except ReachFault Tls.Peer
  /-- The conversation with a gateway. -/
  gateway : Gateway → Except ReachFault Tunnel.Stream
  /-- Who is met behind a gateway that opened a tunnel to a host and port. -/
  behind : Gateway → String → Port → Tls.Peer

/-- What others got of an attempt. -/
inductive Sight where
  /-- The server was reached directly. -/
  | direct (request : Option Bytes)
  /-- The gateway got these bytes, and the server behind it a request. -/
  | tunnelled (gateway : Gateway) (conversation : Bytes) (request : Option Bytes)
  /-- Nobody was reached. -/
  | nobody

namespace Network

def deserted : Network where
  server _ := .error .refused
  gateway _ := .error .refused
  behind _ _ _ := .other [] false

/-- What the local proxy does for a client that asks for a host and port: with what outcome, and who is
met behind it. -/
def serve (n : Network) (g : Gateway) (host : String) (port : Port) : LocalProxy.Served × Tls.Peer :=
  let dial (host : String) (port : Port) : Except (Halt Failure) Tunnel.Stream :=
    match g.dial (n.gateway g) host port with
    | (.ok (), some s) => .ok s
    | (.ok (), none) => .error .waiting
    | (.error e, _) => .error e
  let served := LocalProxy.serve dial ⟨[bytesOf (Connect.request host port none)], false⟩
  let peer :=
    match served.outgoing, served.dialed with
    | some _, (host, port) :: _ => n.behind g host port
    | _, _ => .other [] false
  (served, peer)

/-- The local proxy as its client meets it. -/
def stream (s : LocalProxy.Served) : Tunnel.Stream :=
  { incoming := s.received,
    ending := match s.ending with
      | .lasting => .silent
      | _ => .closed }

/-- Makes an attempt; `listening` is the gateway of the tunnel that listens at the local
address. -/
def attempt (n : Network) (c : PinnedClient) (session : Session) (port : Port) (p : RequestParameters)
    (viaLocalProxy : Bool) (listening : Option Gateway) : Attempted × Sight :=
  match viaLocalProxy, listening with
  | false, _ =>
    let reached := n.server (hostPort session.address port)
    let attempted := c.attempt session port p false ⟨reached, .error .refused⟩
    (attempted, match reached with
      | .ok _ => .direct attempted.request
      | .error _ => .nobody)
  | true, none => (c.attempt session port p true ⟨.error .refused, .error .refused⟩, .nobody)
  | true, some g =>
    let (served, peer) := n.serve g session.address port
    let attempted := c.attempt session port p true ⟨.error .refused, .ok (stream served, peer)⟩
    (attempted, match served.outgoing with
      | some s => .tunnelled g s.sent attempted.request
      | none => .nobody)

def attemptLines (session : Session) (port : Port) (p : RequestParameters) (viaLocalProxy : Bool)
    (a : Attempted) : List Line :=
  ⟨.debug, s!"HTTPS {p.path} to {session.address}:{port} (local proxy: {viaLocalProxy})"⟩ ::
    match a.result with
    | .error (.handshake (.refused name _)) =>
      [⟨.warn, s!"Certificate presented by {name.debugText} does not match pinned " ++
        session.identity.text⟩]
    | _ => []

end Network

end RouteCascade
