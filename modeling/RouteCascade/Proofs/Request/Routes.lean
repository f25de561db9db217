import RouteCascade.Proofs.Request.Pinned
import RouteCascade.Proofs.Tunnel.ConnectReply
import RouteCascade.Proofs.Tunnel.ConnectRequest
import RouteCascade.Request.Network

/-!
# Two routes to a server

What comes of a request does not depend on the route. A tunnel that was asked for is left right after the head
of the reply, so the handshake meets what it would have met without a tunnel. From then on there is one path,
and nothing in it knows of the route.

Of the way in which handshakes are made, it is only used that bytes left unread on a connection come before
those that the other end sends.
-/
namespace RouteCascade

open Text Net Http Tunnel

namespace Tls

/-- Bytes left unread come before those that the other end sends. -/
def Method.Seamless (tls : Method) : Prop :=
  ∀ v name unread sent staysOpen,
    tls v name unread (.other sent staysOpen) = tls v name [] (.other (unread ++ sent) staysOpen)

/-- Bytes left unread and who is met then are together what a peer is. -/
inductive Continues (unread : Bytes) : Peer → Peer → Prop
  | whole {peer : Peer} (none : unread = []) : Continues unread peer peer
  | part {sent all : Bytes} {staysOpen : Bool} (both : unread ++ sent = all) :
      Continues unread (.other sent staysOpen) (.other all staysOpen)

theorem Continues.same {tls : Method} (h : tls.Seamless) {unread : Bytes} {behind peer : Peer}
    (hc : Continues unread behind peer) (v : Pin.Verifier) (name : ServerName) :
    tls v name unread behind = tls v name [] peer := by
  cases hc with
  | whole hnone => rw [hnone]
  | part hboth =>
      rw [← hboth]
      exact h v name unread _ _

theorem Handshake.seamless_run : Method.Seamless run := fun _ _ _ _ _ => rfl

end Tls

namespace Tunnel

/-- A proxy takes the request for a tunnel and grants it with a head of `k` bytes. -/
structure Opens (host : String) (port : Port) (proxy : Stream) (k : Nat) : Prop where
  takes : proxy.Delivers (bytesOf (Connect.request host port none)).length
  gives : proxy.mostPerRead ≠ some 0
  head : FirstEnd proxy.incoming k
  fits : k ≤ maxHead
  granted : ∃ h rest, ResponseHead.parse Connect.maxFields (proxy.incoming.take k) = .done h rest ∧
    h.code = 200

/-- All that follows the head is left. -/
theorem Opens.runOn_connect {host : String} {port : Port} {proxy : Stream} {k : Nat}
    (h : Opens host port proxy k) :
    (connect host port none).runOn proxy =
      (.ok (), { proxy.wrote (bytesOf (Connect.request host port none)) with
        incoming := proxy.incoming.drop k }) := by
  obtain ⟨hstream, hjudged⟩ :=
    (Connect.readsReply_connect h.takes h.gives).head k h.head h.fits
  have hok := hjudged.established.mpr h.granted
  rw [Talk.runOn_mapFault] at hstream hok
  cases hrun : (connect host port none).runOn proxy with
  | mk result s =>
      rw [hrun] at hstream hok
      cases result with
      | error e => cases hok
      | ok u => exact congrArg _ hstream

end Tunnel

namespace PinnedClient

section Routes
variable {tls : Tls.Method} {session : Session} {port : Port} {p : RequestParameters} {m : Meeting}
  {proxy : Tunnel.Stream} {behind peer : Tls.Peer} {k : Nat}

theorem secure_of_continues (h : tls.Seamless) {unread : Bytes} (hc : Tls.Continues unread behind peer) :
    secure tls session port p unread behind = secure tls session port p [] peer := by
  unfold secure
  cases ServerName.parse? (bareName session.address) with
  | none => rfl
  | some name => simp only [hc.same h]

theorem attemptBy_of_opens (h : tls.Seamless) (c : PinnedClient) (hp : m.proxied = .ok (proxy, behind))
    (ho : Opens session.address port proxy k) (hc : Tls.Continues (proxy.incoming.drop k) behind peer) :
    attemptBy tls c session port p true m = { secure tls session port p [] peer with
      asked := some (proxy.sent ++ bytesOf (Connect.request session.address port none)) } := by
  rw [attemptBy_of_meets c (.proxied hp ho.runOn_connect), secure_of_continues h hc]
  rfl

theorem attemptBy_of_direct (tls : Tls.Method) (c : PinnedClient) (session : Session) (port : Port)
    (p : RequestParameters) (hd : m.direct = .ok peer) :
    attemptBy tls c session port p false m = secure tls session port p [] peer := by
  rw [attemptBy_of_meets c (.direct hd), ← asked_secure]

/-- An attempt that is the same on both routes. -/
structure RouteIndependent (tls : Tls.Method) (c : PinnedClient) (session : Session) (port : Port)
    (p : RequestParameters) (m : Meeting) (sent : Bytes) : Prop where
  result : (attemptBy tls c session port p true m).result = (attemptBy tls c session port p false m).result
  /-- The server gets the same over the secure connection. -/
  request : (attemptBy tls c session port p true m).request = (attemptBy tls c session port p false m).request
  /-- The proxy gets nothing but the request for a tunnel before the handshake. -/
  asked : (attemptBy tls c session port p true m).asked =
    some (sent ++ bytesOf (Connect.request session.address port none))
  unasked : (attemptBy tls c session port p false m).asked = none

/-- If the local proxy grants a tunnel behind which the server is met, it makes no difference whether it is
asked. -/
theorem routeIndependent_attemptBy (h : tls.Seamless) (c : PinnedClient) (session : Session) (port : Port)
    (p : RequestParameters) {m : Meeting} (hd : m.direct = .ok peer) (hp : m.proxied = .ok (proxy, behind))
    (ho : Opens session.address port proxy k) (hc : Tls.Continues (proxy.incoming.drop k) behind peer) :
    RouteIndependent tls c session port p m proxy.sent := by
  have hproxied := attemptBy_of_opens (p := p) h c hp ho hc
  have hdirect := attemptBy_of_direct tls c session port p hd
  refine ⟨?_, ?_, ?_, ?_⟩
  · rw [hproxied, hdirect]
  · rw [hproxied, hdirect]
  · rw [hproxied]
  · rw [hdirect, asked_secure]

/-- A server answers on both routes. Of another one the first bytes come along with the end of the head of the
reply, which comes in pieces. -/
theorem routeIndependent_earlyBytes :
    let c : PinnedClient := ⟨"127.0.0.1:8085", 10000, 30000⟩
    let session : Session := { address := "203.0.113.10", port := 8443, identity := .certificate [1] }
    let p : RequestParameters := { path := "/status" }
    let proxy : Tunnel.Stream := { incoming := bytesOf "HTTP/1.1 200 OK\r\n\r\nHT", mostPerRead := some 5 }
    let m : Meeting :=
      ⟨.ok (.other (bytesOf "HTTP/1.1 400") false), .ok (proxy, .other (bytesOf "TP/1.1 400") false)⟩
    let exact : Tunnel.Stream := { incoming := bytesOf "HTTP/1.1 200 OK\r\n\r\n" }
    let server : Tls.Peer :=
      .server ⟨[1], fun _ => (bytesOf "HTTP/1.1 200 OK\r\nContent-Length: 2\r\n\r\nOK", .closed)⟩
    let answering : Meeting := ⟨.ok server, .ok (exact, server)⟩
    RouteIndependent Tls.Handshake.run c session 8443 p m proxy.sent ∧
      (c.attempt session 8443 p true m).result =
        .error (.handshake (.opening (.corrupt "InvalidContentType"))) ∧
      RouteIndependent Tls.Handshake.run c session 8443 p answering exact.sent ∧
      (c.attempt session 8443 p true answering).result = .ok (bytesOf "OK") ∧
      (c.attempt session 8443 p false answering).result = .ok (bytesOf "OK") := by
  intro c session p proxy m exact server answering
  have opens : Opens "203.0.113.10" 8443 proxy 19 :=
    ⟨⟨nofun, rfl⟩, by decide, endOf?_eq_some_iff.mp (by decide +kernel), by decide,
      ⟨1, 200, []⟩, [], by decide +kernel, rfl⟩
  have opensExact : Opens "203.0.113.10" 8443 exact 19 :=
    ⟨⟨nofun, rfl⟩, nofun, endOf?_eq_some_iff.mp (by decide +kernel), by decide,
      ⟨1, 200, []⟩, [], by decide +kernel, rfl⟩
  have hearly := routeIndependent_attemptBy Tls.Handshake.seamless_run c session 8443 p (m := m) rfl rfl opens
    (.part (by decide +kernel))
  have hanswered := routeIndependent_attemptBy Tls.Handshake.seamless_run c session 8443 p (m := answering)
    rfl rfl opensExact (.whole (by decide +kernel))
  exact ⟨hearly, by decide +kernel, hanswered, by decide +kernel, by decide +kernel⟩

end Routes

end PinnedClient

namespace Network

section Serve
variable {n : Network} {g : Gateway} {host : String} {port : Port} {s : Tunnel.Stream}

/-- A target that the local proxy understands. -/
structure Understood (host : String) (port : Port) : Prop where
  chars : ∀ c ∈ host.toList, Connect.isHostChar c
  named : stripBrackets host.toList ≠ []
  fits : (bytesOf (Connect.request host port none)).length ≤ maxHead

theorem serve_of_dial (h : Understood host port)
    (hd : g.dial (n.gateway g) (String.ofList (stripBrackets host.toList)) port = (.ok (), some s)) :
    (stream (n.serve g host port).1).incoming = bytesOf LocalProxy.established ++ s.incoming ∧
      (n.serve g host port).2 = n.behind g (String.ofList (stripBrackets host.toList)) port := by
  obtain ⟨hend, head, hparse, hmethod, htarget⟩ := Connect.asksFor_request port h.chars h.named
    (show ∀ a ∈ (none : Option String), ∀ c ∈ a.toList, Connect.isCredentialChar c from nofun)
  have hone : [bytesOf (Connect.request host port none)].flatten = bytesOf (Connect.request host port none) := by
    rw [List.flatten_cons, List.flatten_nil, List.append_nil]
  obtain ⟨along, later, hrest, hread⟩ := LocalProxy.readHead_of_firstEnd (by rw [hone]; exact hend) h.fits
  rw [hone, List.drop_length, List.append_eq_nil_iff] at hrest
  rw [hone, List.take_length] at hread
  have htold := LocalProxy.target_eq_ok_iff.mpr ⟨head, [], hparse, hmethod, htarget⟩
  unfold stream serve LocalProxy.serve
  simp only [hread, htold, hd, hrest.1, hrest.2, and_true]
  rfl

/-- The local proxy grants a tunnel to whomever its gateway gives one. -/
theorem opens_serve (h : Understood host port)
    (hd : g.dial (n.gateway g) (String.ofList (stripBrackets host.toList)) port = (.ok (), some s)) :
    Opens host port (stream (n.serve g host port).1) (bytesOf LocalProxy.established).length := by
  have hincoming := (serve_of_dial h hd).1
  have hend : endOf? (bytesOf LocalProxy.established) = some (bytesOf LocalProxy.established).length := by
    decide +kernel
  refine ⟨⟨nofun, rfl⟩, nofun, ?_, by decide +kernel, ?_⟩
  · rw [hincoming]
    exact (endOf?_eq_some_iff.mp hend).append _
  · rw [hincoming, List.take_left]
    exact ⟨⟨1, 200, []⟩, [], by decide +kernel, rfl⟩

end Serve

/-- An attempt through the local proxy is the attempt without it, if its gateway gives a tunnel to the
server. -/
theorem attempt_tunnelled (n : Network) (c : PinnedClient) (session : Session) (port : Port)
    (p : RequestParameters) {g : Gateway} {s : Tunnel.Stream} {peer : Tls.Peer}
    (h : Understood session.address port)
    (hd : g.dial (n.gateway g) (PinnedClient.bareName session.address) port = (.ok (), some s))
    (hpeer : n.server (hostPort session.address port) = .ok peer)
    (hc : Tls.Continues s.incoming (n.behind g (PinnedClient.bareName session.address) port) peer) :
    (n.attempt c session port p true (some g)).1 = { (n.attempt c session port p false none).1 with
      asked := some (bytesOf (Connect.request session.address port none)) } := by
  obtain ⟨hincoming, hbehind⟩ := serve_of_dial h hd
  unfold attempt PinnedClient.attempt
  dsimp only
  rw [PinnedClient.attemptBy_of_direct _ c session port p hpeer]
  refine PinnedClient.attemptBy_of_opens Tls.Handshake.seamless_run c rfl (opens_serve h hd) ?_
  rw [hincoming, List.drop_left, hbehind]
  exact hc

end Network

end RouteCascade
