import RouteCascade.Proofs.Http.WholeReply
import RouteCascade.Request.Attempt
import Mathlib.Data.List.Basic

/-!
# Pinned requests

A request is written only over a connection that is secure, and a connection becomes secure only with a
server whose certificate the verifier accepts. So an answer comes from the pinned server, and nobody else
gets to see any of the request.

Of the way in which handshakes are made, it is only used that a server presents a certificate before a
connection is secure, and that a handshake is aborted if the verifier refuses what is presented.
-/
namespace RouteCascade

open Text Net Http Tunnel

/-- The certificate is the pinned one, or has the pinned fingerprint. -/
def Identity.Pins : Identity → Bytes → Prop
  | .certificate der, c => der = c
  | .fingerprint p, c => Digest.sha256 c = p.bytes

theorem Identity.isMatch_iff (i : Identity) (c : Bytes) : i.isMatch c = true ↔ i.Pins c := by
  cases i with
  | certificate der => simp [isMatch, Pins]
  | fingerprint p =>
      obtain ⟨bytes, hlen⟩ := p
      simp [isMatch, Pins, Fingerprint.of]

theorem Pin.verifier_eq_none_iff {pin : Identity} {q : Presented} {staple : Bytes} :
    verifier pin q staple = none ↔ pin.Pins q.certificate :=
  refusal?_eq_none_iff.trans (pin.isMatch_iff q.certificate)

namespace Tls

/-- A way to make handshakes heeds the verifier. What is presented in a handshake, if it comes to that, does
not depend on the verifier. -/
structure Method.Heeds (tls : Method)
    (presented? : ServerName → Bytes → Peer → Option (Pin.Presented × Bytes)) : Prop where
  /-- A connection is secure only with a server that presented its certificate. -/
  presents : ∀ {v name unread peer s}, tls v name unread peer = .done s →
    ∃ q staple, presented? name unread peer = some (q, staple) ∧ q.certificate = s.certificate
  /-- A handshake is aborted if the verifier refuses what is presented. -/
  aborts : ∀ {v name unread peer q staple reason}, presented? name unread peer = some (q, staple) →
    v q staple = some reason → ∃ f, tls v name unread peer = .fault f

/-- What is presented in a handshake before which nothing was left unread. -/
def Handshake.presented? (name : ServerName) (unread : Bytes) : Peer → Option (Pin.Presented × Bytes)
  | .server s => if Opening.read unread = .pending [] then some (presented name s, []) else none
  | .other _ _ => none

theorem Handshake.verify_cases (v : Pin.Verifier) (name : ServerName) (s : Server) :
    (v (presented name s) [] = none ∧ verify v name s = .done s) ∨
      ∃ reason, v (presented name s) [] = some reason ∧ verify v name s = .fault (.refused name reason) := by
  unfold verify
  cases v (presented name s) [] with
  | none => exact .inl ⟨rfl, rfl⟩
  | some reason => exact .inr ⟨reason, rfl, rfl⟩

/-- A handshake with a server is decided by the verifier if nothing was left unread, and otherwise fails. -/
theorem Handshake.run_server (v : Pin.Verifier) (name : ServerName) (unread : Bytes) (s : Server) :
    (Opening.read unread = .pending [] ∧ run v name unread (.server s) = verify v name s) ∨
      (Opening.read unread ≠ .pending [] ∧ ∃ f, run v name unread (.server s) = .fault f) := by
  unfold run
  cases hr : Opening.read unread with
  | answered => exact .inr ⟨nofun, _, rfl⟩
  | fault e => exact .inr ⟨nofun, _, rfl⟩
  | pending rest =>
      cases rest with
      | nil => exact .inl ⟨rfl, rfl⟩
      | cons b rest =>
          refine .inr ⟨nofun, ?_⟩
          dsimp only
          split
          · exact ⟨_, rfl⟩
          · exact ⟨_, rfl⟩

theorem Handshake.run_other_ne_done (v : Pin.Verifier) (name : ServerName) (unread sent : Bytes)
    (staysOpen : Bool) (s : Server) : run v name unread (.other sent staysOpen) ≠ .done s := by
  unfold run ended
  dsimp only
  repeat' split
  all_goals nofun

theorem Handshake.heeds_run : Method.Heeds run presented? where
  presents := by
    intro v name unread peer s h
    cases peer with
    | other sent staysOpen => exact absurd h (run_other_ne_done v name unread sent staysOpen s)
    | server s' =>
        obtain ⟨hr, hv⟩ | ⟨-, f, hf⟩ := run_server v name unread s'
        · obtain ⟨-, hd⟩ | ⟨reason, -, hd⟩ := verify_cases v name s'
          · cases h.symm.trans (hv.trans hd)
            exact ⟨presented name s, [], if_pos hr, rfl⟩
          · cases h.symm.trans (hv.trans hd)
        · cases h.symm.trans hf
  aborts := by
    intro v name unread peer q staple reason hq hrefused
    cases peer with
    | other sent staysOpen => cases hq
    | server s =>
        obtain ⟨hr, hv⟩ | ⟨-, hf⟩ := run_server v name unread s
        · cases (if_pos hr).symm.trans hq
          obtain ⟨hnone, -⟩ | ⟨reason', -, hd⟩ := verify_cases v name s
          · cases hnone.symm.trans hrefused
          · exact ⟨_, hv.trans hd⟩
        · exact hf

end Tls

namespace PinnedClient

/-- Whom an attempt meets where it makes a connection secure: what the local proxy got before, what is left
unread on the connection, and who is at its other end. -/
inductive Meets (session : Session) (port : Port) (m : Meeting) :
    Bool → Option Bytes → Bytes → Tls.Peer → Prop
  | direct {peer : Tls.Peer} : m.direct = .ok peer → Meets session port m false none [] peer
  | proxied {proxy s : Tunnel.Stream} {behind : Tls.Peer} : m.proxied = .ok (proxy, behind) →
      (connect session.address port none).runOn proxy = (.ok (), s) →
      Meets session port m true (some s.sent) s.incoming behind

section Secure
variable {tls : Tls.Method} {session : Session} {port : Port} {p : RequestParameters} {unread : Bytes}
  {peer : Tls.Peer} {body : Bytes}

theorem answer_eq_ok {path : String} {r : Http.Reply} (h : answer path r = .ok body) :
    r.code = 200 ∧ r.body = body := by
  unfold answer at h
  split at h
  · cases h
    exact ⟨‹_›, rfl⟩
  · cases h

/-- Only a complete reply is an answer. -/
theorem exchange_ok {s : Tls.Server} (h : (exchange session port p s).result = .ok body) :
    ∃ r, p.build session port = .ok r ∧ (exchange session port p s).request = some r.write ∧
      Whole (s.answer r.write).2 (s.answer r.write).1 200 body := by
  unfold exchange at h ⊢
  cases hb : p.build session port with
  | error e =>
      rw [hb] at h
      cases h
  | ok r =>
      simp only [hb] at h ⊢
      refine ⟨r, rfl, rfl, ?_⟩
      cases hr : Http.Reply.read (s.answer r.write).2 (s.answer r.write).1 with
      | fault e | waiting =>
          simp only [hr] at h
          cases h
      | done reply =>
          simp only [hr] at h
          obtain ⟨hcode, rfl⟩ := answer_eq_ok h
          exact hcode ▸ whole_read hr

theorem secure_ok (h : (secure tls session port p unread peer).result = .ok body) :
    ∃ name s, ServerName.parse? (bareName session.address) = some name ∧
      tls (Pin.verifier session.identity) name unread peer = .done s ∧
      secure tls session port p unread peer = exchange session port p s := by
  unfold secure at h ⊢
  cases hn : ServerName.parse? (bareName session.address) with
  | none =>
      rw [hn] at h
      cases h
  | some name =>
      simp only [hn] at h ⊢
      cases ht : tls (Pin.verifier session.identity) name unread peer with
      | fault e | waiting =>
          simp only [ht] at h
          cases h
      | done s => exact ⟨name, s, rfl, ht, rfl⟩

/-- Whatever the request, none of it gets anywhere if the handshake fails. -/
theorem secure_of_fault {name : ServerName} {f : Tls.HandshakeFault}
    (hn : ServerName.parse? (bareName session.address) = some name)
    (hf : tls (Pin.verifier session.identity) name unread peer = .fault f) :
    secure tls session port p unread peer = failed (.handshake f) := by
  rw [secure, hn]
  simp only [hf]

theorem asked_secure : (secure tls session port p unread peer).asked = none := by
  unfold secure exchange
  repeat' split
  all_goals rfl

theorem attemptBy_of_meets (c : PinnedClient) {m : Meeting} {via : Bool} {asked : Option Bytes}
    (h : Meets session port m via asked unread peer) :
    attemptBy tls c session port p via m = { secure tls session port p unread peer with asked } := by
  cases h with
  | direct hd =>
      rw [attemptBy, if_neg Bool.false_ne_true, hd]
      simp only
      rw [← asked_secure]
  | proxied hp hc =>
      rw [attemptBy, if_pos rfl, hp]
      simp only [throughProxy, hc]

theorem meets_of_ok {c : PinnedClient} {m : Meeting} {via : Bool}
    (h : (attemptBy tls c session port p via m).result = .ok body) :
    ∃ asked unread peer, Meets session port m via asked unread peer := by
  cases via with
  | false =>
      cases hd : m.direct with
      | error e =>
          rw [attemptBy, if_neg Bool.false_ne_true, hd] at h
          cases h
      | ok peer => exact ⟨none, [], peer, .direct hd⟩
  | true =>
      cases hp : m.proxied with
      | error e =>
          rw [attemptBy, if_pos rfl, hp] at h
          cases h
      | ok met =>
          obtain ⟨proxy, behind⟩ := met
          rw [attemptBy, if_pos rfl, hp] at h
          cases hc : (connect session.address port none).runOn proxy with
          | mk result s =>
              rcases result with (e | _) | _
              · simp only [throughProxy, hc] at h
                cases h
              · simp only [throughProxy, hc] at h
                cases h
              · exact ⟨some s.sent, s.incoming, behind, .proxied hp hc⟩

end Secure

/-- What a pin does for an attempt, on either way to the server, if handshakes heed the verifier. -/
structure Gated (tls : Tls.Method)
    (presented? : ServerName → Bytes → Tls.Peer → Option (Pin.Presented × Bytes)) (c : PinnedClient)
    (session : Session) (port : Port) (p : RequestParameters) (via : Bool) (m : Meeting) : Prop where
  /-- An answer is the body of a complete reply of status 200 from a server that presented a pinned
  certificate and then got the request. -/
  answered : ∀ body, (attemptBy tls c session port p via m).result = .ok body →
    ∃ asked unread peer name q staple s r, Meets session port m via asked unread peer ∧
      ServerName.parse? (bareName session.address) = some name ∧
      presented? name unread peer = some (q, staple) ∧ session.identity.Pins q.certificate ∧
      tls (Pin.verifier session.identity) name unread peer = .done s ∧ q.certificate = s.certificate ∧
      p.build session port = .ok r ∧ (attemptBy tls c session port p via m).request = some r.write ∧
      Whole (s.answer r.write).2 (s.answer r.write).1 200 body
  /-- If another certificate is presented, the attempt fails, and nobody gets anything of the request: with
  another one, the attempt would be the same. -/
  withheld : ∀ asked unread peer name q staple, Meets session port m via asked unread peer →
    ServerName.parse? (bareName session.address) = some name →
    presented? name unread peer = some (q, staple) → ¬ session.identity.Pins q.certificate →
    (∃ f, (attemptBy tls c session port p via m).result = .error f ∧ f.failure.kind = .tls) ∧
      (attemptBy tls c session port p via m).request = none ∧
      ∀ p', attemptBy tls c session port p' via m = attemptBy tls c session port p via m
  /-- The verdict is on the end certificate alone. -/
  verdict : ∀ q staple, Pin.verifier session.identity q staple = none ↔ session.identity.Pins q.certificate
  indifferent : ∀ q q' staple staple', q.certificate = q'.certificate →
    Pin.verifier session.identity q staple = Pin.verifier session.identity q' staple'

/-- A pinned client answers only for the pinned server, and keeps its request from all others. -/
theorem gated_attemptBy {tls : Tls.Method}
    {presented? : ServerName → Bytes → Tls.Peer → Option (Pin.Presented × Bytes)}
    (h : tls.Heeds presented?) (c : PinnedClient) (session : Session) (port : Port) (p : RequestParameters)
    (via : Bool) (m : Meeting) : Gated tls presented? c session port p via m where
  answered := by
    intro body hok
    obtain ⟨asked, unread, peer, hm⟩ := meets_of_ok hok
    rw [attemptBy_of_meets c hm] at hok ⊢
    dsimp only at hok ⊢
    obtain ⟨name, s, hn, hs, he⟩ := secure_ok hok
    obtain ⟨q, staple, hq, hcert⟩ := h.presents hs
    have haccepted : Pin.verifier session.identity q staple = none := by
      refine Option.eq_none_iff_forall_ne_some.mpr fun reason hr => ?_
      obtain ⟨f, hf⟩ := h.aborts hq hr
      exact nomatch hs.symm.trans hf
    have hpin := Pin.verifier_eq_none_iff.mp haccepted
    rw [he] at hok ⊢
    obtain ⟨r, hr, hw, hwhole⟩ := exchange_ok hok
    exact ⟨asked, unread, peer, name, q, staple, s, r, hm, hn, hq, hpin, hs, hcert, hr, hw, hwhole⟩
  withheld := by
    intro asked unread peer name q staple hm hn hq hpin
    obtain ⟨reason, hr⟩ := Option.ne_none_iff_exists'.mp (mt Pin.verifier_eq_none_iff.mp hpin)
    obtain ⟨f, hf⟩ := h.aborts hq hr
    have hall : ∀ p', attemptBy tls c session port p' via m = { failed (.handshake f) with asked } :=
      fun p' => by rw [attemptBy_of_meets c hm, secure_of_fault hn hf]
    refine ⟨⟨.handshake f, by rw [hall]; rfl, rfl⟩, by rw [hall]; rfl, fun p' => ?_⟩
    rw [hall, hall]
  verdict := fun _ _ => Pin.verifier_eq_none_iff
  indifferent := fun _ _ _ _ hq => Pin.refusal?_congr session.identity hq

/-- The pinned server, and one with another certificate. -/
theorem gated_twoServers :
    let c : PinnedClient := ⟨"127.0.0.1:8085", 10000, 30000⟩
    let session : Session := { address := "203.0.113.10", port := 8443, identity := .certificate [1] }
    let p : RequestParameters := { path := "/status" }
    let meeting (certificate : Bytes) : Meeting :=
      ⟨.ok (.server ⟨certificate, fun _ =>
        (bytesOf "HTTP/1.1 200 OK\r\nContent-Length: 2\r\n\r\nOK", .closed)⟩), .error .refused⟩
    (∀ certificate, Gated Tls.Handshake.run Tls.Handshake.presented? c session 8443 p false
      (meeting certificate)) ∧
      (c.attempt session 8443 p false (meeting [1])).result = .ok (bytesOf "OK") ∧
      (c.attempt session 8443 p false (meeting [2])).result =
        .error (.handshake (.refused (.ip (.v4 ⟨203, 0, 113, 10⟩)) Pin.mismatchText)) :=
  ⟨fun _ => gated_attemptBy Tls.Handshake.heeds_run _ _ _ _ _ _, by decide +kernel, by decide +kernel⟩

end PinnedClient

end RouteCascade
