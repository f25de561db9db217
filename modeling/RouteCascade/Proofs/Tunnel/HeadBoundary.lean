import RouteCascade.Proofs.Http.ParsedHead
import RouteCascade.Proofs.Tunnel.ConnectReply
import RouteCascade.Proofs.Tunnel.ConnectRequest

/-!
# Where the head of a message ends

Both ends of a tunnel take a head off a stream by its last four bytes, and understand it line by line. They
do not compare the two ends: if an empty line ends in a bare line feed, whatever stands between it and the
last four bytes is taken off with the head and goes nowhere.
-/
namespace RouteCascade.Tunnel

open Text Net Http

/-- What was taken of a reply `d` that grants a tunnel, and what is left of it for the tunnel. -/
structure Granted (d left : Bytes) (k : Nat) (head : ResponseHead) (rest : Bytes) : Prop where
  first : FirstEnd d k
  fits : k ≤ maxHead
  leaves : left = d.drop k
  parsed : ResponseHead.parse Connect.maxFields (d.take k) = .done head rest
  code : head.code = 200
  boundary : Boundary (d.take k) rest

section Replies
variable {host : String} {port : Port} {authorization : Option String} {s : Stream}

/-- A tunnel is granted only by what was read after the request was handed over. -/
theorem delivers_of_granted (h : ((connect host port authorization).runOn s).1 = .ok ()) :
    s.Delivers (bytesOf (Connect.request host port authorization)).length ∧ s.mostPerRead ≠ some 0 := by
  rcases s.delivers_or (bytesOf (Connect.request host port authorization)).length with
    hd | ⟨r, hr, hlt⟩ | ⟨ht, e, he⟩
  · refine ⟨hd, fun hm => ?_⟩
    rw [Connect.runOn_connect_of_delivers hd, show maxHead = maxHead - 1 + 1 from rfl] at h
    cases hs : s.incoming with
    | nil =>
        rw [Connect.runOn_readHead_nil _ _ (by rw [Stream.wrote_incoming, hs])] at h
        cases h
    | cons b rest =>
        rw [Connect.runOn_readHead_stalled _ _ (by rw [Stream.wrote_incoming, hs])
          (by rw [Stream.wrote_mostPerRead, hm])] at h
        cases h
  · rw [Connect.runOn_connect_of_lt hr hlt] at h
    cases h
  · rw [Connect.runOn_connect_of_takes ht he] at h
    cases h

theorem granted_connect (h : ((connect host port authorization).runOn s).1 = .ok ()) :
    ∃ k head rest,
      Granted s.incoming ((connect host port authorization).runOn s).2.incoming k head rest := by
  obtain ⟨hd, hm⟩ := delivers_of_granted h
  have hread := Connect.readsReply_connect hd hm
  rw [Talk.runOn_mapFault, h] at hread
  rcases firstEnd_or_noEndWithin s.incoming maxHead with ⟨k, hk, hmax⟩ | hn
  · obtain ⟨hafter, hjudged⟩ := hread.head k hk hmax
    obtain ⟨head, rest, hparsed, hcode⟩ := hjudged.established.mp rfl
    obtain ⟨t, ht, hsplit⟩ := headText_response hparsed
    have hleft := congrArg Stream.incoming hafter
    exact ⟨k, head, rest, hk, hmax, hleft, hparsed, hcode, boundary_of_headText hk ht hsplit⟩
  · -- a reply without an end of a head grants nothing
    rcases Nat.lt_or_ge s.incoming.length maxHead with hl | hl
    · cases congrArg Prod.fst (hread.short hn hl)
    · cases congrArg Prod.fst (hread.tooLarge hn hl)

end Replies

namespace LocalProxy

variable {dial : String → Port → Except (Halt Failure) Stream} {client : Client}

/-- What was taken of the bytes `d` of a client whose target was dialed, and what the target got of them. -/
structure Dialed (dial : String → Port → Except (Halt Failure) Stream) (d : Bytes) (served : Served)
    (k : Nat) (head : RequestHead) (rest : Bytes) (host : String) (port : Port) : Prop where
  first : FirstEnd d k
  fits : k ≤ maxHead
  dialed : served.dialed = [(host, port)]
  parsed : RequestHead.parse maxFields (d.take k) = .done head rest
  method : head.method = bytesOf "CONNECT"
  target : parseHostPort head.target = .ok (host, port)
  /-- The target gets the beginning of what follows the head, and all of it if it takes it. -/
  relays : ∀ s', served.outgoing = some s' → ∃ s, dial host port = .ok s ∧
    (∃ w, w <+: d.drop k ∧ s'.sent = s.sent ++ w) ∧
    (s.Takes (d.drop k).length → s'.sent = s.sent ++ d.drop k)
  boundary : Boundary (d.take k) rest

theorem dialed_serve (h : (serve dial client).dialed ≠ []) :
    ∃ k head rest host port,
      Dialed dial client.pieces.flatten (serve dial client) k head rest host port := by
  have hread : HeadExec client.pieces.flatten (readHead [] client.pieces) := readHead_whole
  unfold serve at h ⊢
  generalize readHead [] client.pieces = reading at hread h ⊢
  cases hread with
  | tooLarge | noHead => exact absurd rfl h
  | @head k along later hk hmax hrest =>
      cases ht : target (client.pieces.flatten.take k) with
      | error fault =>
          simp only [ht] at h
          cases fault <;> exact absurd rfl h
      | ok t =>
          obtain ⟨host, port⟩ := t
          obtain ⟨head, rest, hparsed, hmethod, htarget⟩ := target_eq_ok_iff.mp ht
          obtain ⟨text, htext, hsplit⟩ := headText_request hparsed
          have hboundary := boundary_of_headText hk htext hsplit
          refine ⟨k, head, rest, host, port, hk, hmax, ?_, hparsed, hmethod, htarget, ?_, hboundary⟩
          · simp only [ht]
            cases dial host port with
            | error halt => cases halt <;> rfl
            | ok s => rfl
          · simp only [ht]
            cases dial host port with
            | error halt => cases halt <;> exact nofun
            | ok s =>
                rintro s' hs
                obtain rfl := Option.some.inj hs
                rw [sent_serveOver, hrest]
                exact ⟨s, rfl, sent_put s _, sent_put_of_takes s⟩

end LocalProxy

/-- Whatever grants a tunnel or has a target dialed was understood, and the head that was understood stands at
the beginning of the head that was taken. It is all of it unless a line ends in a bare line feed. -/
theorem boundary_of_success (host : String) (port : Port) (authorization : Option String) (s : Stream)
    (dial : String → Port → Except (Halt Failure) Stream) (client : Client) :
    (((connect host port authorization).runOn s).1 = .ok () → ∃ k head rest,
      Granted s.incoming ((connect host port authorization).runOn s).2.incoming k head rest) ∧
    ((LocalProxy.serve dial client).dialed ≠ [] → ∃ k head rest host port,
      LocalProxy.Dialed dial client.pieces.flatten (LocalProxy.serve dial client) k head rest host port) :=
  ⟨granted_connect, LocalProxy.dialed_serve⟩

theorem boundary_of_payload :
    let s : Stream := { incoming := bytesOf "HTTP/1.1 200 OK\r\n\r\npayload" }
    let client : Client := ⟨[bytesOf "CONNECT a:1 HTTP/1.1\r\n\r\npayload"], true⟩
    let served := LocalProxy.serve (fun _ _ => .ok { }) client
    (∃ k head rest, Granted s.incoming ((connect "a" 1 none).runOn s).2.incoming k head rest) ∧
      ∃ k head rest host port,
        LocalProxy.Dialed (fun _ _ => .ok { }) client.pieces.flatten served k head rest host port :=
  ⟨(boundary_of_success "a" 1 none _ (fun _ _ => .ok { }) ⟨[], true⟩).1 (by decide +kernel),
    (boundary_of_success "a" 1 none { } (fun _ _ => .ok { }) _).2 (by decide +kernel)⟩

/-- A reply and a request whose empty line ends in a bare line feed: what follows it is taken off with the
head, though it is not a part of the head that is understood, and goes nowhere. -/
theorem swallows_after_bareFeed :
    let reply := bytesOf "HTTP/1.1 200 OK\n\nhello\r\n\r\n"
    let sent := bytesOf "CONNECT a:1 HTTP/1.1\n\nhello\r\n\r\n"
    (∃ head, ResponseHead.parse Connect.maxFields reply = .done head (bytesOf "hello\r\n\r\n")) ∧
      ((connect "a" 1 none).runOn { incoming := reply }).1 = .ok () ∧
      ((connect "a" 1 none).runOn { incoming := reply }).2.incoming = [] ∧
      (∃ head, RequestHead.parse LocalProxy.maxFields sent = .done head (bytesOf "hello\r\n\r\n")) ∧
      LocalProxy.serve (fun _ _ => .ok { }) ⟨[sent], true⟩ =
        { dialed := [("a", 1)], received := bytesOf LocalProxy.established, outgoing := some { },
          ending := .finished } := by
  refine ⟨⟨⟨1, 200, []⟩, ?_⟩, ?_, ?_, ⟨⟨bytesOf "CONNECT", "a:1", 1, []⟩, ?_⟩, ?_⟩ <;> decide +kernel

end RouteCascade.Tunnel
