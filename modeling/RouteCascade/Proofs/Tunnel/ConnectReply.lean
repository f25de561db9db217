import RouteCascade.Proofs.Http.HeadEnd
import RouteCascade.Proofs.Tunnel.Talk
import RouteCascade.Tunnel.Connect

/-!
# The reply of a proxy

What follows the head of a proxy's reply belongs to whoever uses the tunnel, so not one byte of it may be
read. The head is read byte by byte, and no byte before the request is written and handed over.
-/
namespace RouteCascade.Tunnel

open Text Net Http

namespace Connect

theorem headEndBackwards_prefix_iff {bs : Bytes} :
    headEndBackwards.isPrefixOf bs ↔ headEnd <:+ bs.reverse := by
  rw [List.isPrefixOf_iff_prefix, ← List.reverse_prefix, List.reverse_reverse]
  rfl

/-- Why there is no more of a reply. -/
def noMore : StreamEnd → Halt ConnectFault
  | .closed => .fault .closed
  | .failed e => .fault (.notRead e)
  | .silent => .waiting

section Reading
variable {s : Stream} {b : UInt8} {rest : Bytes} (left : Nat) (acc : Bytes)

theorem runOn_readHead_nil (hs : s.incoming = []) :
    (readHead (left + 1) acc).runOn s = (.error (noMore s.ending), s) := by
  rw [readHead, Talk.runOn_bind, Talk.runOn_mapFault, Talk.runOn_read_nil hs]
  cases s.ending <;> simp [Halt.map, noMore]

theorem runOn_readHead_cons (hs : s.incoming = b :: rest) (hm : s.mostPerRead ≠ some 0) :
    (readHead (left + 1) acc).runOn s =
      if headEndBackwards.isPrefixOf (b :: acc) then (.ok (b :: acc).reverse, { s with incoming := rest })
      else (readHead left (b :: acc)).runOn { s with incoming := rest } := by
  rw [readHead, Talk.runOn_bind, Talk.runOn_mapFault, Talk.runOn_read_one hs hm]
  simp only [mapError_ok]
  split <;> rfl

/-- A read that gives nothing is taken for the end. -/
theorem runOn_readHead_stalled (hs : s.incoming = b :: rest) (hm : s.mostPerRead = some 0) :
    (readHead (left + 1) acc).runOn s = (.error (.fault .closed), s) := by
  have hzero : min 1 (s.mostPerRead.getD 1) = 0 := by simp [hm]
  rw [readHead, Talk.runOn_bind, Talk.runOn_mapFault, Talk.runOn_read_cons hs, hzero]
  simp [← hs]

/-- Reading a head writes nothing. -/
theorem sent_readHead : ((readHead left acc).runOn s).2.sent = s.sent := by
  induction left generalizing acc s with
  | zero => rfl
  | succ left ih =>
      cases hs : s.incoming with
      | nil => rw [runOn_readHead_nil left acc hs]
      | cons b rest =>
          by_cases hm : s.mostPerRead = some 0
          · rw [runOn_readHead_stalled left acc hs hm]
          · rw [runOn_readHead_cons left acc hs hm]
            split
            · rfl
            · rw [ih]

/-- What reading the head of a reply comes to if `d` is all of the reply and a limit is set to the head. -/
inductive ReplyExec (d : Bytes) (limit : Nat) (s : Stream) :
    Except (Halt ConnectFault) Bytes × Stream → Prop
  | head {k : Nat} (first : FirstEnd d k) (fits : k ≤ limit) :
      ReplyExec d limit s (.ok (d.take k), { s with incoming := d.drop k })
  | tooLarge (none : NoEndWithin limit d) (full : limit ≤ d.length) :
      ReplyExec d limit s (.error (.fault .tooLarge), { s with incoming := d.drop limit })
  | ended (none : NoEndWithin limit d) (short : d.length < limit) :
      ReplyExec d limit s (.error (noMore s.ending), { s with incoming := [] })

theorem ReplyExec.of_rest {d : Bytes} {limit : Nat} {x : Except (Halt ConnectFault) Bytes × Stream}
    (h : ReplyExec d limit { s with incoming := rest } x) : ReplyExec d limit s x := by
  cases h with
  | head first fits => exact .head first fits
  | tooLarge none full => exact .tooLarge none full
  | ended none short => exact .ended none short

/-- Reading goes on byte by byte, and no head has ended in the bytes that were read. -/
theorem readHead_exec (hm : s.mostPerRead ≠ some 0)
    (hn : NoEndWithin acc.length (acc.reverse ++ s.incoming)) :
    ReplyExec (acc.reverse ++ s.incoming) (acc.length + left) s ((readHead left acc).runOn s) := by
  induction left generalizing acc s with
  | zero =>
      have hx := ReplyExec.tooLarge (s := s) hn (by simp)
      rwa [List.drop_append_of_le_length (by simp), List.drop_of_length_le (by simp)] at hx
  | succ left ih =>
      cases hs : s.incoming with
      | nil =>
          rw [hs, List.append_nil] at hn
          have hn' : NoEndWithin acc.reverse.length acc.reverse := by rwa [List.length_reverse]
          have hself : { s with incoming := [] } = s := by rw [← hs]
          have hx := ReplyExec.ended (s := s) (hn'.of_length (acc.length + (left + 1)))
            (by rw [List.length_reverse]; omega)
          rw [hself] at hx
          rwa [runOn_readHead_nil left acc hs, List.append_nil]
      | cons b rest =>
          -- one more byte is looked at
          have hd : acc.reverse ++ b :: rest = (b :: acc).reverse ++ rest := by simp
          have hlen : (b :: acc).reverse.length = acc.length + 1 := by simp
          have htake : ((b :: acc).reverse ++ rest).take (acc.length + 1) = (b :: acc).reverse :=
            List.take_left' hlen
          have hdrop : ((b :: acc).reverse ++ rest).drop (acc.length + 1) = rest := List.drop_left' hlen
          rw [hs, hd] at hn
          rw [hd, runOn_readHead_cons left acc hs hm]
          split
          · rename_i hp
            have he := headEndBackwards_prefix_iff.mp hp
            rw [← htake] at he
            have hfirst := hn.firstEnd (by simp) he
            have hx := ReplyExec.head (s := s) hfirst (Nat.add_le_add_left (Nat.le_add_left 1 left) _)
            rwa [htake, hdrop] at hx
          · rename_i hp
            have hnone := hn.succ fun he => hp (headEndBackwards_prefix_iff.mpr (htake ▸ he))
            have hx := ih (b :: acc) (s := { s with incoming := rest }) hm hnone
            rw [List.length_cons, Nat.add_right_comm] at hx
            exact hx.of_rest

theorem readHead_whole (hm : s.mostPerRead ≠ some 0) :
    ReplyExec s.incoming maxHead s ((readHead maxHead []).runOn s) := by
  have hx := readHead_exec maxHead [] hm (noEndWithin_zero _)
  rwa [List.length_nil, Nat.zero_add] at hx

end Reading

/-- What the head of a reply means for who asked for a tunnel to a target. -/
structure Judged (target : String) (head : Bytes) (result : Except (Halt Failure) Unit) : Prop where
  established : result = .ok () ↔
    ∃ h rest, ResponseHead.parse maxFields head = .done h rest ∧ h.code = 200
  credentials : ∀ h rest, ResponseHead.parse maxFields head = .done h rest → h.code = 407 →
    result = .error (.fault ⟨.auth, "Proxy authentication required"⟩)
  refused : ∀ h rest, ResponseHead.parse maxFields head = .done h rest → h.code ≠ 200 → h.code ≠ 407 →
    result = .error (.fault ⟨.connection, s!"CONNECT to {target} failed with status {h.code}"⟩)
  malformed : ∀ f, ResponseHead.parse maxFields head = .bad f →
    result = .error (.fault ⟨.protocol, s!"Malformed CONNECT response: {f.message}"⟩)
  noStatus : ResponseHead.parse maxFields head = .more →
    result = .error (.fault ⟨.protocol, "CONNECT response without status"⟩)

theorem judged_verdict (target : String) (head : Bytes) :
    Judged target head (((verdict target head).mapError .fault).mapError (Halt.map ConnectFault.failure)) := by
  rw [verdict]
  cases hp : ResponseHead.parse maxFields head with
  | bad f => constructor <;> simp [hp, Halt.map, ConnectFault.failure]
  | more => constructor <;> simp [hp, Halt.map, ConnectFault.failure]
  | done h rest =>
      by_cases h200 : h.code = 200
      · constructor <;> simp +contextual [hp, h200]
      · by_cases h407 : h.code = 407
        · constructor <;> simp +contextual [hp, h407, Halt.map, ConnectFault.failure]
        · constructor <;>
            simp +contextual [hp, h200, h407, Halt.map, ConnectFault.failure]

/-- What is read of the reply once the request is on its way. -/
structure ReadsReply (target : String) (s : Stream) (x : Except (Halt Failure) Unit × Stream) : Prop where
  head : ∀ k, FirstEnd s.incoming k → k ≤ maxHead →
    x.2 = { s with incoming := s.incoming.drop k } ∧ Judged target (s.incoming.take k) x.1
  tooLarge : NoEndWithin maxHead s.incoming → maxHead ≤ s.incoming.length →
    x = (.error (.fault ⟨.connection, "CONNECT response too large"⟩),
      { s with incoming := s.incoming.drop maxHead })
  short : NoEndWithin maxHead s.incoming → s.incoming.length < maxHead →
    x = (.error (match s.ending with
        | .closed => .fault ⟨.connection, "Connection closed during CONNECT"⟩
        | .failed e => .fault ⟨.connection, s!"Failed to read CONNECT response: {e}"⟩
        | .silent => .waiting),
      { s with incoming := [] })

/-- What asking for a tunnel does to a stream, and what comes of it. -/
structure TakesOnlyHead (request : Bytes) (target : String) (s : Stream)
    (x : Except (Halt Failure) Unit × Stream) : Prop where
  written : ∃ w, w <+: request ∧ x.2.sent = s.sent ++ w
  /-- Nothing is read before the request is written and handed over. -/
  readsLast : x.2.incoming ≠ s.incoming → s.Delivers request.length ∧ x.2.sent = s.sent ++ request
  unsent : ∀ r, s.room = some r → r < request.length →
    x = (.error (.fault ⟨.connection,
        s!"Failed to send CONNECT request: {s.fullError.getD Talk.nothingTaken}"⟩),
      s.wrote (request.take r))
  unflushed : ∀ e, s.Takes request.length → s.flushError = some e →
    x = (.error (.fault ⟨.io, e⟩), s.wrote request)
  reads : s.Delivers request.length → s.mostPerRead ≠ some 0 → ReadsReply target (s.wrote request) x
  /-- A stream that gives no bytes at a time is at its end. -/
  stalled : s.Delivers request.length → s.mostPerRead = some 0 → s.incoming ≠ [] →
    x = (.error (.fault ⟨.connection, "Connection closed during CONNECT"⟩), s.wrote request)

section Connect
variable {host : String} {port : Port} {authorization : Option String} {s : Stream}

theorem runOn_connect_of_lt {r : Nat} (hr : s.room = some r)
    (h : r < (bytesOf (request host port authorization)).length) :
    (connect host port authorization).runOn s =
      (.error (.fault (.notSent (s.fullError.getD Talk.nothingTaken))),
        s.wrote ((bytesOf (request host port authorization)).take r)) := by
  rw [connect, Talk.runOn_bind, Talk.runOn_mapFault, Talk.runOn_write_of_lt hr h]
  rfl

theorem runOn_connect_of_takes (h : s.Takes (bytesOf (request host port authorization)).length)
    {e : String} (he : s.flushError = some e) :
    (connect host port authorization).runOn s =
      (.error (.fault (.notFlushed e)), s.wrote (bytesOf (request host port authorization))) := by
  rw [connect, Talk.runOn_bind, Talk.runOn_mapFault, Talk.runOn_write_of_takes h]
  simp only [mapError_ok, Talk.runOn_bind, Talk.runOn_mapFault, Talk.runOn_flush,
    Stream.wrote_flushError, he]
  rfl

theorem runOn_connect_of_delivers (h : s.Delivers (bytesOf (request host port authorization)).length) :
    (connect host port authorization).runOn s =
      match (readHead maxHead []).runOn (s.wrote (bytesOf (request host port authorization))) with
      | (.ok head, s) => ((verdict (hostPort host port) head).mapError .fault, s)
      | (.error halt, s) => (.error halt, s) := by
  rw [connect, Talk.runOn_bind, Talk.runOn_mapFault, Talk.runOn_write_of_takes h.takes]
  simp only [mapError_ok, Talk.runOn_bind, Talk.runOn_mapFault, Talk.runOn_flush,
    Stream.wrote_flushError, h.flushes]
  rcases (readHead maxHead []).runOn (s.wrote _) with ⟨halt | head, s'⟩
  · rfl
  · cases hv : verdict (hostPort host port) head <;> simp [hv]

theorem sent_connect_of_delivers (h : s.Delivers (bytesOf (request host port authorization)).length) :
    ((connect host port authorization).runOn s).2.sent =
      s.sent ++ bytesOf (request host port authorization) := by
  rw [runOn_connect_of_delivers h, ← Stream.wrote_sent]
  generalize s.wrote (bytesOf (request host port authorization)) = s'
  rw [← sent_readHead (s := s') maxHead []]
  rcases (readHead maxHead []).runOn s' with ⟨halt | head, after⟩ <;> rfl

theorem readsReply_connect (h : s.Delivers (bytesOf (request host port authorization)).length)
    (hm : s.mostPerRead ≠ some 0) :
    ReadsReply (hostPort host port) (s.wrote (bytesOf (request host port authorization)))
      (((connect host port authorization).mapFault ConnectFault.failure).runOn s) := by
  rw [Talk.runOn_mapFault, runOn_connect_of_delivers h]
  generalize hs' : s.wrote (bytesOf (request host port authorization)) = s'
  have hm' : s'.mostPerRead ≠ some 0 := by rwa [← hs']
  have hx := readHead_whole hm'
  generalize (readHead maxHead []).runOn s' = y at hx
  constructor
  · intro k hk hfits
    cases hx with
    | head first fits =>
        rw [first.unique hk]
        exact ⟨rfl, judged_verdict _ _⟩
    | tooLarge none | ended none => exact absurd hk.ends (none k hfits)
  · intro hn hl
    cases hx with
    | head first fits => exact absurd first.ends (hn _ fits)
    | tooLarge => rfl
    | ended _ short => exact absurd short (Nat.not_lt.mpr hl)
  · intro hn hl
    cases hx with
    | head first fits => exact absurd first.ends (hn _ fits)
    | tooLarge _ full => exact absurd full (Nat.not_le.mpr hl)
    | ended => cases s'.ending <;> rfl

end Connect

/-- A tunnel is asked for with all of the request, and then no more than the head of the reply is read. -/
theorem takesOnlyHead_connect (host : String) (port : Port) (authorization : Option String) (s : Stream) :
    TakesOnlyHead (bytesOf (request host port authorization)) (hostPort host port) s
      (((connect host port authorization).mapFault ConnectFault.failure).runOn s) := by
  refine ⟨?_, ?_, ?_, ?_, readsReply_connect, ?_⟩ <;> rw [Talk.runOn_mapFault]
  · rcases s.delivers_or (bytesOf (request host port authorization)).length with
      hd | ⟨r, hr, hlt⟩ | ⟨ht, e, he⟩
    · exact ⟨_, List.prefix_refl _, sent_connect_of_delivers hd⟩
    · exact ⟨_, List.take_prefix r _, by rw [runOn_connect_of_lt hr hlt, Stream.wrote_sent]⟩
    · exact ⟨_, List.prefix_refl _, by rw [runOn_connect_of_takes ht he, Stream.wrote_sent]⟩
  · intro hread
    rcases s.delivers_or (bytesOf (request host port authorization)).length with
      hd | ⟨r, hr, hlt⟩ | ⟨ht, e, he⟩
    · exact ⟨hd, sent_connect_of_delivers hd⟩
    · exact absurd (by rw [runOn_connect_of_lt hr hlt, Stream.wrote_incoming]) hread
    · exact absurd (by rw [runOn_connect_of_takes ht he, Stream.wrote_incoming]) hread
  · intro r hr hlt
    rw [runOn_connect_of_lt hr hlt]
    rfl
  · intro e ht he
    rw [runOn_connect_of_takes ht he]
    rfl
  · intro hd hm hne
    obtain ⟨b, rest, hs⟩ := List.exists_cons_of_ne_nil hne
    have hstalled := runOn_readHead_stalled (maxHead - 1) []
      (s := s.wrote (bytesOf (request host port authorization))) hs hm
    rw [runOn_connect_of_delivers hd, show maxHead = maxHead - 1 + 1 from rfl, hstalled]
    rfl

-- What comes right after the head is left.
example :
    ((connect "a" 1 none).runOn { incoming := bytesOf "HTTP/1.1 200 OK\r\n\r\npayload" }).2.incoming =
      bytesOf "payload" := by
  decide +kernel

end Connect

end RouteCascade.Tunnel
