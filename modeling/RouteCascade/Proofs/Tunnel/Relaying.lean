import RouteCascade.Proofs.Http.HeadEnd
import RouteCascade.Proofs.Tunnel.Talk
import RouteCascade.Tunnel.LocalProxy

/-!
# Relaying

The local proxy sees what a client sends in pieces of any size, and the head of the request can end in
the middle of one. What it does depends on the bytes alone: up to the end of the head they are its
own, and every byte after that goes to the target, once and in order.
-/
namespace RouteCascade.Tunnel

open Text Net Http

namespace LocalProxy

section Reading

/-- What reading a head comes to if these are all the bytes of the client. -/
inductive HeadExec (d : Bytes) : HeadReading → Prop
  | head {e : Nat} {along : Bytes} {later : List Bytes} (first : FirstEnd d e) (fits : e ≤ maxHead)
      (rest : along ++ later.flatten = d.drop e) : HeadExec d (.head (d.take e) along later)
  | tooLarge (none : NoEndWithin maxHead d) (full : maxHead ≤ d.length) : HeadExec d .tooLarge
  | noHead (none : NoEndWithin maxHead d) (short : d.length < maxHead) : HeadExec d .noHead

/-- Reading goes on only while no head has ended in the buffer and there is room in it. -/
theorem readHead_exec {buffer : Bytes} (hb : buffer.length < maxHead) (hn : endOf? buffer = none)
    (pieces : List Bytes) : HeadExec (buffer ++ pieces.flatten) (readHead buffer pieces) := by
  induction pieces generalizing buffer with
  | nil =>
      rw [List.flatten_nil, List.append_nil]
      exact .noHead (fun k _ => endOf?_eq_none_iff.mp hn k) hb
  | cons piece later ih =>
      -- what is in the buffer now is the beginning of all the bytes that have come
      have hfill : buffer ++ piece.take (maxHead - buffer.length) = (buffer ++ piece).take maxHead := by
        rw [List.take_append, List.take_of_length_le (Nat.le_of_lt hb)]
      have hdrop : (buffer ++ piece).drop maxHead = piece.drop (maxHead - buffer.length) := by
        rw [List.drop_append, List.drop_of_length_le (Nat.le_of_lt hb), List.nil_append]
      simp only [readHead, List.flatten_cons, hfill, ← hdrop, ← List.append_assoc]
      generalize buffer ++ piece = seen at *
      split
      · rename_i e he
        obtain ⟨hfirst, hmax⟩ := firstEnd_take_iff.mp (endOf?_eq_some_iff.mp he)
        have hlen := hfirst.fits
        have hhead : (seen.take maxHead).take e = (seen ++ later.flatten).take e := by
          rw [List.take_take, Nat.min_eq_left hmax, List.take_append_of_le_length hlen]
        rw [hhead]
        refine .head (hfirst.append _) hmax ?_
        rw [List.drop_append_of_le_length hlen, List.flatten_cons, ← List.append_assoc,
          ← List.drop_append_of_le_length, List.take_append_drop]
        rw [List.length_take]
        omega
      · rename_i he
        have hnone := endOf?_take_eq_none_iff.mp he
        split
        · rename_i hfull
          rw [List.length_take] at hfull
          refine .tooLarge (fun k hk => ?_) (by rw [List.length_append]; omega)
          rw [List.take_append_of_le_length (by omega)]
          exact hnone k hk
        · rename_i hroom
          rw [List.length_take] at hroom
          have hseen : seen.take maxHead = seen := List.take_of_length_le (by omega)
          rw [hseen] at he ⊢
          exact ih (by omega) he

variable {pieces : List Bytes}

theorem readHead_whole : HeadExec pieces.flatten (readHead [] pieces) :=
  readHead_exec (show ([] : Bytes).length < maxHead by decide) rfl pieces

theorem readHead_of_firstEnd {e : Nat} (h : FirstEnd pieces.flatten e) (hm : e ≤ maxHead) :
    ∃ along later, along ++ later.flatten = pieces.flatten.drop e ∧
      readHead [] pieces = .head (pieces.flatten.take e) along later := by
  have hx : HeadExec pieces.flatten (readHead [] pieces) := readHead_whole
  generalize readHead [] pieces = reading at hx
  cases hx with
  | head first _ rest =>
      rw [first.unique h] at rest ⊢
      exact ⟨_, _, rest, rfl⟩
  | tooLarge none | noHead none => exact absurd h.ends (none e hm)

theorem readHead_of_full (h : NoEndWithin maxHead pieces.flatten) (hl : maxHead ≤ pieces.flatten.length) :
    readHead [] pieces = .tooLarge := by
  have hx : HeadExec pieces.flatten (readHead [] pieces) := readHead_whole
  generalize readHead [] pieces = reading at hx
  cases hx with
  | head first fits => exact absurd first.ends (h _ fits)
  | tooLarge => rfl
  | noHead _ short => exact absurd short (Nat.not_lt.mpr hl)

theorem readHead_of_short (h : NoEndWithin maxHead pieces.flatten) (hl : pieces.flatten.length < maxHead) :
    readHead [] pieces = .noHead := by
  have hx : HeadExec pieces.flatten (readHead [] pieces) := readHead_whole
  generalize readHead [] pieces = reading at hx
  cases hx with
  | head first fits => exact absurd first.ends (h _ fits)
  | tooLarge _ full => exact absurd full (Nat.not_le.mpr hl)
  | noHead => rfl

end Reading

section Relay
variable {s : Stream} {bs : Bytes}

theorem put_of_takes (h : s.Takes bs.length) : put bs s = (none, s.wrote bs) := by
  cases bs with
  | nil => simp [put]
  | cons b bs => simp [put, Talk.runOn_write_of_takes h]

theorem put_of_lt {r : Nat} (hr : s.room = some r) (h : r < bs.length) :
    put bs s = (some (s.fullError.getD Talk.nothingTaken), s.wrote (bs.take r)) := by
  cases bs with
  | nil => exact absurd h (Nat.not_lt_zero r)
  | cons b bs => simp [put, Talk.runOn_write_of_lt hr h]

/-- Some bytes and then some more are written as all of them are at once. -/
theorem put_append (a b : Bytes) (s : Stream) :
    put (a ++ b) s = match put a s with
      | (some e, s) => (some e, s)
      | (none, s) => put b s := by
  rcases s.takes_or_lt a.length with ha | ⟨r, hr, hlt⟩
  · rw [put_of_takes ha]
    rcases (s.wrote a).takes_or_lt b.length with hb | ⟨r, hr, hlt⟩
    · simp only [put_of_takes (ha.append hb), put_of_takes hb, Stream.wrote_wrote]
    · obtain ⟨r', hs, rfl⟩ := Option.map_eq_some_iff.mp hr
      have hle := ha r' hs
      have hab : r' < (a ++ b).length := by rw [List.length_append]; omega
      simp only [put_of_lt hr hlt, put_of_lt hs hab, Stream.wrote_wrote, List.take_append,
        List.take_of_length_le hle, Stream.wrote_fullError]
  · have hab : r < (a ++ b).length := by rw [List.length_append]; omega
    rw [put_of_lt hr hlt, put_of_lt hr hab, List.take_append_of_le_length (Nat.le_of_lt hlt)]

/-- It makes no difference whether bytes came along with the head or later. -/
theorem serveOver_eq_relay (along later : Bytes) (s : Stream) :
    serveOver along later true s = relay (along ++ later) true s := by
  rw [serveOver, relay, put_append]
  rcases put along s with ⟨_ | e, s⟩ <;> rfl

/-- Whatever becomes of it, the target got the beginning of what was to be relayed. -/
theorem relay_sent (later : Bytes) (s : Stream) :
    ∃ w, w <+: later ∧ (relay later true s).2.1.sent = s.sent ++ w := by
  rcases s.takes_or_lt later.length with h | ⟨r, hr, hlt⟩
  · refine ⟨later, List.prefix_refl later, ?_⟩
    rw [relay, put_of_takes h]
    cases hf : s.flushError <;> simp [hf]
  · refine ⟨later.take r, List.take_prefix r later, ?_⟩
    rw [relay, put_of_lt hr hlt]
    rfl

theorem relay_of_delivers {later : Bytes} (h : s.Delivers later.length) (he : s.ending = .closed) :
    relay later true s = (s.incoming, { s.wrote later with incoming := [] }, .finished) := by
  rw [relay, put_of_takes h.takes]
  simp [h.flushes, he]

end Relay

section Serve
variable (dial : String → Port → Except (Halt Failure) Stream)

def AsksFor (head : Bytes) (host : String) (port : Port) : Prop :=
  ∃ h rest, RequestHead.parse maxFields head = .done h rest ∧ h.method = bytesOf "CONNECT" ∧
    parseHostPort h.target = .ok (host, port)

theorem target_eq_ok_iff {head : Bytes} {host : String} {port : Port} :
    target head = .ok (host, port) ↔ AsksFor head host port := by
  rw [target, AsksFor]
  cases RequestHead.parse maxFields head with
  | bad e => simp
  | more => simp [show ([] : Bytes) ≠ bytesOf "CONNECT" by decide +kernel]
  | done h rest =>
      by_cases hm : h.method = bytesOf "CONNECT"
      · cases hp : parseHostPort h.target <;> simp [hm, hp]
      · simp [hm]

/-- The bytes that a client sends might as well come all at once. -/
theorem serve_pieces (pieces : List Bytes) :
    serve dial ⟨pieces, true⟩ = serve dial ⟨[pieces.flatten], true⟩ := by
  have hone : [pieces.flatten].flatten = pieces.flatten := by simp
  rcases firstEnd_or_noEndWithin pieces.flatten maxHead with ⟨e, he, hm⟩ | hn
  · obtain ⟨along, later, hrest, hread⟩ := readHead_of_firstEnd he hm
    obtain ⟨along', later', hrest', hread'⟩ := readHead_of_firstEnd (hone.symm ▸ he) hm
    rw [hone] at hread' hrest'
    simp only [serve, hread, hread', serveOver_eq_relay, hrest, hrest']
  · rcases Nat.lt_or_ge pieces.flatten.length maxHead with hl | hl
    · have hread := readHead_of_short hn hl
      have hread' := readHead_of_short (hone.symm ▸ hn) (hone.symm ▸ hl)
      simp only [serve, hread, hread']
    · have hread := readHead_of_full hn hl
      have hread' := readHead_of_full (hone.symm ▸ hn) (hone.symm ▸ hl)
      simp only [serve, hread, hread']

/-- Nothing is dialed unless a head asks for it, and only what follows the head is relayed. -/
theorem serve_cases (pieces : List Bytes) :
    ((serve dial ⟨pieces, true⟩).dialed = [] ∧ (serve dial ⟨pieces, true⟩).outgoing = none) ∨
      ∃ e host port, FirstEnd pieces.flatten e ∧ e ≤ maxHead ∧
        AsksFor (pieces.flatten.take e) host port ∧
        (serve dial ⟨pieces, true⟩).dialed = [(host, port)] ∧
        ∀ s', (serve dial ⟨pieces, true⟩).outgoing = some s' →
          ∃ s, dial host port = .ok s ∧ s' = (relay (pieces.flatten.drop e) true s).2.1 := by
  rcases firstEnd_or_noEndWithin pieces.flatten maxHead with ⟨e, he, hm⟩ | hn
  · obtain ⟨along, later, hrest, hread⟩ := readHead_of_firstEnd he hm
    simp only [serve, hread, serveOver_eq_relay, hrest]
    cases ht : target (pieces.flatten.take e) with
    | error fault => cases fault <;> exact .inl ⟨rfl, rfl⟩
    | ok t =>
        obtain ⟨host, port⟩ := t
        refine .inr ⟨e, host, port, he, hm, target_eq_ok_iff.mp ht, ?_⟩
        cases hd : dial host port with
        | error halt => cases halt <;> simp [hd]
        | ok s => simp [hd, eq_comm]
  · rcases Nat.lt_or_ge pieces.flatten.length maxHead with hl | hl
    · simp [serve, readHead_of_short hn hl]
    · simp [serve, readHead_of_full hn hl]

/-- What is done for a client, told by its bytes `d`. -/
structure Transparent (d : Bytes) (served : Served) : Prop where
  /-- The target gets what follows the head, and the client what the target replies. -/
  relayed : ∀ e host port s, FirstEnd d e → e ≤ maxHead → AsksFor (d.take e) host port →
    dial host port = .ok s → s.Delivers (d.drop e).length → s.ending = .closed →
    served = { dialed := [(host, port)], received := bytesOf established ++ s.incoming,
               outgoing := some { s.wrote (d.drop e) with incoming := [] }, ending := .finished }
  unreached : ∀ e host port f, FirstEnd d e → e ≤ maxHead → AsksFor (d.take e) host port →
    dial host port = .error (.fault f) →
    served = { dialed := [(host, port)], received := bytesOf (badGateway f), ending := .failed (.dial f) }
  /-- Only what a head asks for is dialed. -/
  dials : ∀ t ∈ served.dialed, ∃ e, FirstEnd d e ∧ e ≤ maxHead ∧ AsksFor (d.take e) t.1 t.2
  /-- Whatever becomes of the stream, nothing but the beginning of what follows the head got there. -/
  forwards : ∀ s', served.outgoing = some s' → ∃ e host port s w, FirstEnd d e ∧ e ≤ maxHead ∧
    served.dialed = [(host, port)] ∧ dial host port = .ok s ∧ w <+: d.drop e ∧ s'.sent = s.sent ++ w
  tooLarge : NoEndWithin maxHead d → maxHead ≤ d.length →
    served = { received := bytesOf tooLarge, ending := .failed .headTooLarge }
  unfinished : NoEndWithin maxHead d → d.length < maxHead → served = { ending := .failed .earlyEnd }

/-- What the local proxy does depends on the bytes of a client, not on the pieces in which they come. -/
theorem serve_transparent (pieces : List Bytes) :
    serve dial ⟨pieces, true⟩ = serve dial ⟨[pieces.flatten], true⟩ ∧
      Transparent dial pieces.flatten (serve dial ⟨pieces, true⟩) := by
  refine ⟨serve_pieces dial pieces, ?_, ?_, ?_, ?_, ?_, ?_⟩
  · intro e host port s he hm ha hd hs hend
    obtain ⟨along, later, hrest, hread⟩ := readHead_of_firstEnd he hm
    simp only [serve, hread, target_eq_ok_iff.mpr ha, hd, serveOver_eq_relay, hrest,
      relay_of_delivers hs hend]
  · intro e host port f he hm ha hd
    obtain ⟨along, later, hrest, hread⟩ := readHead_of_firstEnd he hm
    simp only [serve, hread, target_eq_ok_iff.mpr ha, hd]
  · intro t ht
    rcases serve_cases dial pieces with ⟨hnone, -⟩ | ⟨e, host, port, he, hm, ha, hd, -⟩
    · rw [hnone] at ht
      cases ht
    · rw [hd, List.mem_singleton] at ht
      subst ht
      exact ⟨e, he, hm, ha⟩
  · intro s' hs
    rcases serve_cases dial pieces with ⟨-, hnone⟩ | ⟨e, host, port, he, hm, -, hd, hout⟩
    · rw [hnone] at hs
      cases hs
    · obtain ⟨s, hdial, rfl⟩ := hout s' hs
      obtain ⟨w, hw, hsent⟩ := relay_sent (pieces.flatten.drop e) s
      exact ⟨e, host, port, s, w, he, hm, hd, hdial, hw, hsent⟩
  · intro hn hl
    simp only [serve, readHead_of_full hn hl]
  · intro hn hl
    simp only [serve, readHead_of_short hn hl, if_true]

-- The end of the head comes in two pieces, and a byte for the target comes along with it.
example :
    serve (fun _ _ => .ok { incoming := bytesOf "hi" })
        ⟨[bytesOf "CONNECT a:1 HTTP/1.1\r\n\r", bytesOf "\nx", bytesOf "yz"], true⟩ =
      { dialed := [("a", 1)], received := bytesOf established ++ bytesOf "hi",
        outgoing := some { sent := bytesOf "xyz" }, ending := .finished } := by
  decide +kernel

end Serve

end LocalProxy

end RouteCascade.Tunnel
