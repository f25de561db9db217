import RouteCascade.Proofs.Tunnel.ConnectReply
import RouteCascade.Proofs.Tunnel.Discretion
import RouteCascade.Proofs.Tunnel.Reading

/-!
# Gateways that do not speak their protocol

A gateway may say no, say nothing more, or say something that is no answer at all. What it has said when the
client gives up tells which: a whole head that cannot be read, or the few bytes of a SOCKS message that make no
sense where they stand. Only then is the failure one of the protocol.
-/
namespace RouteCascade.Tunnel

open Text Net Http Talk

/-- A failure is one of the protocol if and only if the gateway is to blame for it, by what it has said. -/
def Blames {ε : Type} (failure : ε → Failure) (misspoken : Bytes → Prop) (halt : Halt ε) (c : Bytes) : Prop :=
  ∀ e, halt = .fault e → ((failure e).kind = .protocol ↔ misspoken c)

section Blames
variable {ε : Type} {failure : ε → Failure} {misspoken : Bytes → Prop} {e : ε} {c : Bytes} {f : String → ε}

theorem blames_of_ne (he : (failure e).kind ≠ .protocol) (hc : ¬ misspoken c) :
    Blames failure misspoken (.fault e) c := by
  rintro _ ⟨rfl⟩
  exact iff_of_false he hc

theorem blames_of_eq (he : (failure e).kind = .protocol) (hc : misspoken c) :
    Blames failure misspoken (.fault e) c := by
  rintro _ ⟨rfl⟩
  exact iff_of_true he hc

/-- A halt that comes of the stream alone. -/
theorem blames_map (hf : ∀ text, (failure (f text)).kind ≠ .protocol) (hc : ¬ misspoken c)
    (halt : Halt String) : Blames failure misspoken (halt.map f) c := by
  cases halt with
  | fault text => exact blames_of_ne (hf text) hc
  | waiting => exact nofun

/-- After a gateway has said `c`, something is sent to it. -/
theorem blames_write (hf : ∀ text, (failure (f text)).kind ≠ .protocol) (hc : ¬ misspoken c) (bs : Bytes) :
    ((write bs).mapFault f).Reads (fun _ d => d = [])
      fun halt d => Blames failure misspoken halt (c ++ d) := by
  refine .mapFault (reads_write rfl fun e => blames_map hf ?_ _)
  rwa [List.append_nil]

/-- After a gateway has said `c`, it should say `n` bytes more. -/
theorem blames_readExactly (hf : ∀ text, (failure (f text)).kind ≠ .protocol) {n : Nat}
    (hc : ∀ d, d.length < n → ¬ misspoken (c ++ d)) :
    ((readExactly n).mapFault f).Reads (fun bs d => d = bs ∧ d.length = n)
      fun halt d => Blames failure misspoken halt (c ++ d) :=
  .mapFault (reads_readExactly (fun _ hbs => ⟨rfl, hbs⟩) fun e d hd => blames_map hf (hc d hd) e)

end Blames

namespace Connect

/-- What an HTTP gateway has said is a whole head, but none that can be read. -/
structure Misspoken (c : Bytes) : Prop where
  whole : FirstEnd c c.length
  fits : c.length ≤ maxHead
  unread : ∀ h rest, ResponseHead.parse maxFields c ≠ .done h rest

theorem not_misspoken_nil : ¬ Misspoken [] := by
  intro h
  have := four_le_of_suffix_take h.whole.ends
  contradiction

theorem not_misspoken_take {d : Bytes} {n : Nat} (h : NoEndWithin n d) : ¬ Misspoken (d.take n) := by
  intro hc
  obtain ⟨hd, hle⟩ := firstEnd_take_iff.mp hc.whole
  exact h _ hle hd.ends

theorem blames_noMore (ending : StreamEnd) {c : Bytes} (hc : ¬ Misspoken c) :
    Blames ConnectFault.failure Misspoken (noMore ending) c := by
  cases ending with
  | closed | failed e => exact blames_of_ne nofun hc
  | silent => exact nofun

/-- A head that was read is all that was read. -/
theorem reads_readHead : (readHead maxHead []).Reads
    (fun head c => head = c ∧ FirstEnd c c.length ∧ c.length ≤ maxHead)
    (Blames ConnectFault.failure Misspoken) := by
  intro s
  by_cases hm : s.mostPerRead = some 0
  · have hzero : maxHead = maxHead - 1 + 1 := rfl
    rw [hzero]
    cases hs : s.incoming with
    | nil =>
        rw [runOn_readHead_nil _ _ hs]
        exact ⟨[], hs.symm, blames_noMore s.ending not_misspoken_nil⟩
    | cons b rest =>
        rw [runOn_readHead_stalled _ _ hs hm]
        exact ⟨[], hs.symm, blames_of_ne nofun not_misspoken_nil⟩
  · have hx := readHead_whole hm
    generalize (readHead maxHead []).runOn s = x at hx
    cases hx with
    | @head k first fits =>
        have hlength : (s.incoming.take k).length = k := by
          rw [List.length_take, Nat.min_eq_left first.fits]
        refine ⟨_, (List.take_append_drop k _).symm, rfl, ?_, ?_⟩
        · rw [hlength]
          exact firstEnd_take_iff.mpr ⟨first, Nat.le_refl k⟩
        · rwa [hlength]
    | tooLarge none =>
        exact ⟨_, (List.take_append_drop maxHead _).symm, blames_of_ne nofun (not_misspoken_take none)⟩
    | ended none short =>
        refine ⟨s.incoming, (List.append_nil _).symm, blames_noMore s.ending ?_⟩
        have htake := not_misspoken_take none
        rwa [List.take_of_length_le (Nat.le_of_lt short)] at htake

theorem blames_verdict {target : String} {head : Bytes} {e : ConnectFault}
    (hv : verdict target head = .error e) (hwhole : FirstEnd head head.length)
    (hfits : head.length ≤ maxHead) : Blames ConnectFault.failure Misspoken (.fault e) head := by
  unfold verdict at hv
  cases hp : ResponseHead.parse maxFields head with
  | bad f =>
      rw [hp] at hv
      cases hv
      exact blames_of_eq rfl ⟨hwhole, hfits, fun h rest => by rw [hp]; exact nofun⟩
  | more =>
      rw [hp] at hv
      cases hv
      exact blames_of_eq rfl ⟨hwhole, hfits, fun h rest => by rw [hp]; exact nofun⟩
  | done h rest =>
      have hread : ¬ Misspoken head := fun hc => hc.unread h rest hp
      rw [hp] at hv
      dsimp only at hv
      split at hv
      · cases hv
      split at hv
      · cases hv
        exact blames_of_ne nofun hread
      · cases hv
        exact blames_of_ne nofun hread

theorem reads_connect (host : String) (port : Port) (authorization : Option String) :
    (connect host port authorization).Reads (fun _ _ => True) (Blames ConnectFault.failure Misspoken) := by
  have hsent (text : String) : (ConnectFault.notSent text).failure.kind ≠ .protocol := nofun
  unfold connect
  refine .bind (blames_write hsent not_misspoken_nil _) ?_
  rintro _ _ rfl
  refine .bind (.mapFault (reads_flush (P := fun _ c => c = []) rfl
    fun e => blames_of_ne nofun not_misspoken_nil)) ?_
  rintro _ _ rfl
  refine reads_readHead.bind ?_
  rintro head _ ⟨rfl, hwhole, hfits⟩
  cases hv : verdict (hostPort host port) head with
  | ok => exact reads_pure (P := fun _ _ => True) trivial
  | error e =>
      refine reads_fail ?_
      rw [List.append_nil]
      exact blames_verdict hv hwhole hfits

theorem sorted_failure (e : ConnectFault) :
    e.failure.isConnectionFailure = true ∨ e.failure.kind = .protocol := by
  cases e with
  | malformed | noStatus => exact .inr rfl
  | _ => exact .inl rfl

end Connect

namespace Socks5

/-- What a SOCKS gateway says when a method is agreed on. -/
inductive Agreed : Bytes → Prop
  | plain : Agreed [5, 0]
  | password (v : UInt8) : Agreed [5, 2, v, 0]

/-- The start of a reply that makes no sense: it is of another version, or it grants a tunnel with an address
of no known type. -/
inductive Garbled : Bytes → Prop
  | mk {v code reserved addressType : UInt8} :
      v ≠ 5 ∨ (code = 0 ∧ addressType ≠ 1 ∧ addressType ≠ 3 ∧ addressType ≠ 4) →
      Garbled [v, code, reserved, addressType]

/-- What a SOCKS gateway has said is no choice of a method, or no reply once one is agreed on. -/
inductive Misspoken : Bytes → Prop
  | choice {v method : UInt8} : v ≠ 5 ∨ (method ≠ 0 ∧ method ≠ 2 ∧ method ≠ 255) → Misspoken [v, method]
  | reply {a d : Bytes} : Agreed a → Garbled d → Misspoken (a ++ d)

theorem garbled_iff {v code reserved t : UInt8} :
    Garbled [v, code, reserved, t] ↔ v ≠ 5 ∨ (code = 0 ∧ t ≠ 1 ∧ t ≠ 3 ∧ t ≠ 4) := by
  constructor
  · rintro ⟨h⟩
    exact h
  · exact .mk

theorem Garbled.length_eq {d : Bytes} (h : Garbled d) : d.length = 4 := by
  cases h
  rfl

theorem Agreed.length_eq {a : Bytes} (h : Agreed a) : a.length = 2 ∨ a.length = 4 := by
  cases h with
  | plain => exact .inl rfl
  | password v => exact .inr rfl

theorem misspoken_choice_iff {v method : UInt8} :
    Misspoken [v, method] ↔ v ≠ 5 ∨ (method ≠ 0 ∧ method ≠ 2 ∧ method ≠ 255) := by
  constructor
  · intro h
    generalize hc : [v, method] = c at h
    cases h with
    | choice h =>
        obtain ⟨rfl, rfl⟩ : v = _ ∧ method = _ := by simpa using hc
        exact h
    | reply ha hd =>
        have hlength := congrArg List.length hc
        rw [List.length_append, hd.length_eq] at hlength
        have htwo : [v, method].length = 2 := rfl
        omega
  · exact .choice

/-- Neither of the two messages is of such a length. -/
theorem not_misspoken_of_length {c : Bytes} (h2 : c.length ≠ 2) (h6 : c.length < 6) : ¬ Misspoken c := by
  intro h
  cases h with
  | choice => exact h2 rfl
  | reply ha hd =>
      rw [List.length_append, hd.length_eq] at h6
      have := ha.length_eq
      omega

/-- No agreement is the beginning of another one. -/
theorem Agreed.append_inj {a b d e : Bytes} (ha : Agreed a) (hb : Agreed b) (h : a ++ d = b ++ e) : d = e := by
  cases ha <;> cases hb <;> simp_all

theorem misspoken_append_iff {a d : Bytes} (ha : Agreed a) : Misspoken (a ++ d) ↔ Garbled d := by
  constructor
  · intro h
    generalize hc : a ++ d = c at h
    cases h with
    | choice h =>
        cases ha with
        | plain =>
            obtain ⟨hv, hmethod, -⟩ := by simpa using hc
            simp [← hv, ← hmethod] at h
        | password v => simp at hc
    | reply hb hd =>
        rw [ha.append_inj hb hc]
        exact hd
  · exact .reply ha

theorem reads_authenticate (credentials : Option Credentials) :
    (authenticate credentials).Reads (fun _ c => ∃ v, c = [v, 0]) fun halt c =>
      Blames Socks5Fault.failure Misspoken halt ([5, 2] ++ c) := by
  have hinterrupted (text : String) : (Socks5Fault.interrupted text).failure.kind ≠ .protocol := nofun
  have hchoice : ¬ Misspoken [5, 2] := by simp [misspoken_choice_iff]
  have hbare : ¬ Misspoken ([5, 2] ++ []) := hchoice
  have hmore {c : Bytes} (h0 : c.length ≠ 0) (h4 : c.length < 4) : ¬ Misspoken ([5, 2] ++ c) :=
    not_misspoken_of_length (by rw [List.length_append]; simpa using h0)
      (by rw [List.length_append]; exact Nat.add_lt_add_left h4 2)
  have hshort {c : Bytes} (h : c.length < 2) : ¬ Misspoken ([5, 2] ++ c) := by
    rcases Nat.eq_zero_or_pos c.length with h0 | h0
    · rwa [List.length_eq_zero_iff.mp h0]
    · exact hmore (by omega) (by omega)
  cases credentials with
  | none => exact reads_fail (blames_of_ne nofun hbare)
  | some c =>
      by_cases hlong : c.TooLong
      · rw [authenticate_of_tooLong hlong]
        exact reads_fail (blames_of_ne nofun hbare)
      · rw [authenticate_of_not_tooLong hlong]
        refine .bind (blames_write hinterrupted hchoice _) ?_
        rintro _ _ rfl
        refine .bind (blames_readExactly hinterrupted fun d hd => hshort hd) ?_
        rintro _ answer ⟨rfl, hlength⟩
        obtain ⟨v, status, rfl⟩ := List.length_eq_two.mp hlength
        split
        · rename_i hzero
          refine reads_pure ⟨v, ?_⟩
          rw [List.append_nil, Option.some.inj hzero, List.nil_append]
        · exact reads_fail (blames_of_ne nofun (hmore (by simp) (by simp)))

theorem reads_agree (credentials : Option Credentials) :
    (agree credentials).Reads (fun _ c => Agreed c)
      (Blames Socks5Fault.failure Misspoken) := by
  unfold agree
  have hunsent (text : String) : (Socks5Fault.greetingNotSent text).failure.kind ≠ .protocol := nofun
  have hunread (text : String) : (Socks5Fault.choiceNotRead text).failure.kind ≠ .protocol := nofun
  have hshort {c : Bytes} (h : c.length < 2) : ¬ Misspoken c := not_misspoken_of_length (by omega) (by omega)
  refine .bind (blames_write hunsent (hshort (c := []) Nat.zero_lt_two) _) ?_
  rintro _ _ rfl
  refine .bind (blames_readExactly hunread fun c hc => hshort hc) ?_
  rintro _ choice ⟨rfl, hlength⟩
  obtain ⟨v, method, rfl⟩ := List.length_eq_two.mp hlength
  dsimp only [List.nil_append]
  split
  · rename_i hv
    exact reads_fail (blames_of_eq rfl (.choice (.inl hv)))
  rename_i hv
  obtain rfl : v = 5 := Decidable.not_not.mp hv
  split
  · rename_i hm
    subst hm
    exact reads_pure .plain
  split
  · rename_i hm
    subst hm
    refine (reads_authenticate credentials).mono ?_ fun _ _ h => h
    rintro _ _ ⟨v, rfl⟩
    exact .password v
  split
  · rename_i hm
    subst hm
    refine reads_fail (blames_of_ne nofun ?_)
    rw [List.append_nil, misspoken_choice_iff]
    simp [noneAcceptable]
  · rename_i h0 h2 h255
    exact reads_fail (blames_of_eq rfl (.choice (.inr ⟨h0, h2, h255⟩)))

theorem not_garbled_append {h d : Bytes} (hlength : h.length = 4) (hh : ¬ Garbled h) : ¬ Garbled (h ++ d) := by
  intro hd
  have hsum := hd.length_eq
  rw [List.length_append] at hsum
  obtain rfl : d = [] := List.length_eq_zero_iff.mp (by omega)
  exact hh (List.append_nil h ▸ hd)

/-- To read on is not to find the reply garbled. -/
theorem reads_plainly {n : Nat} {h : Bytes} (hh : ∀ d, ¬ Garbled (h ++ d)) :
    (plainly (readExactly n)).Reads (fun _ _ => True) fun halt d =>
      Blames Socks5Fault.failure Garbled halt (h ++ d) := by
  have hinterrupted (text : String) : (Socks5Fault.interrupted text).failure.kind ≠ .protocol := nofun
  exact .mapFault (reads_readExactly (fun _ _ => trivial) fun e d _ => blames_map hinterrupted (hh d) e)

theorem reads_skipAddress {t : UInt8} {h : Bytes} (ht : t = 1 ∨ t = 3 ∨ t = 4) (hh : ∀ d, ¬ Garbled (h ++ d)) :
    (skipAddress t).Reads (fun _ _ => True) fun halt d =>
      Blames Socks5Fault.failure Garbled halt (h ++ d) := by
  have hskip (n : Nat) {h : Bytes} (hh : ∀ d, ¬ Garbled (h ++ d)) :
      (do let _ ← plainly (readExactly n) : Talk Socks5Fault Unit).Reads (fun _ _ => True) fun halt d =>
        Blames Socks5Fault.failure Garbled halt (h ++ d) :=
    (reads_plainly hh).bind fun _ _ _ => reads_pure (P := fun _ _ => True) trivial
  rcases ht with rfl | rfl | rfl
  · exact hskip 6 hh
  · refine (reads_plainly hh).bind fun length c _ => ?_
    have hmore (d : Bytes) : ¬ Garbled ((h ++ c) ++ d) := by
      rw [List.append_assoc]
      exact hh (c ++ d)
    refine (hskip ((length.headD 0).toNat + 2) hmore).mono (fun _ _ h => h) fun halt d hd => ?_
    rwa [List.append_assoc] at hd
  · exact hskip 18 hh

theorem reads_readReply : readReply.Reads (fun _ _ => True) (Blames Socks5Fault.failure Garbled) := by
  have hunread (text : String) : (Socks5Fault.replyNotRead text).failure.kind ≠ .protocol := nofun
  have hshort {c : Bytes} (h : c.length < 4) : ¬ Garbled c := fun hc => by
    have := hc.length_eq
    omega
  unfold readReply
  refine .bind (blames_readExactly (c := []) hunread fun c hc => hshort hc) ?_
  rintro _ reply ⟨rfl, hlength⟩
  obtain ⟨v, code, reserved, t, rfl⟩ : ∃ v code reserved t, reply = [v, code, reserved, t] := by
    match reply, hlength with
    | [v, code, reserved, t], _ => exact ⟨v, code, reserved, t, rfl⟩
  dsimp only
  split
  · rename_i hv
    exact reads_fail (blames_of_eq rfl (garbled_iff.mpr (.inl hv)))
  rename_i hv
  split
  · rename_i hcode
    refine reads_fail (blames_of_ne nofun ?_)
    rw [List.append_nil, garbled_iff]
    exact fun h => h.elim hv fun h => hcode h.1
  rename_i hcode
  have hgood (ht : t = 1 ∨ t = 3 ∨ t = 4) : ¬ Garbled [v, code, reserved, t] := by
    rw [garbled_iff]
    rintro (h | ⟨-, h1, h3, h4⟩)
    · exact hv h
    · exact ht.elim h1 fun h => h.elim h3 h4
  by_cases ht : t = 1 ∨ t = 3 ∨ t = 4
  · exact reads_skipAddress ht fun d => not_garbled_append rfl (hgood ht)
  · simp only [not_or] at ht
    have hfail : skipAddress t = fail .replyAddress := by
      rw [skipAddress, if_neg ht.1, if_neg ht.2.2, if_neg ht.2.1]
    rw [hfail]
    refine reads_fail (blames_of_eq rfl ?_)
    rw [List.append_nil, garbled_iff]
    exact .inr ⟨Decidable.not_not.mp hcode, ht⟩

theorem reads_ask (host : String) (port : Port) :
    (ask host port).Reads (fun _ _ => True) (Blames Socks5Fault.failure Garbled) := by
  have hnone : ¬ Garbled [] := nofun
  unfold ask
  cases hr : request host port with
  | error e =>
      obtain rfl : e = .hostTooLong := by
        unfold request at hr
        split at hr
        · cases hr
        · rename_i hocts
          cases hr
          exact (hostOctets_eq_error_iff.mp hocts).1
      exact reads_fail (blames_of_ne nofun hnone)
  | ok q =>
      have hunsent (text : String) : (Socks5Fault.requestNotSent text).failure.kind ≠ .protocol := nofun
      refine .bind (blames_write hunsent hnone _) ?_
      rintro _ _ rfl
      exact reads_readReply

theorem reads_connect (credentials : Option Credentials) (host : String) (port : Port) :
    (connect credentials host port).Reads (fun _ _ => True) (Blames Socks5Fault.failure Misspoken) := by
  rw [connect_eq]
  refine (reads_agree credentials).bind fun _ a ha => ?_
  refine (reads_ask host port).mono (fun _ _ h => h) fun halt d hd e he => ?_
  rw [misspoken_append_iff ha]
  exact hd e he

theorem sorted_failure (e : Socks5Fault) :
    e.failure.isConnectionFailure = true ∨ e.failure.kind = .protocol := by
  cases e with
  | choiceVersion | unknownMethod | replyVersion | replyAddress => exact .inr rfl
  | _ => exact .inl rfl

end Socks5

namespace Gateway

/-- What a gateway of some kind has said is no answer of its protocol. -/
def Misspoken (kind : Kind) (c : Bytes) : Prop :=
  match kind with
  | .http => Connect.Misspoken c
  | .socks5 => Socks5.Misspoken c

/-- How a failure is sorted when this is what a gateway has said. -/
structure Sorted (kind : Kind) (c : Bytes) (f : Failure) : Prop where
  connection : f.isConnectionFailure = true ↔ ¬ Misspoken kind c
  protocol : Misspoken kind c → f.kind = .protocol

theorem sorted_of_either {kind : Kind} {c : Bytes} {f : Failure}
    (heither : f.isConnectionFailure = true ∨ f.kind = .protocol)
    (hprotocol : f.kind = .protocol ↔ Misspoken kind c) : Sorted kind c f := by
  refine ⟨?_, hprotocol.mpr⟩
  rw [← hprotocol]
  refine ⟨fun hconnection hkind => ?_, heither.resolve_right⟩
  rw [Failure.isConnectionFailure, hkind] at hconnection
  cases hconnection

theorem sorted_of_reads {ε : Type} {failure : ε → Failure} {kind : Kind} {t : Talk ε Unit}
    (ht : t.Reads (fun _ _ => True) (Blames failure (Misspoken kind)))
    (hall : ∀ e, (failure e).isConnectionFailure = true ∨ (failure e).kind = .protocol) {s : Stream}
    {f : Failure} (hf : ((t.mapFault failure).runOn s).1 = .error (.fault f)) :
    ∃ c, s.incoming = c ++ ((t.mapFault failure).runOn s).2.incoming ∧ Sorted kind c f := by
  obtain ⟨c, hin, hc⟩ := ht s
  rw [runOn_mapFault] at hf ⊢
  refine ⟨c, hin, ?_⟩
  rcases hr : (t.runOn s).1 with (e | _) | a
  · rw [hr] at hf hc
    cases hf
    exact sorted_of_either (hall e) (hc e rfl)
  · rw [hr] at hf
    cases hf
  · rw [hr] at hf
    cases hf

/-- Whatever a gateway says, and however the stream to it fails, a failure of the protocol means that it has
not answered in its protocol. -/
theorem sorted_talk (g : Gateway) (host : String) (port : Port) {s : Stream} {f : Failure}
    (hf : ((g.talk host port).runOn s).1 = .error (.fault f)) :
    ∃ c, s.incoming = c ++ ((g.talk host port).runOn s).2.incoming ∧ Sorted g.kind c f := by
  unfold talk at hf ⊢
  cases hg : g.kind with
  | http =>
      rw [hg] at hf
      exact sorted_of_reads (Connect.reads_connect host port _) Connect.sorted_failure hf
  | socks5 =>
      rw [hg] at hf
      exact sorted_of_reads (Socks5.reads_connect _ host port) Socks5.sorted_failure hf

end Gateway

end RouteCascade.Tunnel
