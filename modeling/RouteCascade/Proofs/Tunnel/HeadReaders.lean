import RouteCascade.Proofs.Tunnel.ConnectReply
import RouteCascade.Proofs.Tunnel.Relaying

/-!
# Two readers of heads

Who asks for a tunnel takes the reply byte by byte and looks at the end of what it has. Who is asked takes
whatever comes and looks through all of it again after each piece. An end that was found is not moved by the
bytes after it, and none is found later among bytes that were looked through before, so both stop at the same
place and leave the same bytes.
-/
namespace RouteCascade.Http

open Text

/-- The four bytes in front of this place end a head. -/
def EndsAt (d : Bytes) (k : Nat) : Prop := 4 ≤ k ∧ (d.take k).drop (k - 4) = headEnd

section
variable {d : Bytes} {k : Nat}

theorem endsAt_iff : EndsAt d k ↔ k ≤ d.length ∧ headEnd <:+ d.take k := by
  constructor
  · rintro ⟨h4, hwindow⟩
    refine ⟨?_, hwindow ▸ List.drop_suffix (k - 4) (d.take k)⟩
    have hlen := congrArg List.length hwindow
    rw [List.length_drop, List.length_take, show headEnd.length = 4 from rfl] at hlen
    omega
  · rintro ⟨hk, hsuffix⟩
    have hlen : (d.take k).length = k := by rw [List.length_take, Nat.min_eq_left hk]
    have hdrop := List.suffix_iff_eq_drop.mp hsuffix
    rw [hlen] at hdrop
    exact ⟨four_le_of_suffix_take hsuffix, hdrop.symm⟩

/-- The end that is found is the first place with the end of a head in front of it. -/
theorem endOf?_eq_some_iff_endsAt : endOf? d = some k ↔ EndsAt d k ∧ ∀ j < k, ¬ EndsAt d j := by
  rw [endOf?_eq_some_iff]
  constructor
  · intro h
    exact ⟨endsAt_iff.mpr ⟨h.fits, h.ends⟩, fun j hj hend => h.first j hj (endsAt_iff.mp hend).2⟩
  · rintro ⟨hend, hfirst⟩
    obtain ⟨hk, hsuffix⟩ := endsAt_iff.mp hend
    refine ⟨hk, hsuffix, fun j hj hs => hfirst j hj ?_⟩
    exact endsAt_iff.mpr ⟨Nat.le_of_lt (Nat.lt_of_lt_of_le hj hk), hs⟩

theorem endOf?_append (h : endOf? d = some k) (e : Bytes) : endOf? (d ++ e) = some k :=
  endOf?_eq_some_iff.mpr ((endOf?_eq_some_iff.mp h).append e)

/-- An end that is found with more bytes only lies among these. -/
theorem length_lt_of_endOf?_append {e : Bytes} (h : endOf? d = none) (he : endOf? (d ++ e) = some k) :
    d.length < k := by
  apply Classical.byContradiction
  intro hk
  have hends := (endOf?_eq_some_iff.mp he).ends
  rw [List.take_append_of_le_length (Nat.le_of_not_lt hk)] at hends
  exact endOf?_eq_none_iff.mp h k hends

theorem noEndWithin_iff {n : Nat} : NoEndWithin n d ↔ ∀ k ≤ n, endOf? d ≠ some k := by
  constructor
  · intro h k hk hend
    exact h k hk (endOf?_eq_some_iff.mp hend).ends
  · intro h
    rcases firstEnd_or_noEndWithin d n with ⟨k, hfirst, hk⟩ | hnone
    · exact absurd (endOf?_eq_some_iff.mpr hfirst) (h k hk)
    · exact hnone

end

end RouteCascade.Http

namespace RouteCascade.Tunnel

open Text Net Http

section
variable {d : Bytes} {s : Stream}

/-- Before a head has ended, the reader of replies has all the bytes so far, backwards, and the others are
still to come. -/
theorem Connect.runOn_readHead_take (hm : s.mostPerRead ≠ some 0) {j : Nat} (left : Nat)
    (hj : j ≤ s.incoming.length) (hn : NoEndWithin j s.incoming) :
    (readHead (j + left) []).runOn s =
      (readHead left (s.incoming.take j).reverse).runOn { s with incoming := s.incoming.drop j } := by
  induction j generalizing left with
  | zero => rw [Nat.zero_add]; rfl
  | succ j ih =>
      have hlt : j < s.incoming.length := hj
      have hcons := List.drop_eq_getElem_cons hlt
      have htake : s.incoming[j] :: (s.incoming.take j).reverse = (s.incoming.take (j + 1)).reverse := by
        rw [List.take_succ_eq_append_getElem hlt, List.reverse_append]
        rfl
      have hgoes : ¬ headEndBackwards.isPrefixOf (s.incoming.take (j + 1)).reverse := by
        rw [headEndBackwards_prefix_iff, List.reverse_reverse]
        exact hn (j + 1) (Nat.le_refl _)
      rw [Nat.add_right_comm, Nat.add_assoc, ih (left + 1) (Nat.le_of_lt hlt) fun k hk => hn k (by omega),
        runOn_readHead_cons left _ (s := { s with incoming := s.incoming.drop j }) hcons hm, htake,
        if_neg hgoes]

/-- What both readers make of the same bytes: a head of so many bytes, or one that is too large, or none
before the bytes end. -/
inductive ReadAlike (d : Bytes) (s : Stream) :
    Except (Halt ConnectFault) Bytes × Stream → LocalProxy.HeadReading → Prop
  | head {k : Nat} {along : Bytes} {later : List Bytes} : endOf? d = some k → k ≤ maxHead →
      along ++ later.flatten = d.drop k →
      ReadAlike d s (.ok (d.take k), { s with incoming := d.drop k }) (.head (d.take k) along later)
  | tooLarge : (∀ k ≤ maxHead, endOf? d ≠ some k) → maxHead ≤ d.length →
      ReadAlike d s (.error (.fault .tooLarge), { s with incoming := d.drop maxHead }) .tooLarge
  | ended : endOf? d = none → d.length < maxHead →
      ReadAlike d s (.error (Connect.noMore s.ending), { s with incoming := [] }) .noHead

/-- The bytes alone decide what the readers make of them, not how many come at a time. -/
theorem readAlike_readers (hs : s.incoming = d) (hm : s.mostPerRead ≠ some 0) {pieces : List Bytes}
    (hp : pieces.flatten = d) :
    ReadAlike d s ((Connect.readHead maxHead []).runOn s) (LocalProxy.readHead [] pieces) := by
  have hreply := Connect.readHead_whole hm
  rw [hs] at hreply
  have hrequest : LocalProxy.HeadExec d (LocalProxy.readHead [] pieces) := hp ▸ LocalProxy.readHead_whole
  generalize (Connect.readHead maxHead []).runOn s = x at hreply
  generalize LocalProxy.readHead [] pieces = y at hrequest
  cases hreply with
  | head first fits =>
      cases hrequest with
      | head first' _ rest =>
          obtain rfl := first.unique first'
          exact .head (endOf?_eq_some_iff.mpr first) fits rest
      | tooLarge none | noHead none => exact absurd first.ends (none _ fits)
  | tooLarge none full =>
      cases hrequest with
      | head first' fits' => exact absurd first'.ends (none _ fits')
      | tooLarge => exact .tooLarge (noEndWithin_iff.mp none) full
      | noHead _ short => exact absurd full (Nat.not_le.mpr short)
  | ended none short =>
      cases hrequest with
      | head first' fits' => exact absurd first'.ends (none _ fits')
      | tooLarge _ full => exact absurd full (Nat.not_le.mpr short)
      | noHead =>
          have hnone : endOf? d = Option.none := by
            rw [← List.take_of_length_le (Nat.le_of_lt short)]
            exact endOf?_take_eq_none_iff.mpr none
          exact .ended hnone short

end

/-- Where a head ends for those who read these bytes. -/
structure EndsForAll (d : Bytes) : Prop where
  window : ∀ k, endOf? d = some k ↔ EndsAt d k ∧ ∀ j < k, ¬ EndsAt d j
  /-- Byte by byte, it is the first time that what was read ends like a head. -/
  suffix : ∀ k, endOf? d = some k ↔ k ≤ d.length ∧
    Connect.headEndBackwards.isPrefixOf (d.take k).reverse ∧
      ∀ j < k, ¬ Connect.headEndBackwards.isPrefixOf (d.take j).reverse
  /-- Until then the reader of replies goes on, with one more byte at a time. -/
  bytewise : ∀ (s : Stream) (j left : Nat), s.incoming = d → s.mostPerRead ≠ some 0 → j ≤ d.length →
    (∀ k ≤ j, endOf? d ≠ some k) → (Connect.readHead (j + left) []).runOn s =
      (Connect.readHead left (d.take j).reverse).runOn { s with incoming := d.drop j }
  grown : ∀ k, endOf? d = some k → ∀ e, endOf? (d ++ e) = some k
  late : endOf? d = none → ∀ e k, endOf? (d ++ e) = some k → d.length < k
  /-- The bytes may come in any pieces. -/
  alike : ∀ (s : Stream) (pieces : List Bytes), s.incoming = d → s.mostPerRead ≠ some 0 →
    pieces.flatten = d →
    ReadAlike d s ((Connect.readHead maxHead []).runOn s) (LocalProxy.readHead [] pieces)

/-- Looking through a growing buffer and looking at the end of it byte by byte come to the same. -/
theorem endsForAll_readers (d : Bytes) : EndsForAll d := by
  refine {
    window := fun k => endOf?_eq_some_iff_endsAt
    suffix := fun k => ?_
    bytewise := ?_
    grown := fun k h e => endOf?_append h e
    late := fun h e k he => length_lt_of_endOf?_append h he
    alike := fun s pieces hs hm hp => readAlike_readers hs hm hp }
  · simp only [Connect.headEndBackwards_prefix_iff, List.reverse_reverse]
    rw [endOf?_eq_some_iff]
    exact ⟨fun h => ⟨h.fits, h.ends, h.first⟩, fun h => ⟨h.1, h.2.1, h.2.2⟩⟩
  · rintro s j left rfl hm hj hn
    exact Connect.runOn_readHead_take hm left hj (noEndWithin_iff.mpr hn)

-- Line ends that overlap: the end is that of the first empty line.
example : endOf? (bytesOf "a\r\r\n\r\n\r\nb") = some 6 := by decide +kernel

end RouteCascade.Tunnel
