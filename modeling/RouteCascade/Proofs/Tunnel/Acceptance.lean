import RouteCascade.Proofs.Tunnel.Talk
import Mathlib.Data.List.Basic

/-!
# Accepted replies

A conversation is described by the replies that it accepts and by what it writes when it does. It reads
such a reply to its last byte and no further, and it halts on whatever does not begin with one. Parts of
a conversation are described one by one, and what they accept is put together.
-/
namespace RouteCascade.Tunnel

open Text

/-- Nothing stops writing, and every read gives something. -/
structure Stream.Flows (s : Stream) : Prop where
  takes : s.room = none
  reads : s.mostPerRead ≠ some 0

/-- A stream after a reply was read and something was written. -/
def Stream.exchanged (s : Stream) (rest sent : Bytes) : Stream :=
  { s with incoming := rest, sent := s.sent ++ sent }

theorem Stream.Flows.exchanged {s : Stream} (h : s.Flows) (rest sent : Bytes) :
    (s.exchanged rest sent).Flows :=
  ⟨h.takes, h.reads⟩

/-- The halt of a conversation over a stream: it waits only if nothing more will come. -/
def Halt.Due {ε : Type} (h : Halt ε) (s : Stream) : Prop := h = .waiting → s.ending = .silent

namespace Talk

variable {ε δ α β : Type} {s : Stream}

/-- Why there is less to read than was to be read. -/
def early : StreamEnd → Halt String
  | .closed => .fault earlyEnd
  | .failed e => .fault e
  | .silent => .waiting

theorem early_due (s : Stream) : (early s.ending).Due s := by
  unfold Halt.Due
  cases s.ending <;> simp [early]

/-- What one read of some bytes gives. -/
theorem runOn_read (hf : s.Flows) (hs : s.incoming ≠ []) (n : Nat) :
    ∃ k, 0 < k ∧ k ≤ n + 1 ∧ (read (n + 1)).runOn s =
      (.ok (s.incoming.take k), { s with incoming := s.incoming.drop k }) := by
  obtain ⟨b, rest, hb⟩ := List.exists_cons_of_ne_nil hs
  refine ⟨min (n + 1) (s.mostPerRead.getD (n + 1)), ?_, Nat.min_le_left _ _, ?_⟩
  · have hpos : 0 < s.mostPerRead.getD (n + 1) := by
      cases hm : s.mostPerRead with
      | none => exact Nat.succ_pos n
      | some m => exact Nat.pos_of_ne_zero fun h => hf.reads (hm.trans (congrArg some h))
    omega
  · rw [hb, runOn_read_cons hb]

theorem runOn_go_succ (fuel n : Nat) {bs rest : Bytes} (hbs : bs ≠ [])
    (h : (read (n + 1)).runOn s = (.ok bs, { s with incoming := rest })) :
    (readExactly.go (fuel + 1) (n + 1)).runOn s =
      match (readExactly.go fuel (n + 1 - bs.length)).runOn { s with incoming := rest } with
      | (.ok more, s) => (.ok (bs ++ more), s)
      | (.error e, s) => (.error e, s) := by
  have hne : bs.isEmpty = false := by simpa using hbs
  rw [readExactly.go, runOn_bind, h]
  simp only [hne, Bool.false_eq_true, if_false, runOn_bind]
  rcases (readExactly.go fuel (n + 1 - bs.length)).runOn { s with incoming := rest } with ⟨_ | _, _⟩ <;> rfl

/-- Every read gives at least one byte, so as many reads as bytes are enough. -/
theorem runOn_go (hf : s.Flows) {fuel n : Nat} (hn : n ≤ fuel) :
    (readExactly.go fuel n).runOn s =
      if n ≤ s.incoming.length then
        (.ok (s.incoming.take n), { s with incoming := s.incoming.drop n })
      else (.error (early s.ending), { s with incoming := [] }) := by
  induction fuel generalizing s n with
  | zero =>
      obtain rfl : n = 0 := Nat.le_zero.mp hn
      rfl
  | succ fuel ih =>
      rcases n with _ | n
      · rfl
      by_cases hs : s.incoming = []
      · have hlt : ¬ n + 1 ≤ s.incoming.length := by simp [hs]
        have hself : { s with incoming := [] } = s := by rw [← hs]
        rw [if_neg hlt, hself, readExactly.go, runOn_bind, runOn_read_nil hs]
        cases s.ending <;> rfl
      · obtain ⟨k, hpos, hk, hread⟩ := runOn_read hf hs n
        have hlen : 0 < s.incoming.length := List.length_pos_iff.mpr hs
        have hne : s.incoming.take k ≠ [] := by
          rw [Ne, List.take_eq_nil_iff, not_or]
          exact ⟨by omega, hs⟩
        have hleft : n + 1 - (s.incoming.take k).length ≤ fuel := by
          rw [List.length_take]
          omega
        rw [runOn_go_succ fuel n hne hread, ih (s := { s with incoming := s.incoming.drop k })
          ⟨hf.takes, hf.reads⟩ hleft]
        simp only [List.length_take, List.length_drop]
        by_cases hle : n + 1 ≤ s.incoming.length
        · have hmin : min k s.incoming.length = k := Nat.min_eq_left (Nat.le_trans hk hle)
          rw [hmin, if_pos (by omega), if_pos hle, List.drop_drop]
          have hsum : k + (n + 1 - k) = n + 1 := by omega
          have htake := List.take_add (l := s.incoming) (i := k) (j := n + 1 - k)
          rw [hsum] at htake ⊢
          rw [htake]
        · rw [if_neg (by omega), if_neg hle]

theorem runOn_readExactly (hf : s.Flows) (n : Nat) :
    (readExactly n).runOn s =
      if n ≤ s.incoming.length then
        (.ok (s.incoming.take n), { s with incoming := s.incoming.drop n })
      else (.error (early s.ending), { s with incoming := [] }) :=
  runOn_go hf (Nat.le_refl n)

/-- A conversation that accepts the replies of a kind. A reply goes with the value it leads to and with
what is written by then. -/
structure Accepts (t : Talk ε α) (P : α → Bytes → Bytes → Prop) : Prop where
  done : ∀ {s : Stream}, s.Flows → ∀ {a reply sent rest}, P a reply sent → s.incoming = reply ++ rest →
    t.runOn s = (.ok a, s.exchanged rest sent)
  halts : ∀ {s : Stream}, s.Flows → (∀ a reply sent, P a reply sent → ¬ reply <+: s.incoming) →
    ∃ h s', t.runOn s = (.error h, s') ∧ h.Due s

section Accepts
variable {t : Talk ε α} {P P' : α → Bytes → Bytes → Prop}

theorem Accepts.congr (h : t.Accepts P) (hP : ∀ a r w, P a r w ↔ P' a r w) : t.Accepts P' where
  done hf _ _ _ _ hp hs := h.done hf ((hP _ _ _).mpr hp) hs
  halts hf hn := h.halts hf fun a r w hp => hn a r w ((hP a r w).mp hp)

theorem accepts_pure (a : α) : (pure a : Talk ε α).Accepts fun b r w => b = a ∧ r = [] ∧ w = [] where
  done := by
    rintro s - _ _ _ rest ⟨rfl, rfl, rfl⟩ hs
    rw [runOn_pure, Stream.exchanged, List.append_nil, ← List.nil_append rest, ← hs]
  halts := fun _ hn => absurd List.nil_prefix (hn a [] [] ⟨rfl, rfl, rfl⟩)

theorem accepts_fail (e : ε) : (fail e : Talk ε α).Accepts fun _ _ _ => False where
  done _ _ _ _ _ hp := hp.elim
  halts _ _ := ⟨_, _, runOn_fail e _, nofun⟩

theorem accepts_fail_of (e : ε) (hP : ∀ a r w, ¬ P a r w) : (fail e : Talk ε α).Accepts P :=
  (accepts_fail e).congr fun a r w => iff_of_false not_false (hP a r w)

theorem accepts_write (bs : Bytes) : (write bs).Accepts fun _ r w => r = [] ∧ w = bs where
  done := by
    rintro s hf _ _ bs rest ⟨rfl, rfl⟩ hs
    have ht : s.Takes bs.length := by simp [Stream.Takes, hf.takes]
    rw [runOn_write_of_takes ht, Stream.wrote, Stream.exchanged, hf.takes, ← List.nil_append rest, ← hs]
    rfl
  halts := fun _ hn => absurd List.nil_prefix (hn () [] bs ⟨rfl, rfl⟩)

theorem accepts_readExactly (n : Nat) :
    (readExactly n).Accepts fun bs r w => r = bs ∧ bs.length = n ∧ w = [] where
  done := by
    rintro s hf _ bs _ rest ⟨rfl, rfl, rfl⟩ hs
    have hle : bs.length ≤ s.incoming.length := by simp [hs]
    rw [runOn_readExactly hf, if_pos hle, hs, List.take_left, List.drop_left, Stream.exchanged,
      List.append_nil]
  halts := by
    intro s hf hn
    have hlt : ¬ n ≤ s.incoming.length := fun hle =>
      hn _ _ [] ⟨rfl, List.length_take_of_le hle, rfl⟩ (List.take_prefix n s.incoming)
    exact ⟨_, _, by rw [runOn_readExactly hf, if_neg hlt], early_due s⟩

theorem Accepts.mapFault (h : t.Accepts P) (f : ε → δ) : (t.mapFault f).Accepts P where
  done hf _ _ _ _ hp hs := by rw [runOn_mapFault, h.done hf hp hs, mapError_ok]
  halts hf hn := by
    obtain ⟨e, s', he, hd⟩ := h.halts hf hn
    refine ⟨e.map f, s', by rw [runOn_mapFault, he, mapError_error], ?_⟩
    cases e with
    | fault c => nofun
    | waiting => exact fun _ => hd rfl

/-- Of two parts of a conversation, the second goes on with what the first has left. -/
theorem Accepts.bind {f : α → Talk ε β} {Q : α → β → Bytes → Bytes → Prop} (h : t.Accepts P)
    (hq : ∀ {a r w}, P a r w → (f a).Accepts (Q a)) :
    (t >>= f).Accepts fun b r w =>
      ∃ a r₁ w₁ r₂ w₂, P a r₁ w₁ ∧ Q a b r₂ w₂ ∧ r = r₁ ++ r₂ ∧ w = w₁ ++ w₂ where
  done := by
    rintro s hf b _ _ rest ⟨a, r₁, w₁, r₂, w₂, hp, hq₂, rfl, rfl⟩ hs
    rw [List.append_assoc] at hs
    rw [runOn_bind, h.done hf hp hs]
    simp only
    rw [(hq hp).done (hf.exchanged _ _) hq₂ rfl]
    simp [Stream.exchanged]
  halts := by
    intro s hf hn
    by_cases hp : ∃ a r w, P a r w ∧ r <+: s.incoming
    · obtain ⟨a, r₁, w₁, hp, rest, hs⟩ := hp
      have hnext : ∀ b r₂ w₂, Q a b r₂ w₂ → ¬ r₂ <+: (s.exchanged rest w₁).incoming := by
        rintro b r₂ w₂ hq₂ ⟨rest', hr⟩
        refine hn b _ _ ⟨a, r₁, w₁, r₂, w₂, hp, hq₂, rfl, rfl⟩ ⟨rest', ?_⟩
        rw [List.append_assoc, hr]
        exact hs
      obtain ⟨e, s', he, hd⟩ := (hq hp).halts (hf.exchanged rest w₁) hnext
      refine ⟨e, s', ?_, hd⟩
      rw [runOn_bind, h.done hf hp hs.symm]
      exact he
    · obtain ⟨e, s', he, hd⟩ := h.halts hf fun a r w hr hpre => hp ⟨a, r, w, hr, hpre⟩
      exact ⟨e, s', by rw [runOn_bind, he], hd⟩

/-- Between two accepted replies on one stream there is no choice. -/
theorem Accepts.unique (h : t.Accepts P) {a b : α} {r r' w w' rest rest' : Bytes} (hp : P a r w)
    (hp' : P b r' w') (hr : r ++ rest = r' ++ rest') : rest = rest' := by
  have hf : ({ incoming := r ++ rest } : Stream).Flows := ⟨rfl, nofun⟩
  have h₁ := h.done hf hp rfl
  have h₂ := h.done hf hp' hr
  exact congrArg (fun x => x.2.incoming) (h₁.symm.trans h₂)

theorem Accepts.ok_iff (h : t.Accepts P) (hf : s.Flows) :
    (∃ a, (t.runOn s).1 = .ok a) ↔ ∃ a r w, P a r w ∧ r <+: s.incoming := by
  constructor
  · rintro ⟨a, ha⟩
    by_contra hn
    obtain ⟨e, s', he, -⟩ := h.halts hf fun a r w hp hr => hn ⟨a, r, w, hp, hr⟩
    rw [he] at ha
    cases ha
  · rintro ⟨a, r, w, hp, rest, hs⟩
    exact ⟨a, by rw [h.done hf hp hs.symm]⟩

/-- What breaks off before the end of an accepted reply is not accepted. -/
theorem Accepts.not_ok_of_cut (h : t.Accepts P) (hf : s.Flows) {a : α} {r w : Bytes} (hp : P a r w)
    (hpre : s.incoming <+: r) (hne : s.incoming ≠ r) (b : α) : (t.runOn s).1 ≠ .ok b := by
  intro hb
  obtain ⟨b, r', w', hp', rest, hs⟩ := (h.ok_iff hf).mp ⟨b, hb⟩
  obtain ⟨more, hmore⟩ := hpre
  have hsame : [] = rest ++ more := by
    refine h.unique hp hp' ?_
    rw [List.append_nil, ← List.append_assoc, hs, hmore]
  obtain ⟨-, rfl⟩ := List.append_eq_nil_iff.mp hsame.symm
  exact hne (by rw [← hmore, List.append_nil])

/-- Unless nothing more comes, what is not accepted is a fault. -/
theorem Accepts.fault (h : t.Accepts P) (hf : s.Flows) (hs : s.ending ≠ .silent)
    (hn : ∀ a, (t.runOn s).1 ≠ .ok a) : ∃ e, (t.runOn s).1 = .error (.fault e) := by
  obtain ⟨e, s', he, hd⟩ := h.halts hf fun a r w hp ⟨rest, hr⟩ =>
    hn a (by rw [h.done hf hp hr.symm])
  rw [he]
  cases e with
  | fault f => exact ⟨f, rfl⟩
  | waiting => exact absurd (hd rfl) hs

end Accepts

end Talk

end RouteCascade.Tunnel
