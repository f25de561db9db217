import RouteCascade.Proofs.Tunnel.Talk

/-!
# What a conversation writes, and what it has read

Bounds that hold over every stream, also one that runs out of room: what is written is told by the parts of a
conversation, one after the other, and where writing fails it is a beginning of that. What is read comes first
of what was to come, however little is read at a time.
-/
namespace RouteCascade.Tunnel

open Text

namespace Talk

variable {ε δ α β : Type} {s : Stream}

/-- The outcome of a run that writes some bytes: all of them, unless it runs out of room. -/
structure Wrote (s : Stream) (x : Except (Halt ε) α × Stream) (w : Bytes) : Prop where
  beginning : ∃ u, u <+: w ∧ x.2.sent = s.sent ++ u
  whole : s.room = none ∨ (∃ a, x.1 = .ok a) → x.2.sent = s.sent ++ w
  room : s.room = none → x.2.room = none

/-- Whatever is read, something of a kind is written. -/
def Writes (t : Talk ε α) (P : Bytes → Prop) : Prop :=
  ∀ s : Stream, ∃ w, P w ∧ Wrote s (t.runOn s) w

abbrev Listens (t : Talk ε α) : Prop := t.Writes (· = [])

section Writes
variable {t : Talk ε α} {P Q : Bytes → Prop}

theorem wrote_nil {x : Except (Halt ε) α × Stream} (hsent : x.2.sent = s.sent) (hroom : x.2.room = s.room) :
    Wrote s x [] where
  beginning := ⟨[], List.nil_prefix, hsent.trans (List.append_nil _).symm⟩
  whole := fun _ => hsent.trans (List.append_nil _).symm
  room := fun h => hroom.trans h

theorem Writes.mono (h : t.Writes P) (hP : ∀ w, P w → Q w) : t.Writes Q := by
  intro s
  obtain ⟨w, hw, hwrote⟩ := h s
  exact ⟨w, hP w hw, hwrote⟩

theorem listens_pure (a : α) : (pure a : Talk ε α).Listens := fun _ => ⟨[], rfl, wrote_nil rfl rfl⟩

theorem listens_fail (e : ε) : (fail e : Talk ε α).Listens := fun _ => ⟨[], rfl, wrote_nil rfl rfl⟩

theorem listens_read (n : Nat) : (read n).Listens := by
  intro s
  refine ⟨[], rfl, ?_⟩
  cases hs : s.incoming with
  | nil =>
      rw [runOn_read_nil hs]
      split <;> exact wrote_nil rfl rfl
  | cons b rest =>
      rw [runOn_read_cons hs]
      exact wrote_nil rfl rfl

theorem writes_write (bs : Bytes) : (write bs).Writes (· = bs) := by
  intro s
  refine ⟨bs, rfl, ?_⟩
  rcases s.takes_or_lt bs.length with ht | ⟨r, hr, hlt⟩
  · rw [runOn_write_of_takes ht]
    exact {
      beginning := ⟨bs, List.prefix_refl bs, rfl⟩
      whole := fun _ => rfl
      room := fun hroom => by rw [Stream.wrote_room, hroom, Option.map_none] }
  · rw [runOn_write_of_lt hr hlt]
    have hroom : s.room ≠ none := by simp [hr]
    exact {
      beginning := ⟨bs.take r, List.take_prefix r bs, rfl⟩
      whole := by
        rintro (h | ⟨_, h⟩)
        · exact absurd h hroom
        · cases h
      room := fun h => absurd h hroom }

theorem Writes.mapFault (h : t.Writes P) (f : ε → δ) : (t.mapFault f).Writes P := by
  intro s
  obtain ⟨w, hw, hwrote⟩ := h s
  rw [runOn_mapFault]
  refine ⟨w, hw, hwrote.beginning, ?_, hwrote.room⟩
  rintro (hroom | ⟨a, ha⟩)
  · exact hwrote.whole (.inl hroom)
  · cases hx : (t.runOn s).1 with
    | error e =>
        rw [hx] at ha
        cases ha
    | ok b => exact hwrote.whole (.inr ⟨b, hx⟩)

/-- What is written by two runs, one after the other. -/
theorem Wrote.append {s₁ : Stream} {a : α} {x : Except (Halt ε) β × Stream} {u v : Bytes}
    (h : Wrote s ((.ok a, s₁) : Except (Halt ε) α × Stream) u) (hx : Wrote s₁ x v) : Wrote s x (u ++ v) := by
  have hsent : s₁.sent = s.sent ++ u := h.whole (.inr ⟨a, rfl⟩)
  refine ⟨?_, fun hwhole => ?_, fun hroom => hx.room (h.room hroom)⟩
  · obtain ⟨p, hp, hmore⟩ := hx.beginning
    refine ⟨u ++ p, (List.prefix_append_right_inj u).mpr hp, ?_⟩
    rw [hmore, hsent, List.append_assoc]
  · rw [hx.whole (hwhole.imp_left h.room), hsent, List.append_assoc]

theorem Wrote.halt {s₁ : Stream} {e : Halt ε} {u : Bytes}
    (h : Wrote s ((.error e, s₁) : Except (Halt ε) α × Stream) u) :
    Wrote s ((.error e, s₁) : Except (Halt ε) β × Stream) u := by
  refine ⟨h.beginning, ?_, h.room⟩
  rintro (hroom | ⟨b, hb⟩)
  · exact h.whole (.inl hroom)
  · cases hb

/-- A conversation that halts has written what its first part writes. -/
theorem Wrote.bind {f : α → Talk ε β} {u : Bytes} (h : Wrote s (t.runOn s) u) (hf : ∀ a, (f a).Writes Q)
    (hQ : Q []) : ∃ v, Q v ∧ Wrote s ((t >>= f).runOn s) (u ++ v) := by
  rw [runOn_bind]
  cases hrun : t.runOn s with
  | mk result s₁ =>
      rw [hrun] at h
      cases result with
      | error e =>
          refine ⟨[], hQ, ?_⟩
          rw [List.append_nil]
          exact h.halt
      | ok a =>
          obtain ⟨v, hv, hwrote⟩ := hf a s₁
          exact ⟨v, hv, h.append hwrote⟩

theorem Writes.bind {f : α → Talk ε β} (h : t.Writes P) (hf : ∀ a, (f a).Writes Q) (hQ : Q []) :
    (t >>= f).Writes fun w => ∃ u v, P u ∧ Q v ∧ w = u ++ v := by
  intro s
  obtain ⟨u, hu, hwrote⟩ := h s
  obtain ⟨v, hv, hall⟩ := hwrote.bind hf hQ
  exact ⟨u ++ v, ⟨u, v, hu, hv, rfl⟩, hall⟩

theorem Writes.listen {f : α → Talk ε β} (h : t.Listens) (hf : ∀ a, (f a).Writes Q) (hQ : Q []) :
    (t >>= f).Writes Q := by
  refine (h.bind hf hQ).mono ?_
  rintro w ⟨_, v, rfl, hv, rfl⟩
  exact hv

theorem listens_readExactly (n : Nat) : (readExactly n).Listens := by
  have hgo (fuel n : Nat) : (readExactly.go fuel n).Listens := by
    induction fuel generalizing n with
    | zero =>
        cases n with
        | zero => exact listens_pure []
        | succ n => exact listens_fail _
    | succ fuel ih =>
        cases n with
        | zero => exact listens_pure []
        | succ n =>
            refine (listens_read (n + 1)).listen (fun bs => ?_) rfl
            split
            · exact listens_fail _
            · exact (ih _).listen (fun more => listens_pure _) rfl
  exact hgo n n

end Writes

theorem runOn_bind_congr {t : Talk ε α} {f g : α → Talk ε β}
    (h : ∀ a s', t.runOn s = (.ok a, s') → (f a).runOn s' = (g a).runOn s') :
    (t >>= f).runOn s = (t >>= g).runOn s := by
  rw [runOn_bind, runOn_bind]
  cases hrun : t.runOn s with
  | mk result s' =>
      cases result with
      | error e => rfl
      | ok a => exact h a s' hrun

/-! ### What is read, however little is read at a time -/

theorem read_eq_ok {n : Nat} {bs : Bytes} {s' : Stream} (h : (read n).runOn s = (.ok bs, s')) :
    bs ++ s'.incoming = s.incoming := by
  cases hs : s.incoming with
  | nil =>
      rw [runOn_read_nil hs] at h
      cases he : s.ending with
      | closed =>
          rw [he] at h
          cases h
          exact hs
      | failed | silent =>
          rw [he] at h
          cases h
  | cons b rest =>
      rw [runOn_read_cons hs] at h
      cases h
      exact List.take_append_drop _ _

theorem go_eq_ok {fuel n : Nat} {bs : Bytes} {s' : Stream}
    (h : (readExactly.go fuel n).runOn s = (.ok bs, s')) : bs ++ s'.incoming = s.incoming := by
  induction fuel generalizing n s bs with
  | zero =>
      cases n with
      | zero =>
          cases h
          rfl
      | succ n => cases h
  | succ fuel ih =>
      cases n with
      | zero =>
          cases h
          rfl
      | succ n =>
          rw [readExactly.go, runOn_bind] at h
          cases hread : (read (n + 1)).runOn s with
          | mk result s₁ =>
              rw [hread] at h
              cases result with
              | error e => cases h
              | ok first =>
                  have hfirst := read_eq_ok hread
                  dsimp only at h
                  split at h
                  · cases h
                  · rw [runOn_bind] at h
                    cases hmore : (readExactly.go fuel (n + 1 - first.length)).runOn s₁ with
                    | mk result s₂ =>
                        rw [hmore] at h
                        cases result with
                        | error e => cases h
                        | ok more =>
                            cases h
                            rw [List.append_assoc, ih hmore, hfirst]

/-- What is read comes first of what was to come. -/
theorem prefix_of_readExactly {f : String → ε} {n : Nat} {bs : Bytes} {s' : Stream}
    (h : ((readExactly n).mapFault f).runOn s = (.ok bs, s')) : bs <+: s.incoming := by
  rw [runOn_mapFault] at h
  cases hrun : (readExactly n).runOn s with
  | mk result s₁ =>
      rw [hrun] at h
      cases result with
      | error e => cases h
      | ok bs' =>
          cases h
          exact ⟨_, go_eq_ok hrun⟩

theorem incoming_of_write {f : String → ε} {bs : Bytes} {u : Unit} {s' : Stream}
    (h : ((write bs).mapFault f).runOn s = (.ok u, s')) : s'.incoming = s.incoming := by
  rw [runOn_mapFault] at h
  rcases s.takes_or_lt bs.length with ht | ⟨r, hr, hlt⟩
  · rw [runOn_write_of_takes ht] at h
    cases h
    rfl
  · rw [runOn_write_of_lt hr hlt] at h
    cases h

end Talk

end RouteCascade.Tunnel
