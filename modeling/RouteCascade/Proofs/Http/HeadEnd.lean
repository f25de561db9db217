import RouteCascade.Http.Head

/-!
# The end of a head

Two ways to find the end of a head: the first place where its last four bytes stand, and the first
number of bytes that end with them. They agree, and more bytes after such a place do not move it, so
that it does not matter in which portions the bytes come.
-/
namespace RouteCascade.Http

open Text

/-- The first end of a head is after `k` bytes. -/
structure FirstEnd (d : Bytes) (k : Nat) : Prop where
  fits : k ≤ d.length
  ends : headEnd <:+ d.take k
  first : ∀ j < k, ¬ headEnd <:+ d.take j

/-- No head ends within the first `n` bytes. -/
def NoEndWithin (n : Nat) (d : Bytes) : Prop := ∀ k ≤ n, ¬ headEnd <:+ d.take k

section
variable {d : Bytes} {b : UInt8} {k n : Nat}

theorem four_le_of_suffix_take (h : headEnd <:+ d.take k) : 4 ≤ k := by
  have hlen := h.length_le
  rw [List.length_take] at hlen
  have h4 : headEnd.length = 4 := rfl
  omega

/-- Unless a head ends four bytes from here, the first byte does not matter to where one ends. -/
theorem suffix_take_succ (h : ¬ headEnd <+: b :: d) (j : Nat) :
    headEnd <:+ (b :: d).take (j + 1) ↔ headEnd <:+ d.take j := by
  rw [List.take_succ_cons, List.suffix_cons_iff]
  constructor
  · rintro (he | hs)
    · exact absurd ⟨d.drop j, by rw [he, List.cons_append, List.take_append_drop]⟩ h
    · exact hs
  · exact .inr

theorem firstEnd_four (h : headEnd <+: d) : FirstEnd d 4 := by
  obtain ⟨t, rfl⟩ := h
  refine ⟨by simp [headEnd], List.suffix_refl _, fun j hj hs => ?_⟩
  have := four_le_of_suffix_take hs
  omega

theorem firstEnd_cons (h : ¬ headEnd <+: b :: d) : FirstEnd (b :: d) (k + 1) ↔ FirstEnd d k := by
  constructor
  · rintro ⟨hf, he, hn⟩
    refine ⟨Nat.le_of_succ_le_succ hf, (suffix_take_succ h k).mp he, fun j hj hs => ?_⟩
    exact hn (j + 1) (by omega) ((suffix_take_succ h j).mpr hs)
  · rintro ⟨hf, he, hn⟩
    refine ⟨Nat.succ_le_succ hf, (suffix_take_succ h k).mpr he, fun j hj hs => ?_⟩
    cases j with
    | zero => exact absurd (four_le_of_suffix_take hs) (by omega)
    | succ j => exact hn j (by omega) ((suffix_take_succ h j).mp hs)

theorem FirstEnd.unique {m : Nat} (hk : FirstEnd d k) (hm : FirstEnd d m) : k = m := by
  rcases Nat.lt_trichotomy k m with h | h | h
  · exact absurd hk.ends (hm.first k h)
  · exact h
  · exact absurd hm.ends (hk.first m h)

/-- The end that is found by looking at four bytes at a time is the first one. -/
theorem endOf?_eq_some_iff : endOf? d = some k ↔ FirstEnd d k := by
  induction d generalizing k with
  | nil =>
      refine ⟨nofun, fun h => ?_⟩
      have h4 := four_le_of_suffix_take h.ends
      exact absurd h.fits (by simp; omega)
  | cons b d ih =>
      simp only [endOf?, List.isPrefixOf_iff_prefix]
      split
      · rename_i hp
        have h4 := firstEnd_four hp
        exact ⟨fun h => Option.some.inj h ▸ h4, fun h => by rw [h4.unique h]⟩
      · rename_i hp
        cases k with
        | zero => exact ⟨by simp, fun h => absurd (four_le_of_suffix_take h.ends) (by omega)⟩
        | succ k => simp [firstEnd_cons hp, ih]

theorem endOf?_eq_none_iff : endOf? d = none ↔ ∀ k, ¬ headEnd <:+ d.take k := by
  induction d with
  | nil => simp [endOf?, headEnd]
  | cons b d ih =>
      simp only [endOf?, List.isPrefixOf_iff_prefix]
      split
      · rename_i hp
        exact ⟨nofun, fun h => absurd (firstEnd_four hp).ends (h 4)⟩
      · rename_i hp
        rw [Option.map_eq_none_iff, ih]
        constructor
        · intro h k hs
          cases k with
          | zero => exact absurd (four_le_of_suffix_take hs) (by omega)
          | succ k => exact h k ((suffix_take_succ hp k).mp hs)
        · intro h k hs
          exact h (k + 1) ((suffix_take_succ hp k).mpr hs)

theorem endOf?_take_eq_none_iff : endOf? (d.take n) = none ↔ NoEndWithin n d := by
  rw [endOf?_eq_none_iff]
  constructor
  · intro h k hk hs
    refine h k ?_
    rwa [List.take_take, Nat.min_eq_left hk]
  · intro h k hs
    rw [List.take_take] at hs
    exact h (min k n) (Nat.min_le_right k n) hs

theorem noEndWithin_zero (d : Bytes) : NoEndWithin 0 d := by
  intro k hk hs
  have h4 := four_le_of_suffix_take hs
  omega

theorem NoEndWithin.of_length (h : NoEndWithin d.length d) (n : Nat) : NoEndWithin n d := by
  intro k _
  rcases Nat.le_total k d.length with hk | hk
  · exact h k hk
  · rw [List.take_of_length_le hk, ← List.take_length (l := d)]
    exact h d.length (Nat.le_refl _)

theorem NoEndWithin.succ (h : NoEndWithin n d) (hn : ¬ headEnd <:+ d.take (n + 1)) :
    NoEndWithin (n + 1) d := by
  intro k hk
  rcases Nat.lt_or_eq_of_le hk with hlt | rfl
  · exact h k (Nat.le_of_lt_succ hlt)
  · exact hn

theorem NoEndWithin.firstEnd (h : NoEndWithin n d) (hf : n + 1 ≤ d.length)
    (he : headEnd <:+ d.take (n + 1)) : FirstEnd d (n + 1) :=
  ⟨hf, he, fun j hj => h j (Nat.le_of_lt_succ hj)⟩

/-- More bytes do not move an end. -/
theorem FirstEnd.append (h : FirstEnd d k) (x : Bytes) : FirstEnd (d ++ x) k := by
  refine ⟨Nat.le_trans h.fits (by simp), ?_, fun j hj => ?_⟩
  · rw [List.take_append_of_le_length h.fits]
    exact h.ends
  · rw [List.take_append_of_le_length (Nat.le_trans (Nat.le_of_lt hj) h.fits)]
    exact h.first j hj

theorem firstEnd_take_iff : FirstEnd (d.take n) k ↔ FirstEnd d k ∧ k ≤ n := by
  constructor
  · intro h
    have hk : k ≤ n := Nat.le_trans h.fits (List.length_take_le n d)
    have := h.append (d.drop n)
    rw [List.take_append_drop] at this
    exact ⟨this, hk⟩
  · rintro ⟨⟨hf, he, hn⟩, hk⟩
    refine ⟨by rw [List.length_take]; omega, ?_, fun j hj => ?_⟩
    · rwa [List.take_take, Nat.min_eq_left hk]
    · rw [List.take_take, Nat.min_eq_left (by omega)]
      exact hn j hj

variable (n d) in
theorem firstEnd_or_noEndWithin : (∃ k, FirstEnd d k ∧ k ≤ n) ∨ NoEndWithin n d := by
  cases h : endOf? (d.take n) with
  | none => exact .inr (endOf?_take_eq_none_iff.mp h)
  | some k => exact .inl ⟨k, firstEnd_take_iff.mp (endOf?_eq_some_iff.mp h)⟩

end

end RouteCascade.Http
