import RouteCascade.Proofs.Http.ParsedHead

/-!
# Heads that are not cut short

Bytes that end as a head does are enough for whoever reads the head of a request: each of its readers
comes to an end before the bytes do, whether it takes what it reads or refuses it. Only empty lines leave
it without anything, since it is still in front of the message then.
-/
namespace RouteCascade.Http

open Text

section Ends
variable {s r x e : Bytes} {b : UInt8}

theorem headEnd_suffix_cons (hb : b ≠ cr) (h : headEnd <:+ b :: s) : headEnd <:+ s := by
  apply (List.suffix_cons_iff.mp h).resolve_left
  intro heq
  exact hb (List.cons.inj heq).1.symm

/-- What is taken within a line leaves the end of the head where it is. -/
theorem headEnd_suffix_append (hx : WithinLine x) (h : headEnd <:+ x ++ s) : headEnd <:+ s := by
  induction x with
  | nil => exact h
  | cons b x ih =>
      have hb : b ≠ cr := fun heq => hx.1 (heq ▸ List.mem_cons_self)
      have hrest : WithinLine x := (withinLine_append (x := [b]).mp hx).2
      exact ih hrest (headEnd_suffix_cons hb h)

theorem cr_mem_of_suffix (h : headEnd <:+ s) : cr ∈ s := h.subset List.mem_cons_self

theorem tail_ne_nil_of_suffix (h : headEnd <:+ b :: s) : s ≠ [] := by
  rintro rfl
  have hlen := h.length_le
  rw [List.length_singleton, show headEnd.length = 4 from rfl] at hlen
  omega

/-- Where the lines of a head may still go on: its end is ahead, or half of it is all that is left. -/
def NearEnd (s : Bytes) : Prop := headEnd <:+ s ∨ s = [cr, lf]

theorem nearEnd_of_lineEnd (he : LineEnd e) (h : headEnd <:+ e ++ s) : NearEnd s := by
  rcases he with rfl | rfl
  · exact .inl (headEnd_suffix_cons (by decide) h)
  · rcases List.suffix_cons_iff.mp h with heq | h
    · cases heq
      exact .inr rfl
    · exact .inl (headEnd_suffix_cons (by decide) h)

theorem NearEnd.tail_ne_nil (h : NearEnd (b :: s)) : s ≠ [] := by
  rcases h with h | h
  · exact tail_ne_nil_of_suffix h
  · cases h
    exact List.cons_ne_nil lf []

end Ends

section Readers
variable {α β : Type} {s r : Bytes}

theorem Step.andThen_ne_more {x : Step α} {f : α → Bytes → Step β} (hx : x ≠ .more)
    (hf : ∀ a m, x = .done a m → f a m ≠ .more) : x.andThen f ≠ .more := by
  cases x with
  | done a m => exact hf a m rfl
  | more => exact absurd rfl hx
  | bad e => simp

theorem expect_ne_more {b : UInt8} {fault : HeadFault} (h : s ≠ []) : expect b fault s ≠ .more := by
  cases s with
  | nil => exact absurd rfl h
  | cons c s =>
      rw [expect]
      split <;> simp

/-- A class of bytes that keeps out line ends is not read to the end of the bytes. -/
theorem span_ne_nil {p : UInt8 → Bool} (hcr : p cr = false) (h : headEnd <:+ s) : (span p s).2 ≠ [] := by
  intro hnil
  obtain ⟨hs, hp⟩ := span_spec p s
  rw [hnil, List.append_nil] at hs
  have hmem : cr ∈ (span p s).1 := hs ▸ cr_mem_of_suffix h
  exact Bool.false_ne_true (hcr.symm.trans (hp cr hmem))

theorem blank_of_skipEmptyLines (h : skipEmptyLines s = .more) : ∀ b ∈ s, b = cr ∨ b = lf := by
  induction s using skipEmptyLines.induct with
  | case1 => simp
  | case2 b hb => simpa using hb
  | case3 b hb =>
      rw [skipEmptyLines, if_neg hb] at h
      cases h
  | case4 rest ih =>
      have hrest := ih (by simpa [skipEmptyLines] using h)
      simpa using hrest
  | case5 c rest hc => simp [skipEmptyLines, hc] at h
  | case6 c rest hb ih =>
      have hrest := ih (by simpa [skipEmptyLines, hb] using h)
      simpa using hrest
  | case7 b c rest hcr hlf =>
      rw [skipEmptyLines, if_neg hcr, if_neg hlf] at h
      cases h

theorem headEnd_suffix_of_skipEmptyLines {u : Unit} (hs : skipEmptyLines s = .done u r)
    (h : headEnd <:+ s) : headEnd <:+ r := by
  induction s using skipEmptyLines.induct with
  | case1 => cases hs
  | case2 b hb =>
      rw [skipEmptyLines, if_pos hb] at hs
      cases hs
  | case3 b hb =>
      rw [skipEmptyLines, if_neg hb] at hs
      cases hs
      exact h
  | case4 rest ih =>
      have hrest : skipEmptyLines rest = .done u r := by simpa [skipEmptyLines] using hs
      rcases nearEnd_of_lineEnd (.inr rfl) h with h | rfl
      · exact ih hrest h
      · -- two empty lines are all there is
        cases hrest
  | case5 c rest hc => simp [skipEmptyLines, hc] at hs
  | case6 c rest hb ih =>
      exact ih (by simpa [skipEmptyLines, hb] using hs) (headEnd_suffix_cons (by decide) h)
  | case7 b c rest hcr hlf =>
      rw [skipEmptyLines, if_neg hcr, if_neg hlf] at hs
      cases hs
      exact h

theorem requestMethod_ne_more (h : headEnd <:+ s) : requestMethod s ≠ .more := by
  have hspan : (span isTokenByte s).2 ≠ [] := span_ne_nil (by decide) h
  unfold requestMethod
  split
  · rename_i hs
    exact absurd (congrArg Prod.snd hs) hspan
  · simp
  · rename_i hs
    exact absurd (congrArg Prod.snd hs) hspan
  · split <;> simp

theorem requestTarget_ne_more (h : headEnd <:+ s) : requestTarget s ≠ .more := by
  have hspan : (span isTargetByte s).2 ≠ [] := span_ne_nil (by decide) h
  unfold requestTarget
  split
  · rename_i hs
    exact absurd (congrArg Prod.snd hs) hspan
  · split
    · simp
    · split <;> simp

theorem version_ne_more (h : headEnd <:+ s) : version s ≠ .more := by
  unfold version
  split
  · split
    · split
      · simp
      · split <;> simp
    · simp
  · split
    · rename_i hstart
      have hmem := (List.isPrefixOf_iff_prefix.mp hstart).subset (cr_mem_of_suffix h)
      exact absurd hmem (by decide)
    · simp

theorem newLine_ne_more (h : headEnd <:+ s) : newLine s ≠ .more := by
  cases s with
  | nil => exact absurd h.length_le (by decide)
  | cons b s =>
      rw [newLine]
      split
      · exact expect_ne_more (tail_ne_nil_of_suffix h)
      · split <;> simp

theorem fieldValue_ne_more (h : headEnd <:+ s) : fieldValue s ≠ .more := by
  have hblank : WithinLine (s.takeWhile isLineBlank) :=
    withinLine_of_forall (by decide) (by decide) fun b hb => List.mem_takeWhile_imp hb
  rw [← List.takeWhile_append_dropWhile (p := isLineBlank) (l := s)] at h
  have hvalue := headEnd_suffix_append hblank h
  unfold fieldValue
  cases hx : span isValueByte (s.dropWhile isLineBlank) with
  | mk x rest =>
      obtain ⟨hs, hw⟩ := span_withinLine (by decide) (by decide) hx
      rw [hs] at hvalue
      have hrest := headEnd_suffix_append hw hvalue
      cases rest with
      | nil => exact absurd hrest.length_le (by decide)
      | cons b after =>
          dsimp only
          split
          · apply Step.andThen_ne_more (expect_ne_more (tail_ne_nil_of_suffix hrest))
            simp
          · split <;> simp

theorem field_ne_more (h : headEnd <:+ s) : field s ≠ .more := by
  have hspan : (span isTokenByte s).2 ≠ [] := span_ne_nil (by decide) h
  unfold field
  split
  · rename_i hs
    exact absurd (congrArg Prod.snd hs) hspan
  · simp
  · rename_i hs
    exact absurd (congrArg Prod.snd hs) hspan
  · rename_i name b after _ hname
    obtain ⟨hs, hw⟩ := span_withinLine (by decide) (by decide) hname
    split
    · rename_i hb
      rw [hs, hb] at h
      have hafter := headEnd_suffix_cons (by decide) (headEnd_suffix_append hw h)
      apply Step.andThen_ne_more (fieldValue_ne_more hafter)
      simp
    · simp

/-- Every field uses up some bytes, so the fuel lasts. -/
theorem fields_ne_more {fuel limit : Nat} (hfuel : s.length < fuel) (h : NearEnd s) :
    fields fuel limit s ≠ .more := by
  induction fuel generalizing limit s with
  | zero => exact absurd hfuel (Nat.not_lt_zero _)
  | succ fuel ih =>
      cases s with
      | nil => exact absurd h (by simp [NearEnd, headEnd])
      | cons b rest =>
          rw [fields]
          split
          · apply Step.andThen_ne_more (expect_ne_more h.tail_ne_nil)
            simp
          rename_i hcr
          split
          · simp
          have hend : headEnd <:+ b :: rest := h.resolve_right fun heq => hcr (List.cons.inj heq).1
          refine Step.andThen_ne_more (field_ne_more hend) fun f r hf => ?_
          obtain ⟨x, e, hne, hx, he, hs⟩ := field_done hf
          rw [hs] at hend
          have hnear : NearEnd r := nearEnd_of_lineEnd he (headEnd_suffix_append hx hend)
          have hlen : r.length < fuel := by
            have hsum := congrArg List.length hs
            have hpos := List.length_pos_iff.mpr hne
            simp only [List.length_append] at hsum
            omega
          cases limit with
          | zero => simp
          | succ limit =>
              apply Step.andThen_ne_more (ih hlen hnear)
              simp

theorem parse_ne_more {limit : Nat} (h : headEnd <:+ s) (hs : skipEmptyLines s ≠ .more) :
    RequestHead.parse limit s ≠ .more := by
  unfold RequestHead.parse
  refine Step.andThen_ne_more hs fun _ s₁ hskip => ?_
  have h₁ := headEnd_suffix_of_skipEmptyLines hskip h
  refine Step.andThen_ne_more (requestMethod_ne_more h₁) fun m s₂ hmethod => ?_
  obtain ⟨hm, rfl⟩ := requestMethod_done hmethod
  have h₂ := headEnd_suffix_cons (by decide) (headEnd_suffix_append hm h₁)
  refine Step.andThen_ne_more (requestTarget_ne_more h₂) fun t s₃ htarget => ?_
  obtain ⟨x, hx, rfl⟩ := requestTarget_done htarget
  have h₃ := headEnd_suffix_cons (by decide) (headEnd_suffix_append hx h₂)
  refine Step.andThen_ne_more (version_ne_more h₃) fun v s₄ hversion => ?_
  obtain ⟨y, -, hy, rfl⟩ := version_done hversion
  have h₄ := headEnd_suffix_append hy h₃
  refine Step.andThen_ne_more (newLine_ne_more h₄) fun _ s₅ hline => ?_
  obtain ⟨e, he, rfl⟩ := newLine_done hline
  have h₅ := nearEnd_of_lineEnd he h₄
  apply Step.andThen_ne_more (fields_ne_more (Nat.lt_succ_self _) h₅)
  simp

/-- Bytes that end as a head does are enough for the head of a request, unless they are nothing but empty
lines. -/
theorem blank_of_parse_eq_more {limit : Nat} (h : headEnd <:+ s)
    (hp : RequestHead.parse limit s = .more) : ∀ b ∈ s, b = cr ∨ b = lf := by
  by_cases hs : skipEmptyLines s = .more
  · exact blank_of_skipEmptyLines hs
  · exact absurd hp (parse_ne_more h hs)

end Readers

end RouteCascade.Http
