import RouteCascade.Proofs.Http.HeadEnd
import RouteCascade.Proofs.Http.WholeReply
import Mathlib.Data.List.Basic
import Mathlib.Data.List.TakeWhile

/-!
# Heads as they are understood

The readers of a head take whole lines off the front of some bytes, and a line may end in a bare line
feed. What they take is the shortest part that holds some text and ends with an empty line, however its
lines end. The last four bytes of a head tell its end only if every line feed has a carriage return in
front: otherwise the head that is understood may be over long before.
-/
namespace RouteCascade.Http

open Text

/-- A line end as the readers accept it. -/
def LineEnd (e : Bytes) : Prop := e = [lf] ∨ e = [cr, lf]

/-- Lines with their ends, and an empty line after them. -/
inductive LineBlock : Bytes → Prop
  | last {e : Bytes} : LineEnd e → LineBlock e
  | line {x e rest : Bytes} : x ≠ [] → WithinLine x → LineEnd e → LineBlock rest →
      LineBlock (x ++ (e ++ rest))

/-- Empty lines, the first line of a message, and its fields. -/
inductive HeadText : Bytes → Prop
  | mk {blank x e fields : Bytes} : (∀ b ∈ blank, b = cr ∨ b = lf) → x ≠ [] → WithinLine x →
      LineEnd e → LineBlock fields → HeadText (blank ++ (x ++ (e ++ fields)))

/-- Some text stands in these bytes, and an empty line is the last thing in them. -/
structure EndsEmpty (t : Bytes) : Prop where
  text : ∃ b ∈ t, b ≠ cr ∧ b ≠ lf
  ends : [lf, lf] <:+ t ∨ [lf, cr, lf] <:+ t

/-- The first empty line after some text is the last thing in these bytes. -/
structure ClosesFirst (t : Bytes) : Prop where
  ends : EndsEmpty t
  first : ∀ p, p <+: t → EndsEmpty p → p = t

section Lines
variable {x y e : Bytes} {b : UInt8}

theorem withinLine_nil : WithinLine [] := ⟨List.not_mem_nil, List.not_mem_nil⟩

theorem withinLine_append : WithinLine (x ++ y) ↔ WithinLine x ∧ WithinLine y := by
  simp only [WithinLine, List.mem_append, not_or]
  exact and_and_and_comm

theorem withinLine_of_forall {p : UInt8 → Bool} (hcr : p cr = false) (hlf : p lf = false)
    (h : ∀ b ∈ x, p b) : WithinLine x := by
  constructor
  · intro hx
    exact Bool.false_ne_true (hcr.symm.trans (h cr hx))
  · intro hx
    exact Bool.false_ne_true (hlf.symm.trans (h lf hx))

theorem withinLine_singleton (h : b ≠ cr ∧ b ≠ lf) : WithinLine [b] :=
  withinLine_nil.cons h.1 h.2

end Lines

/-! ### What the readers take -/

section Readers
variable {α β : Type} {s r : Bytes}

theorem Step.andThen_eq_done {x : Step α} {f : α → Bytes → Step β} {b : β} :
    x.andThen f = .done b r ↔ ∃ a m, x = .done a m ∧ f a m = .done b r := by
  cases x with
  | done a m =>
      rw [Step.andThen_done]
      refine ⟨fun h => ⟨a, m, rfl, h⟩, ?_⟩
      rintro ⟨_, _, ⟨⟩, h⟩
      exact h
  | more | bad => simp

theorem expect_done {b : UInt8} {fault : HeadFault} {u : Unit} (h : expect b fault s = .done u r) :
    s = b :: r := by
  cases s with
  | nil => cases h
  | cons c s =>
      rw [expect] at h
      split at h
      · rename_i hc
        cases h
        rw [hc]
      · cases h

/-- The readers of lines all tell a line end in the same way. -/
theorem lineEnd_of_done {b : UInt8} {x y : HeadFault} {u : Unit}
    (h : (if b = cr then expect lf x s else if b = lf then .done () s else .bad y) = .done u r) :
    ∃ e, LineEnd e ∧ b :: s = e ++ r := by
  split at h
  · rename_i hb
    exact ⟨[cr, lf], .inr rfl, by rw [hb, expect_done h]; rfl⟩
  split at h
  · rename_i hb
    cases h
    exact ⟨[lf], .inl rfl, by rw [hb]; rfl⟩
  · cases h

theorem newLine_done {u : Unit} (h : newLine s = .done u r) : ∃ e, LineEnd e ∧ s = e ++ r := by
  cases s with
  | nil => cases h
  | cons b s => exact lineEnd_of_done h

theorem skipEmptyLines_done {u : Unit} (h : skipEmptyLines s = .done u r) :
    ∃ x, (∀ b ∈ x, b = cr ∨ b = lf) ∧ s = x ++ r := by
  induction s using skipEmptyLines.induct generalizing r with
  | case1 => cases h
  | case2 b hb =>
      rw [skipEmptyLines, if_pos hb] at h
      cases h
  | case3 b hb =>
      rw [skipEmptyLines, if_neg hb] at h
      cases h
      exact ⟨[], nofun, rfl⟩
  | case4 rest ih =>
      obtain ⟨x, hx, rfl⟩ := ih (by simpa [skipEmptyLines] using h)
      exact ⟨cr :: lf :: x, by simpa using hx, rfl⟩
  | case5 c rest hc =>
      simp [skipEmptyLines, hc] at h
  | case6 c rest hb ih =>
      obtain ⟨x, hx, hrest⟩ := ih (by simpa [skipEmptyLines, hb] using h)
      exact ⟨lf :: x, by simpa using hx, by rw [hrest]; rfl⟩
  | case7 b c rest hcr hlf =>
      rw [skipEmptyLines, if_neg hcr, if_neg hlf] at h
      cases h
      exact ⟨[], nofun, rfl⟩

theorem span_spec (p : UInt8 → Bool) (s : Bytes) :
    s = (span p s).1 ++ (span p s).2 ∧ ∀ b ∈ (span p s).1, p b := by
  induction s with
  | nil => exact ⟨rfl, nofun⟩
  | cons b s ih =>
      rw [span]
      split
      · rename_i hb
        exact ⟨congrArg (b :: ·) ih.1, List.forall_mem_cons.mpr ⟨hb, ih.2⟩⟩
      · exact ⟨rfl, nofun⟩

/-- The bytes of a class that keeps out line ends are within a line. -/
theorem span_withinLine {p : UInt8 → Bool} (hcr : p cr = false) (hlf : p lf = false) {x : Bytes}
    (h : span p s = (x, r)) : s = x ++ r ∧ WithinLine x := by
  obtain ⟨hs, hx⟩ := span_spec p s
  rw [h] at hs hx
  exact ⟨hs, withinLine_of_forall hcr hlf hx⟩

theorem version_done {v : Nat} (h : version s = .done v r) :
    ∃ x, x ≠ [] ∧ WithinLine x ∧ s = x ++ r := by
  unfold version at h
  split at h
  · rename_i a b c d e f g m rest
    split at h
    · rename_i hv
      have hdigit : (m = 48 ∨ m = 49) ∧ rest = r := by
        split at h
        · cases h
          exact ⟨.inl ‹_›, rfl⟩
        split at h
        · cases h
          exact ⟨.inr ‹_›, rfl⟩
        · cases h
      obtain ⟨hm, rfl⟩ := hdigit
      refine ⟨versionStart ++ [m], by simp, ?_, by rw [← hv]; rfl⟩
      refine withinLine_append.mpr ⟨⟨by decide, by decide⟩, withinLine_singleton ?_⟩
      rcases hm with rfl | rfl <;> decide
    · cases h
  · split at h <;> cases h

theorem requestMethod_done {m : Bytes} (h : requestMethod s = .done m r) :
    WithinLine m ∧ s = m ++ 32 :: r := by
  unfold requestMethod at h
  split at h
  · cases h
  · cases h
  · cases h
  · rename_i x b rest _ hx
    obtain ⟨hs, hw⟩ := span_withinLine (by decide) (by decide) hx
    split at h
    · rename_i hb
      cases h
      exact ⟨hw, by rw [hs, hb]⟩
    · cases h

theorem requestTarget_done {t : String} (h : requestTarget s = .done t r) :
    ∃ x, WithinLine x ∧ s = x ++ 32 :: r := by
  unfold requestTarget at h
  split at h
  · cases h
  · rename_i x b rest hx
    obtain ⟨hs, hw⟩ := span_withinLine (by decide) (by decide) hx
    split at h
    · cases h
    rename_i hb
    split at h
    · cases h
      rw [not_or, not_not] at hb
      exact ⟨x, hw, by rw [hs, hb.1]⟩
    · cases h

theorem codeDigit_done {n : Nat} (h : codeDigit s = .done n r) :
    ∃ b, WithinLine [b] ∧ s = b :: r := by
  cases s with
  | nil => cases h
  | cons b s =>
      rw [codeDigit] at h
      split at h
      · rename_i hb
        cases h
        refine ⟨b, withinLine_singleton ⟨?_, ?_⟩, rfl⟩
        · rintro rfl
          exact absurd hb (by decide)
        · rintro rfl
          exact absurd hb (by decide)
      · cases h

theorem reason_done {u : Unit} (h : reason s = .done u r) :
    ∃ x e, WithinLine x ∧ LineEnd e ∧ s = x ++ (e ++ r) := by
  unfold reason at h
  split at h
  · cases h
  split at h
  · rename_i hb
    split at h
    · cases h
    · rename_i x c after hx
      obtain ⟨hs, hw⟩ := span_withinLine (by decide) (by decide) hx
      obtain ⟨e, he, hafter⟩ := lineEnd_of_done h
      exact ⟨32 :: x, e, hw.cons (by decide) (by decide), he, by rw [hb, hs, hafter]; rfl⟩
  · obtain ⟨e, he, hs⟩ := lineEnd_of_done h
    exact ⟨[], e, withinLine_nil, he, hs⟩

theorem fieldValue_done {v : Bytes} (h : fieldValue s = .done v r) :
    ∃ x e, WithinLine x ∧ LineEnd e ∧ s = x ++ (e ++ r) := by
  have hblank : WithinLine (s.takeWhile isLineBlank) :=
    withinLine_of_forall (by decide) (by decide) fun b hb => List.mem_takeWhile_imp hb
  unfold fieldValue at h
  cases hx : span isValueByte (s.dropWhile isLineBlank) with
  | mk x rest =>
      obtain ⟨hs, hw⟩ := span_withinLine (by decide) (by decide) hx
      have hline := withinLine_append.mpr ⟨hblank, hw⟩
      have hwhole : s = s.takeWhile isLineBlank ++ x ++ rest := by
        rw [List.append_assoc, ← hs, List.takeWhile_append_dropWhile]
      simp only [hx] at h
      split at h
      · cases h
      · rename_i b after
        split at h
        · rename_i hb
          obtain ⟨_, m, he, hm⟩ := Step.andThen_eq_done.mp h
          cases hm
          refine ⟨_, [cr, lf], hline, .inr rfl, hwhole.trans ?_⟩
          rw [hb, expect_done he]
          rfl
        split at h
        · rename_i hb
          cases h
          refine ⟨_, [lf], hline, .inl rfl, hwhole.trans ?_⟩
          rw [hb]
          rfl
        · cases h

theorem field_done {f : Field} (h : field s = .done f r) :
    ∃ x e, x ≠ [] ∧ WithinLine x ∧ LineEnd e ∧ s = x ++ (e ++ r) := by
  unfold field at h
  split at h
  · cases h
  · cases h
  · cases h
  · rename_i name b after hne hname
    obtain ⟨hs, hw⟩ := span_withinLine (by decide) (by decide) hname
    split at h
    · rename_i hb
      obtain ⟨v, m, hv, hm⟩ := Step.andThen_eq_done.mp h
      cases hm
      obtain ⟨x, e, hx, he, hafter⟩ := fieldValue_done hv
      refine ⟨name ++ 58 :: x, e, by simp, ?_, he, by rw [hs, hb, hafter]; simp⟩
      exact withinLine_append.mpr ⟨hw, hx.cons (by decide) (by decide)⟩
    · cases h

theorem fields_done {fuel limit : Nat} {fs : List Field} (h : fields fuel limit s = .done fs r) :
    ∃ x, LineBlock x ∧ s = x ++ r := by
  induction fuel generalizing limit s fs with
  | zero => cases h
  | succ fuel ih =>
      cases s with
      | nil => cases h
      | cons b rest =>
          rw [fields] at h
          split at h
          · rename_i hb
            obtain ⟨_, m, he, hm⟩ := Step.andThen_eq_done.mp h
            cases hm
            exact ⟨[cr, lf], .last (.inr rfl), by rw [hb, expect_done he]; rfl⟩
          split at h
          · rename_i hb
            cases h
            exact ⟨[lf], .last (.inl rfl), by rw [hb]; rfl⟩
          · obtain ⟨f, m, hf, hm⟩ := Step.andThen_eq_done.mp h
            obtain ⟨x, e, hne, hx, he, hs⟩ := field_done hf
            cases limit with
            | zero => cases hm
            | succ limit =>
                obtain ⟨fs', m', hfs, hm'⟩ := Step.andThen_eq_done.mp hm
                cases hm'
                obtain ⟨y, hy, rfl⟩ := ih hfs
                exact ⟨x ++ (e ++ y), .line hne hx he hy, by rw [hs]; simp⟩

theorem headText_request {limit : Nat} {h : RequestHead} (hp : RequestHead.parse limit s = .done h r) :
    ∃ t, HeadText t ∧ s = t ++ r := by
  unfold RequestHead.parse at hp
  obtain ⟨_, s₁, hskip, hp⟩ := Step.andThen_eq_done.mp hp
  obtain ⟨m, s₂, hmethod, hp⟩ := Step.andThen_eq_done.mp hp
  obtain ⟨t, s₃, htarget, hp⟩ := Step.andThen_eq_done.mp hp
  obtain ⟨v, s₄, hversion, hp⟩ := Step.andThen_eq_done.mp hp
  obtain ⟨_, s₅, hline, hp⟩ := Step.andThen_eq_done.mp hp
  obtain ⟨fs, s₆, hfields, hp⟩ := Step.andThen_eq_done.mp hp
  cases hp
  obtain ⟨blank, hblank, rfl⟩ := skipEmptyLines_done hskip
  obtain ⟨hm, rfl⟩ := requestMethod_done hmethod
  obtain ⟨x, hx, rfl⟩ := requestTarget_done htarget
  obtain ⟨y, hne, hy, rfl⟩ := version_done hversion
  obtain ⟨e, he, rfl⟩ := newLine_done hline
  obtain ⟨z, hz, rfl⟩ := fields_done hfields
  have hfirst : WithinLine (m ++ 32 :: (x ++ 32 :: y)) := by
    have h32 : ∀ {y}, WithinLine y → WithinLine (32 :: y) := fun hy => hy.cons (by decide) (by decide)
    exact withinLine_append.mpr ⟨hm, h32 (withinLine_append.mpr ⟨hx, h32 hy⟩)⟩
  exact ⟨_, .mk hblank (by simp) hfirst he hz, by simp⟩

theorem headText_response {limit : Nat} {h : ResponseHead}
    (hp : ResponseHead.parse limit s = .done h r) : ∃ t, HeadText t ∧ s = t ++ r := by
  unfold ResponseHead.parse at hp
  obtain ⟨_, s₁, hskip, hp⟩ := Step.andThen_eq_done.mp hp
  obtain ⟨v, s₂, hversion, hp⟩ := Step.andThen_eq_done.mp hp
  obtain ⟨_, s₃, hblank, hp⟩ := Step.andThen_eq_done.mp hp
  obtain ⟨_, s₄, hfirst, hp⟩ := Step.andThen_eq_done.mp hp
  obtain ⟨_, s₅, hsecond, hp⟩ := Step.andThen_eq_done.mp hp
  obtain ⟨_, s₆, hthird, hp⟩ := Step.andThen_eq_done.mp hp
  obtain ⟨_, s₇, hreason, hp⟩ := Step.andThen_eq_done.mp hp
  obtain ⟨fs, s₈, hfields, hp⟩ := Step.andThen_eq_done.mp hp
  cases hp
  obtain ⟨blank, hskipped, rfl⟩ := skipEmptyLines_done hskip
  obtain ⟨x, hne, hx, rfl⟩ := version_done hversion
  obtain rfl := expect_done hblank
  obtain ⟨a, ha, rfl⟩ := codeDigit_done hfirst
  obtain ⟨b, hb, rfl⟩ := codeDigit_done hsecond
  obtain ⟨c, hc, rfl⟩ := codeDigit_done hthird
  obtain ⟨y, e, hy, he, rfl⟩ := reason_done hreason
  obtain ⟨z, hz, rfl⟩ := fields_done hfields
  have hline : WithinLine (x ++ 32 :: ([a] ++ ([b] ++ ([c] ++ y)))) := by
    have hcode := withinLine_append.mpr ⟨ha, withinLine_append.mpr ⟨hb, withinLine_append.mpr ⟨hc, hy⟩⟩⟩
    exact withinLine_append.mpr ⟨hx, hcode.cons (by decide) (by decide)⟩
  exact ⟨_, .mk hskipped (by simp) hline he hz, by simp⟩

end Readers

/-! ### Where it ends -/

section Ends
variable {t x e p rest : Bytes}

theorem EndsEmpty.feed (h : EndsEmpty t) : [lf] <:+ t := by
  rcases h.ends with hs | hs
  · exact List.IsSuffix.trans ⟨[lf], rfl⟩ hs
  · exact List.IsSuffix.trans ⟨[lf, cr], rfl⟩ hs

/-- A part of a list of two parts is a part of the first one, or all of it and a part of the second. -/
theorem prefix_append_cases {x y : Bytes} (h : p <+: x ++ y) :
    p <+: x ∨ ∃ q, q <+: y ∧ p = x ++ q := by
  obtain ⟨s, hs⟩ := h
  rcases List.append_eq_append_iff.mp hs with ⟨w, rfl, -⟩ | ⟨w, rfl, hw⟩
  · exact .inl ⟨w, rfl⟩
  · exact .inr ⟨w, ⟨s, hw.symm⟩, rfl⟩

/-- Nothing that ends in a byte of a line ends with an empty line. -/
theorem not_endsEmpty_of_withinLine (hne : p ≠ []) (hp : WithinLine p) (t : Bytes) :
    ¬ EndsEmpty (t ++ p) := by
  intro h
  have hlf : [lf] <:+ p := List.suffix_of_suffix_length_le h.feed (List.suffix_append t p)
    (List.length_pos_iff.mpr hne)
  exact hp.2 (hlf.subset (List.mem_singleton_self lf))

/-- These bytes end with a line, and with no empty one. -/
structure EndsLine (t : Bytes) : Prop where
  text : ∃ b ∈ t, b ≠ cr ∧ b ≠ lf
  feed : [lf] <:+ t
  notEmpty : ¬ EndsEmpty t

theorem endsLine_append (hne : x ≠ []) (hx : WithinLine x) (he : LineEnd e) (t : Bytes) :
    EndsLine (t ++ (x ++ e)) := by
  obtain ⟨y, b, rfl⟩ := (List.eq_nil_or_concat' x).resolve_left hne
  have hb := (withinLine_append.mp hx).2
  have hcr : cr ≠ b := fun h => hb.1 (List.mem_singleton.mpr h)
  have hlf : lf ≠ b := fun h => hb.2 (List.mem_singleton.mpr h)
  refine ⟨⟨b, by simp, hcr.symm, hlf.symm⟩, ?_, fun h => ?_⟩
  · rcases he with rfl | rfl
    · exact ⟨t ++ (y ++ [b]), by simp⟩
    · exact ⟨t ++ (y ++ [b] ++ [cr]), by simp⟩
  · -- the byte in front of the line end is one of the line
    have hends := h.ends
    rw [← List.reverse_prefix, ← List.reverse_prefix] at hends
    rcases he with rfl | rfl
    · simp [hlf, hcr] at hends
    · simp [hlf, show lf ≠ cr by decide] at hends

theorem EndsLine.append_lineEnd (h : EndsLine t) (he : LineEnd e) : EndsEmpty (t ++ e) := by
  obtain ⟨⟨b, hb, hne⟩, ⟨u, rfl⟩, -⟩ := h
  refine ⟨⟨b, List.mem_append_left e hb, hne⟩, ?_⟩
  rcases he with rfl | rfl
  · exact .inl ⟨u, by simp⟩
  · exact .inr ⟨u, by simp⟩

/-- A part of a line end is all of it if it ends with a line feed. -/
theorem LineEnd.eq_of_feed (he : LineEnd e) (hp : p <+: e) (hne : p ≠ []) (h : [lf] <:+ t ++ p) :
    p = e := by
  rcases he with rfl | rfl
  · obtain ⟨q, rfl, hq⟩ := (List.prefix_cons_iff.mp hp).resolve_left hne
    rw [List.prefix_nil.mp hq]
  · obtain ⟨q, rfl, hq⟩ := (List.prefix_cons_iff.mp hp).resolve_left hne
    rcases List.prefix_cons_iff.mp hq with rfl | ⟨w, rfl, hw⟩
    · rw [← List.reverse_prefix] at h
      simp [show lf ≠ cr by decide] at h
    · rw [List.prefix_nil.mp hw]

/-- A line and its end bring no empty line about, but what follows them may. -/
theorem later_of_endsEmpty (hne : x ≠ []) (hx : WithinLine x) (he : LineEnd e)
    (hp : p <+: x ++ (e ++ rest)) (h : EndsEmpty (t ++ p)) :
    p = [] ∨ ∃ q, q <+: rest ∧ p = x ++ (e ++ q) := by
  by_cases hnil : p = []
  · exact .inl hnil
  rcases prefix_append_cases hp with hp | ⟨q, hq, rfl⟩
  · have hw : WithinLine p := by
      obtain ⟨y, rfl⟩ := hp
      exact (withinLine_append.mp hx).1
    exact absurd h (not_endsEmpty_of_withinLine hnil hw t)
  rcases prefix_append_cases hq with hq | ⟨w, hw, rfl⟩
  · by_cases hqnil : q = []
    · rw [hqnil, List.append_nil] at h
      exact absurd h (not_endsEmpty_of_withinLine hne hx t)
    · have hfeed := h.feed
      rw [← List.append_assoc] at hfeed
      refine .inr ⟨[], List.nil_prefix, ?_⟩
      rw [he.eq_of_feed hq hqnil hfeed, List.append_nil]
  · exact .inr ⟨w, hw, rfl⟩

/-- After a line the lines of a block have no empty one but the last. -/
theorem LineBlock.closes {b : Bytes} (hb : LineBlock b) (ht : EndsLine t) :
    EndsEmpty (t ++ b) ∧ ∀ p, p <+: b → EndsEmpty (t ++ p) → p = b := by
  induction hb generalizing t with
  | last he =>
      refine ⟨ht.append_lineEnd he, fun p hp h => ?_⟩
      by_cases hne : p = []
      · rw [hne, List.append_nil] at h
        exact absurd h ht.notEmpty
      · exact he.eq_of_feed hp hne h.feed
  | @line x e rest hne hx he _ ih =>
      obtain ⟨hends, hfirst⟩ := ih (endsLine_append hne hx he t)
      have hassoc : ∀ q, t ++ (x ++ (e ++ q)) = t ++ (x ++ e) ++ q := by simp
      refine ⟨by rwa [hassoc], fun p hp h => ?_⟩
      rcases later_of_endsEmpty hne hx he hp h with rfl | ⟨q, hq, rfl⟩
      · rw [List.append_nil] at h
        exact absurd h ht.notEmpty
      · rw [hassoc] at h
        rw [hfirst q hq h]

theorem not_endsEmpty_of_blank (h : ∀ b ∈ t, b = cr ∨ b = lf) : ¬ EndsEmpty t := by
  rintro ⟨⟨b, hb, hcr, hlf⟩, -⟩
  exact (h b hb).elim hcr hlf

theorem HeadText.closesFirst (h : HeadText t) : ClosesFirst t := by
  obtain ⟨hblank, hne, hx, he, hfields⟩ := h
  rename_i blank x e fields
  obtain ⟨hends, hfirst⟩ := hfields.closes (endsLine_append hne hx he blank)
  have hassoc : ∀ q, blank ++ (x ++ (e ++ q)) = blank ++ (x ++ e) ++ q := by simp
  refine ⟨by rwa [hassoc], fun p hp h => ?_⟩
  rcases prefix_append_cases hp with hp | ⟨q, hq, rfl⟩
  · exact absurd h (not_endsEmpty_of_blank fun b hb => hblank b (hp.subset hb))
  rcases later_of_endsEmpty hne hx he hq h with rfl | ⟨w, hw, rfl⟩
  · rw [List.append_nil] at h
    exact absurd h (not_endsEmpty_of_blank hblank)
  · rw [hassoc] at h
    rw [hfirst w hw h]

end Ends

def FeedsReturned (d : Bytes) : Prop := ∀ u v, d = u ++ lf :: v → [cr] <:+ u

/-- How the head that is understood stands in a head that was taken off for its last four bytes. -/
structure Boundary (head rest : Bytes) : Prop where
  split : ∃ t, head = t ++ rest ∧ ClosesFirst t
  /-- Nothing is left over if and only if the head has no empty line but the last. -/
  exact_iff : rest = [] ↔ ∀ p, p <+: head → EndsEmpty p → p = head
  returned : FeedsReturned head → rest = []

section Boundary
variable {d t rest : Bytes} {k : Nat}

/-- With a carriage return in front of every line feed, an empty line is an end of four bytes. -/
theorem EndsEmpty.headEnd_suffix {p : Bytes} (h : EndsEmpty p) (hp : p <+: d) (hd : FeedsReturned d) :
    headEnd <:+ p := by
  obtain ⟨v, rfl⟩ := hp
  rcases h.ends with ⟨u, rfl⟩ | ⟨u, rfl⟩
  · have hcr := hd (u ++ [lf]) v (by simp)
    rw [← List.reverse_prefix] at hcr
    simp [show cr ≠ lf by decide] at hcr
  · obtain ⟨w, rfl⟩ := hd u (cr :: lf :: v) (by simp)
    exact ⟨w, by simp [headEnd]⟩

theorem boundary_of_headText (hk : FirstEnd d k) (ht : HeadText t) (hsplit : d.take k = t ++ rest) :
    Boundary (d.take k) rest := by
  have hcloses := ht.closesFirst
  have hwhole : rest = [] ↔ t = d.take k := by
    rw [hsplit]
    exact List.self_eq_append_right.symm
  have hp : t <+: d.take k := ⟨rest, hsplit.symm⟩
  refine ⟨⟨t, hsplit, hcloses⟩, ?_, fun hd => ?_⟩
  · constructor
    · intro hnil
      rw [← hwhole.mp hnil]
      exact hcloses.first
    · intro h
      exact hwhole.mpr (h t hp hcloses.ends)
  · -- the empty line that ends the text is an end of four bytes, and there is none before the last
    have hends := hcloses.ends.headEnd_suffix hp hd
    have htake : t = d.take t.length := List.prefix_iff_eq_take.mp (hp.trans (List.take_prefix k d))
    have hlen : k ≤ t.length := by
      by_contra hlt
      rw [htake] at hends
      exact hk.first t.length (Nat.not_le.mp hlt) hends
    rw [hwhole]
    exact hp.eq_of_length_le (by rw [List.length_take]; omega)

end Boundary

end RouteCascade.Http
