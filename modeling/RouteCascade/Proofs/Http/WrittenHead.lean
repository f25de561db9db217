import RouteCascade.Proofs.Http.HeadEnd
import RouteCascade.Proofs.Text.Utf8

/-!
# Heads as they are written

A head is written line by line, each with its line end, and an empty line at the end. If no line is empty
or holds a carriage return, the head ends nowhere before that, and reading it gives its fields without the
blanks around their values.
-/
namespace RouteCascade.Http

open Text

def headOf (lines : List Bytes) : Bytes := lines.flatMap (· ++ [cr, lf]) ++ [cr, lf]

def Field.line (f : Field) : Bytes := f.name ++ 58 :: 32 :: f.value

def requestLine (method : Bytes) (target : String) : Bytes :=
  method ++ 32 :: (bytesOf target ++ 32 :: (versionStart ++ [49]))

/-- A field as it is read back: the blanks around its value are not part of it. -/
def Field.trimmed (f : Field) : Field :=
  { f with value := trimValueEnd (f.value.dropWhile isLineBlank) }

structure Field.Writable (f : Field) : Prop where
  named : f.name ≠ []
  name : ∀ b ∈ f.name, isTokenByte b
  value : ∀ b ∈ f.value, isValueByte b

theorem headOf_cons (line : Bytes) (lines : List Bytes) :
    headOf (line :: lines) = line ++ cr :: lf :: headOf lines := by
  simp [headOf]

section Ends
variable {line d : Bytes} {k : Nat}

theorem not_prefix_of_ne_cr {b : UInt8} (hb : b ≠ cr) (d : Bytes) : ¬ headEnd <+: b :: d := by
  intro h
  exact hb (List.cons_prefix_cons.mp h).1.symm

/-- No head ends before the end of a line. -/
theorem firstEnd_append (hline : cr ∉ line) (h : FirstEnd d k) : FirstEnd (line ++ d) (line.length + k) := by
  induction line with
  | nil => rwa [List.nil_append, List.length_nil, Nat.zero_add]
  | cons b line ih =>
      rw [List.mem_cons, not_or] at hline
      rw [List.cons_append, List.length_cons, Nat.add_right_comm]
      exact (firstEnd_cons (not_prefix_of_ne_cr (Ne.symm hline.1) _)).mpr (ih hline.2)

/-- A line end is not the end of a head, unless the line that follows is empty. -/
theorem firstEnd_lineEnd (hd : d.head? ≠ some cr) (h : FirstEnd d k) : FirstEnd (cr :: lf :: d) (k + 2) := by
  have hlf : ¬ headEnd <+: lf :: d := not_prefix_of_ne_cr (by decide) d
  have hcr : ¬ headEnd <+: cr :: lf :: d := by
    intro hp
    have hp' : [cr, lf] <+: d := by
      rwa [headEnd, List.prefix_cons_inj, List.prefix_cons_inj] at hp
    obtain ⟨t, rfl⟩ := hp'
    exact hd rfl
  exact (firstEnd_cons hcr).mpr ((firstEnd_cons hlf).mpr h)

theorem head?_headOf_cons (hne : line ≠ []) (hline : cr ∉ line) (lines : List Bytes) :
    (headOf (line :: lines)).head? ≠ some cr := by
  obtain ⟨b, rest, rfl⟩ := List.exists_cons_of_ne_nil hne
  rw [List.mem_cons, not_or] at hline
  rw [headOf_cons, List.cons_append, List.head?_cons, ne_eq, Option.some_inj]
  exact Ne.symm hline.1

/-- A written head has no end but its own. -/
theorem firstEnd_headOf (line : Bytes) (lines : List Bytes)
    (h : ∀ l ∈ line :: lines, l ≠ [] ∧ cr ∉ l) :
    FirstEnd (headOf (line :: lines)) (headOf (line :: lines)).length := by
  induction lines generalizing line with
  | nil =>
      have hlast := firstEnd_append (h line List.mem_cons_self).2 (firstEnd_four (List.prefix_refl headEnd))
      have hhead : headOf [line] = line ++ headEnd := by simp [headOf, headEnd]
      rwa [hhead, List.length_append]
  | cons next lines ih =>
      have hnext := h next (List.mem_cons_of_mem _ List.mem_cons_self)
      have hrest := ih next fun l hl => h l (List.mem_cons_of_mem _ hl)
      have hstart := head?_headOf_cons hnext.1 hnext.2 lines
      have hfirst := firstEnd_append (h line List.mem_cons_self).2 (firstEnd_lineEnd hstart hrest)
      rw [headOf_cons]
      simpa using hfirst

end Ends

section Reading
variable {p : UInt8 → Bool} {xs rest : Bytes}

/-- The bytes of a class are read up to the first one that is not in it. -/
theorem span_append_cons (hxs : ∀ b ∈ xs, p b) {b : UInt8} (hb : p b = false) :
    span p (xs ++ b :: rest) = (xs, b :: rest) := by
  induction xs with
  | nil => simp [span, hb]
  | cons x xs ih =>
      rw [List.forall_mem_cons] at hxs
      rw [List.cons_append, span, if_pos hxs.1, ih hxs.2]

theorem ne_lineEnd_of_isTokenByte {b : UInt8} (h : isTokenByte b) : b ≠ cr ∧ b ≠ lf := by
  constructor <;> rintro rfl <;> exact absurd h (by decide)

theorem Field.line_ne {f : Field} (hnamed : f.name ≠ []) (hname : cr ∉ f.name) (hvalue : cr ∉ f.value) :
    f.line ≠ [] ∧ cr ∉ f.line := by
  constructor
  · intro hnil
    exact hnamed (List.append_eq_nil_iff.mp hnil).1
  · intro hcr
    simp only [Field.line, List.mem_append, List.mem_cons] at hcr
    rcases hcr with hcr | hcr | hcr | hcr
    · exact hname hcr
    · exact absurd hcr (by decide)
    · exact absurd hcr (by decide)
    · exact hvalue hcr

theorem Field.Writable.line_ne {f : Field} (h : f.Writable) : f.line ≠ [] ∧ cr ∉ f.line :=
  Field.line_ne h.named (fun hcr => absurd (h.name cr hcr) (by decide))
    fun hcr => absurd (h.value cr hcr) (by decide)

theorem requestLine_ne {m : Bytes} (hm : cr ∉ m) {t : String} (ht : cr ∉ bytesOf t) :
    requestLine m t ≠ [] ∧ cr ∉ requestLine m t := by
  constructor
  · simp [requestLine]
  · intro hcr
    simp only [requestLine, List.mem_append, List.mem_cons] at hcr
    rcases hcr with hcr | hcr | hcr | hcr | hcr
    · exact hm hcr
    · exact absurd hcr (by decide)
    · exact ht hcr
    · exact absurd hcr (by decide)
    · exact absurd hcr (by decide)

/-- A written request has no end but its own. -/
theorem firstEnd_request {m : Bytes} (hm : ∀ b ∈ m, isTokenByte b) {t : String}
    (ht : ∀ b ∈ bytesOf t, isTargetByte b) {fs : List Field} (hfs : ∀ f ∈ fs, f.Writable) :
    FirstEnd (headOf (requestLine m t :: fs.map Field.line))
      (headOf (requestLine m t :: fs.map Field.line)).length := by
  have hline := requestLine_ne (m := m) (t := t) (fun hcr => absurd (hm cr hcr) (by decide))
    fun hcr => absurd (ht cr hcr) (by decide)
  refine firstEnd_headOf _ _ (List.forall_mem_cons.mpr ⟨hline, fun l hl => ?_⟩)
  obtain ⟨f, hf, rfl⟩ := List.mem_map.mp hl
  exact (hfs f hf).line_ne

theorem fieldValue_append (h : ∀ b ∈ xs, isValueByte b) :
    fieldValue (xs ++ cr :: lf :: rest) = .done (trimValueEnd (xs.dropWhile isLineBlank)) rest := by
  have hdrop : (xs ++ cr :: lf :: rest).dropWhile isLineBlank =
      xs.dropWhile isLineBlank ++ cr :: lf :: rest :=
    dropWhile_append_cons (by decide) xs (lf :: rest)
  have hspan : span isValueByte (xs.dropWhile isLineBlank ++ cr :: lf :: rest) =
      (xs.dropWhile isLineBlank, cr :: lf :: rest) :=
    span_append_cons (fun b hb => h b ((List.dropWhile_sublist _).subset hb)) (by decide)
  rw [fieldValue, hdrop, hspan]
  rfl

theorem field_line {f : Field} (h : f.Writable) (rest : Bytes) :
    field (f.line ++ cr :: lf :: rest) = .done f.trimmed rest := by
  have hvalue : ∀ b ∈ 32 :: f.value, isValueByte b :=
    List.forall_mem_cons.mpr ⟨by decide, h.value⟩
  have hspan : span isTokenByte (f.line ++ cr :: lf :: rest) =
      (f.name, 58 :: (32 :: f.value ++ cr :: lf :: rest)) := by
    rw [Field.line, List.append_assoc]
    exact span_append_cons h.name (by decide)
  obtain ⟨b, name, hname⟩ := List.exists_cons_of_ne_nil h.named
  rw [field, hspan, hname]
  simp only [if_true, fieldValue_append hvalue, Step.andThen_done]
  rw [Field.trimmed, hname]
  rfl

theorem fields_lines {fs : List Field} (h : ∀ f ∈ fs, f.Writable) {fuel limit : Nat}
    (hfuel : fs.length < fuel) (hlimit : fs.length ≤ limit) :
    fields fuel limit (headOf (fs.map Field.line) ++ rest) = .done (fs.map Field.trimmed) rest := by
  induction fs generalizing fuel limit with
  | nil =>
      obtain ⟨fuel, rfl⟩ := Nat.exists_eq_succ_of_ne_zero (Nat.ne_zero_of_lt hfuel)
      rfl
  | cons f fs ih =>
      obtain ⟨fuel, rfl⟩ := Nat.exists_eq_succ_of_ne_zero (Nat.ne_zero_of_lt hfuel)
      obtain ⟨limit, rfl⟩ := Nat.exists_eq_succ_of_ne_zero (Nat.ne_zero_of_lt hlimit)
      rw [List.forall_mem_cons] at h
      have hrest := ih h.2 (Nat.lt_of_succ_lt_succ hfuel) (Nat.le_of_succ_le_succ hlimit)
      have hfield := field_line h.1 (headOf (fs.map Field.line) ++ rest)
      -- the first byte of the name tells that this is no empty line
      obtain ⟨b, name, hname⟩ := List.exists_cons_of_ne_nil h.1.named
      have hb := ne_lineEnd_of_isTokenByte (h.1.name b (hname ▸ List.mem_cons_self))
      have hstart : f.line ++ cr :: lf :: (headOf (fs.map Field.line) ++ rest) =
          b :: (name ++ 58 :: 32 :: f.value ++ cr :: lf :: (headOf (fs.map Field.line) ++ rest)) := by
        rw [Field.line, hname]
        rfl
      rw [List.map_cons, headOf_cons, List.append_assoc, List.cons_append, List.cons_append, hstart, fields,
        if_neg hb.1, if_neg hb.2, ← hstart, hfield]
      simp only [Step.andThen_done, hrest, List.map_cons]

theorem length_le_headOf (lines : List Bytes) : lines.length ≤ (headOf lines).length := by
  induction lines with
  | nil => exact Nat.zero_le _
  | cons line lines ih =>
      rw [headOf_cons, List.length_append, List.length_cons, List.length_cons, List.length_cons]
      omega

/-- Fields are read back as they were written, up to the empty line. -/
theorem fieldBlock_headOf {fs : List Field} (h : ∀ f ∈ fs, f.Writable) {limit : Nat}
    (hlimit : fs.length ≤ limit) :
    fieldBlock limit (headOf (fs.map Field.line) ++ rest) = .done (fs.map Field.trimmed) rest := by
  refine fields_lines h ?_ hlimit
  have hlength := length_le_headOf (fs.map Field.line)
  rw [List.length_map] at hlength
  rw [List.length_append]
  omega

theorem requestMethod_append {m : Bytes} (hne : m ≠ []) (hm : ∀ b ∈ m, isTokenByte b) :
    requestMethod (m ++ 32 :: rest) = .done m rest := by
  obtain ⟨b, m, rfl⟩ := List.exists_cons_of_ne_nil hne
  rw [requestMethod, span_append_cons hm (by decide)]
  rfl

theorem requestTarget_append {t : String} (hne : bytesOf t ≠ []) (ht : ∀ b ∈ bytesOf t, isTargetByte b) :
    requestTarget (bytesOf t ++ 32 :: rest) = .done t rest := by
  have hempty : ¬ ((32 : UInt8) ≠ 32 ∨ (bytesOf t).isEmpty) := by simpa using hne
  rw [requestTarget, span_append_cons ht (by decide)]
  simp only [hempty, if_false, ofBytes?_bytesOf]

/-- What starts with two bytes of a token has no empty lines in front. -/
theorem skipEmptyLines_of_isTokenByte {b : UInt8} (hb : isTokenByte b) (hne : rest ≠ []) :
    skipEmptyLines (b :: rest) = .done () (b :: rest) := by
  obtain ⟨c, rest, rfl⟩ := List.exists_cons_of_ne_nil hne
  rw [skipEmptyLines, if_neg (ne_lineEnd_of_isTokenByte hb).1, if_neg (ne_lineEnd_of_isTokenByte hb).2]

/-- A request is read back as it was written, and nothing after its empty line is looked at. -/
theorem parse_headOf {m : Bytes} (hne : m ≠ []) (hm : ∀ b ∈ m, isTokenByte b) {t : String}
    (htne : bytesOf t ≠ []) (ht : ∀ b ∈ bytesOf t, isTargetByte b) {fs : List Field}
    (hfs : ∀ f ∈ fs, f.Writable) {limit : Nat} (hlimit : fs.length ≤ limit) (rest : Bytes) :
    RequestHead.parse limit (headOf (requestLine m t :: fs.map Field.line) ++ rest) =
      .done ⟨m, t, 1, fs.map Field.trimmed⟩ rest := by
  generalize hafter : headOf (fs.map Field.line) ++ rest = after
  have htext : headOf (requestLine m t :: fs.map Field.line) ++ rest =
      m ++ 32 :: (bytesOf t ++ 32 :: (versionStart ++ 49 :: cr :: lf :: after)) := by
    rw [headOf_cons, requestLine, ← hafter]
    simp
  have hskip : skipEmptyLines (m ++ 32 :: (bytesOf t ++ 32 :: (versionStart ++ 49 :: cr :: lf :: after))) =
      .done () (m ++ 32 :: (bytesOf t ++ 32 :: (versionStart ++ 49 :: cr :: lf :: after))) := by
    obtain ⟨b, m, rfl⟩ := List.exists_cons_of_ne_nil hne
    exact skipEmptyLines_of_isTokenByte (hm b List.mem_cons_self) (by simp)
  have hversion : version (versionStart ++ 49 :: cr :: lf :: after) = .done 1 (cr :: lf :: after) := rfl
  have hline : newLine (cr :: lf :: after) = .done () after := rfl
  rw [RequestHead.parse, htext, hskip]
  simp only [Step.andThen_done, requestMethod_append hne hm, requestTarget_append htne ht, hversion, hline]
  rw [← hafter, fieldBlock_headOf hfs hlimit]
  rfl

end Reading

end RouteCascade.Http
