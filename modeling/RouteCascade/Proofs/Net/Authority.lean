import RouteCascade.Proofs.Net.HostPort

/-!
# Authorities

The texts that are read as a host and a port, told without the reader: the port is what stands after the
last colon, and the host is what is left of the rest without the brackets around it. A host and a port that
were read can be written and read again any number of times, as happens when one proxy asks the next.
-/
namespace RouteCascade.Text

/-- What is left when a character is dropped in front is all of the text but some copies of it. -/
theorem dropWhile_eq_iff {c : Char} {s t : List Char} :
    s.dropWhile (· = c) = t ↔ (∃ n, s = List.replicate n c ++ t) ∧ t.head? ≠ some c := by
  constructor
  · intro h
    induction s with
    | nil =>
        obtain rfl : [] = t := h
        exact ⟨⟨0, rfl⟩, nofun⟩
    | cons b s ih =>
        by_cases hb : b = c
        · rw [List.dropWhile_cons_of_pos (by simpa using hb)] at h
          obtain ⟨⟨n, hn⟩, hhead⟩ := ih h
          refine ⟨⟨n + 1, ?_⟩, hhead⟩
          rw [List.replicate_succ, List.cons_append, ← hn, hb]
        · rw [List.dropWhile_cons_of_neg (by simpa using hb)] at h
          obtain rfl := h
          exact ⟨⟨0, rfl⟩, fun h => hb (Option.some.inj h)⟩
  · rintro ⟨⟨n, rfl⟩, hhead⟩
    induction n with
    | zero =>
        cases t with
        | nil => rfl
        | cons b t =>
            have hb : b ≠ c := fun h => hhead (congrArg some h)
            exact List.dropWhile_cons_of_neg (by simpa using hb)
    | succ n ih =>
        rw [List.replicate_succ, List.cons_append, List.dropWhile_cons_of_pos (by simp)]
        exact ih

theorem not_mem_of_splitLast_eq_none {sep : Char} {s : List Char} (h : splitLast sep s = none) : sep ∉ s := by
  induction s with
  | nil => exact List.not_mem_nil
  | cons c s ih =>
      rw [splitLast] at h
      cases hrest : splitLast sep s with
      | some p => simp [hrest] at h
      | none =>
          have hc : c ≠ sep := by simpa [hrest] using h
          exact List.not_mem_cons_of_ne_of_not_mem (Ne.symm hc) (ih hrest)

/-- The last part of a text has no separator in it. -/
theorem not_mem_of_splitLast {sep : Char} {s a b : List Char} (h : splitLast sep s = some (a, b)) :
    sep ∉ b := by
  induction s generalizing a b with
  | nil => cases h
  | cons c s ih =>
      rw [splitLast] at h
      cases hrest : splitLast sep s with
      | some p =>
          obtain ⟨a', b'⟩ := p
          rw [hrest] at h
          obtain ⟨-, rfl⟩ := Prod.mk.inj (Option.some.inj h)
          exact ih hrest
      | none =>
          by_cases hc : c = sep
          · rw [hrest] at h
            dsimp only at h
            rw [if_pos hc] at h
            obtain ⟨-, rfl⟩ := Prod.mk.inj (Option.some.inj h)
            exact not_mem_of_splitLast_eq_none hrest
          · simp [hrest, hc] at h

theorem splitLast_eq_some_iff {sep : Char} {s a b : List Char} :
    splitLast sep s = some (a, b) ↔ s = a ++ sep :: b ∧ sep ∉ b := by
  constructor
  · exact fun h => ⟨splitLast_eq_some h, not_mem_of_splitLast h⟩
  · rintro ⟨rfl, hb⟩
    exact splitLast_append a hb

theorem isDigit_of_digit? {c : Char} {d : Nat} (h : digit? c = some d) : c.isDigit := by
  unfold digit? at h
  split at h
  · rename_i hc
    simpa [Char.isDigit, Char.le_def] using hc
  · cases h

theorem isDigit_of_foldlM {s : List Char} {n m : Nat}
    (h : s.foldlM (fun n c => (digit? c).map (n * 10 + ·)) n = some m) : ∀ c ∈ s, c.isDigit := by
  induction s generalizing n with
  | nil => exact List.forall_mem_nil _
  | cons c s ih =>
      rw [List.foldlM_cons] at h
      cases hc : digit? c with
      | none => simp [hc] at h
      | some d =>
          rw [hc] at h
          exact List.forall_mem_cons.mpr ⟨isDigit_of_digit? hc, ih h⟩

/-- A text is read as a number just if it consists of digits, of which there is at least one. -/
theorem decimal?_eq_some_iff {s : List Char} {n : Nat} :
    decimal? s = some n ↔ s ≠ [] ∧ (∀ c ∈ s, c.isDigit) ∧ Nat.ofDigitChars 10 s 0 = n := by
  constructor
  · intro h
    have hne : s ≠ [] := by
      rintro rfl
      cases h
    have hdigits : ∀ c ∈ s, c.isDigit := by
      cases s with
      | nil => exact absurd rfl hne
      | cons c s => exact isDigit_of_foldlM h
    rw [decimal?_of_isDigit hne hdigits] at h
    exact ⟨hne, hdigits, Option.some.inj h⟩
  · rintro ⟨hne, hdigits, rfl⟩
    exact decimal?_of_isDigit hne hdigits

theorem signedDecimal?_eq_some_iff {s : List Char} {n : Nat} :
    signedDecimal? s = some n ↔ ∃ ds, (s = ds ∨ s = '+' :: ds) ∧ decimal? ds = some n := by
  constructor
  · intro h
    unfold signedDecimal? at h
    split at h
    · exact ⟨_, .inr rfl, h⟩
    · exact ⟨s, .inl rfl, h⟩
  · rintro ⟨ds, rfl | rfl, hds⟩
    · rw [signedDecimal?_of_isDigit (decimal?_eq_some_iff.mp hds).2.1, hds]
    · exact hds

theorem boundedDecimal?_eq_some_iff {bits n : Nat} {s : List Char} :
    boundedDecimal? bits s = some n ↔ signedDecimal? s = some n ∧ n < Nat.pow 2 bits := by
  unfold boundedDecimal?
  cases signedDecimal? s with
  | none => simp
  | some m =>
      dsimp only
      split
      · rename_i hm
        exact ⟨fun h => ⟨h, Option.some.inj h ▸ hm⟩, fun h => h.1⟩
      · rename_i hm
        exact ⟨nofun, fun h => absurd (Option.some.inj h.1 ▸ h.2) hm⟩

end RouteCascade.Text

namespace RouteCascade.Net

open Text

/-- What is left of a text without the opening brackets in front and the closing brackets at the end. -/
structure Unbracketed (x h : List Char) : Prop where
  enclosed : ∃ a b, x = List.replicate a '[' ++ h ++ List.replicate b ']'
  opens : h.head? ≠ some '['
  closes : h.getLast? ≠ some ']'

/-- Digits that write the number of a port, with a plus sign in front or without. -/
def WritesPort (d : List Char) (port : Port) : Prop :=
  ∃ ds, (d = ds ∨ d = '+' :: ds) ∧ ds ≠ [] ∧ (∀ c ∈ ds, c.isDigit) ∧
    Nat.ofDigitChars 10 ds 0 = port.toNat

/-- A text that names a host and a port. -/
structure Authority (text host : String) (port : Port) : Prop where
  parts : ∃ x d, text.toList = x ++ ':' :: d ∧ ':' ∉ d ∧ WritesPort d port ∧ Unbracketed x host.toList
  named : host.toList ≠ []

section Brackets
variable {x h : List Char}

theorem head?_append_replicate (h : List Char) (n : Nat) (hh : h.head? ≠ some '[') :
    (h ++ List.replicate n ']').head? ≠ some '[' := by
  cases h with
  | nil => cases n <;> simp [List.replicate_succ]
  | cons c h => exact hh

theorem stripBrackets_eq_iff : stripBrackets x = h ↔ Unbracketed x h := by
  unfold stripBrackets
  rw [List.reverse_eq_iff, dropWhile_eq_iff, List.head?_reverse]
  constructor
  · rintro ⟨⟨b, hb⟩, hlast⟩
    have hrest : x.dropWhile (· = '[') = h ++ List.replicate b ']' := by
      rw [List.reverse_eq_iff.mp hb, List.reverse_append, List.reverse_reverse, List.reverse_replicate]
    obtain ⟨⟨a, ha⟩, hhead⟩ := dropWhile_eq_iff.mp hrest
    refine ⟨⟨a, b, by rw [ha, List.append_assoc]⟩, fun hopen => hhead ?_, hlast⟩
    rw [List.head?_append, hopen, Option.some_or]
  · rintro ⟨⟨a, b, rfl⟩, hopen, hclose⟩
    have hrest : (List.replicate a '[' ++ h ++ List.replicate b ']').dropWhile (· = '[') =
        h ++ List.replicate b ']' :=
      dropWhile_eq_iff.mpr ⟨⟨a, List.append_assoc _ _ _⟩, head?_append_replicate h b hopen⟩
    refine ⟨⟨b, ?_⟩, hclose⟩
    rw [hrest, List.reverse_append, List.reverse_replicate]

/-- What is left has no more brackets to drop. -/
theorem Unbracketed.again (hx : Unbracketed x h) : Unbracketed h h :=
  ⟨⟨0, 0, by simp⟩, hx.opens, hx.closes⟩

end Brackets

theorem writesPort_iff {d : List Char} {port : Port} :
    WritesPort d port ↔ boundedDecimal? 16 d = some port.toNat := by
  rw [boundedDecimal?_eq_some_iff, signedDecimal?_eq_some_iff, and_iff_left port.toNat_lt]
  simp only [decimal?_eq_some_iff, WritesPort]

section Reading
variable {text host : String} {port : Port}

theorem parseHostPort_of_parts {x d : List Char} (ht : text.toList = x ++ ':' :: d) (hd : ':' ∉ d)
    (hp : WritesPort d port) (hx : Unbracketed x host.toList) (hn : host.toList ≠ []) :
    parseHostPort text = .ok (host, port) := by
  have hhost : String.ofList host.toList = host := String.ofList_toList
  unfold parseHostPort
  rw [splitLast_eq_some_iff.mpr ⟨ht, hd⟩]
  dsimp only
  rw [writesPort_iff.mp hp]
  dsimp only
  rw [stripBrackets_eq_iff.mpr hx, UInt16.ofNat_toNat]
  cases hl : host.toList with
  | nil => exact absurd hl hn
  | cons c cs =>
      dsimp only
      rw [← hl, hhost]

/-- Just the authorities are read, and each as what it names. -/
theorem parseHostPort_eq_ok_iff : parseHostPort text = .ok (host, port) ↔ Authority text host port := by
  constructor
  · intro h
    unfold parseHostPort at h
    split at h
    · cases h
    rename_i x d hsplit
    obtain ⟨ht, hd⟩ := splitLast_eq_some_iff.mp hsplit
    split at h
    · cases h
    rename_i n hn
    have hlt := (boundedDecimal?_eq_some_iff.mp hn).2
    split at h
    · cases h
    rename_i hne
    obtain ⟨rfl, rfl⟩ := Prod.mk.inj (Except.ok.inj h)
    have hport : (UInt16.ofNat n).toNat = n := UInt16.toNat_ofNat_of_lt' hlt
    rw [← hport] at hn
    refine ⟨⟨x, d, ht, hd, writesPort_iff.mpr hn, ?_⟩, ?_⟩
    · rw [String.toList_ofList]
      exact stripBrackets_eq_iff.mp rfl
    · rwa [String.toList_ofList]
  · rintro ⟨⟨x, d, ht, hd, hp, hx⟩, hn⟩
    exact parseHostPort_of_parts ht hd hp hx hn

theorem parseHostPort_rewritten (h : parseHostPort text = .ok (host, port)) :
    parseHostPort (hostPort host port) = .ok (host, port) := by
  obtain ⟨⟨x, d, -, -, -, hx⟩, hn⟩ := parseHostPort_eq_ok_iff.mp h
  have hsame : stripBrackets host.toList = host.toList := stripBrackets_eq_iff.mpr hx.again
  have hread := parseHostPort_hostPort (by rwa [hsame]) port
  rwa [hsame, String.ofList_toList] at hread

end Reading

/-- What a proxy asks the next one for: the host and port that it was asked for, written again. -/
def passOn (text : String) : Except HostPortFault String :=
  (parseHostPort text).map fun target => hostPort target.1 target.2

/-- What arrives behind some proxies, one after the other. -/
def passThrough : Nat → String → Except HostPortFault String
  | 0, text => .ok text
  | n + 1, text => (passOn text).bind (passThrough n)

section Passing
variable {text host : String} {port : Port}

/-- One proxy does not change the target. -/
theorem parseHostPort_passOn (h : parseHostPort text = .ok (host, port)) :
    ∃ next, passOn text = .ok next ∧ parseHostPort next = .ok (host, port) := by
  refine ⟨hostPort host port, ?_, parseHostPort_rewritten h⟩
  unfold passOn
  rw [h]
  rfl

theorem parseHostPort_passThrough (h : parseHostPort text = .ok (host, port)) (n : Nat) :
    ∃ last, passThrough n text = .ok last ∧ parseHostPort last = .ok (host, port) := by
  induction n generalizing text with
  | zero => exact ⟨text, rfl, h⟩
  | succ n ih =>
      obtain ⟨next, hnext, hread⟩ := parseHostPort_passOn h
      obtain ⟨last, hlast, hend⟩ := ih hread
      refine ⟨last, ?_, hend⟩
      rw [passThrough, hnext]
      exact hlast

end Passing

/-- How a text, a host and a port go together. -/
structure RoundTrips (text host : String) (port : Port) : Prop where
  read : parseHostPort text = .ok (host, port) ↔ Authority text host port
  /-- What is written is read without the brackets around the host, if anything is left of it. -/
  written : ∀ bare, Unbracketed host.toList bare → bare ≠ [] →
    parseHostPort (hostPort host port) = .ok (String.ofList bare, port)
  rewritten : parseHostPort text = .ok (host, port) → parseHostPort (hostPort host port) = .ok (host, port)
  /-- A target survives any number of proxies. -/
  passed : parseHostPort text = .ok (host, port) →
    ∀ n, ∃ last, passThrough n text = .ok last ∧ parseHostPort last = .ok (host, port)

/-- Authorities are what is read as a host and a port, and writing what was read loses nothing. -/
theorem roundTrips_authority (text host : String) (port : Port) : RoundTrips text host port := by
  refine ⟨parseHostPort_eq_ok_iff, ?_, parseHostPort_rewritten, parseHostPort_passThrough⟩
  intro bare hbare hne
  obtain rfl := stripBrackets_eq_iff.mpr hbare
  exact parseHostPort_hostPort hne port

-- Brackets may be missing on one side, and a sign may stand in front of the port.
example : parseHostPort "[[2001:db8::1]:+0443" = .ok ("2001:db8::1", 443) := by rfl

end RouteCascade.Net
