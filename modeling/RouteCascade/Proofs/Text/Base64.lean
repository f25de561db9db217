import RouteCascade.Proofs.Text.Utf8
import RouteCascade.Text.Base64
import Mathlib.Algebra.Group.Nat.Defs
import Mathlib.Data.List.Forall2

/-!
# What base64 text stands for

The symbols of a text are digits to the base 64. What is written for some bytes has the digits of the same
number, filled up with two zero bits for each padding byte. Reading goes the other way, and the checks
that it makes leave one text for every list of bytes: a text stands for some bytes if and only if it is
what is written for them.
-/
namespace RouteCascade.Text.Base64

section Alphabet

theorem value?_of_symbol {v : Nat} (h : v < 64) : value? (symbol v) = some v := by
  have hall : ∀ v : Fin 64, value? (symbol v) = some v.val := by decide
  exact hall ⟨v, h⟩

theorem eq_symbol_of_value? {b : UInt8} {v : Nat} (h : value? b = some v) : v < 64 ∧ b = symbol v :=
  forall_byte_lt (p := fun b => ∀ v ∈ value? b, v < 64 ∧ b = symbol v) (n := 256) (by decide +kernel)
    b.toNat_lt v h

theorem value?_pad : value? pad = none := by decide

end Alphabet

/-! ## The symbols of a text -/

section Symbols
variable {offset n : Nat} {firstPad : Option Nat} {s : Bytes} {syms : List (UInt8 × Nat)}

/-- A text is its symbols and then padding, which stands in the second half of a group. -/
theorem symbols_eq_ok (h : symbols offset firstPad s = .ok (syms, n)) :
    s = syms.map (·.1) ++ List.replicate n pad ∧ (∀ x ∈ syms, value? x.1 = some x.2) ∧
      (∀ i < n, 2 ≤ (offset + syms.length + i) % 4) ∧ (firstPad ≠ none → syms = []) := by
  induction s generalizing offset firstPad syms n with
  | nil =>
      cases h
      exact ⟨rfl, nofun, nofun, fun _ => rfl⟩
  | cons b s ih =>
      unfold symbols at h
      split at h
      · rename_i hb
        split at h
        · cases h
        rename_i hplace
        split at h
        · rename_i syms' m hrest
          cases h
          obtain ⟨hs, -, hpads, hnone⟩ := ih hrest
          obtain rfl := hnone nofun
          refine ⟨?_, nofun, ?_, fun _ => rfl⟩
          · rw [hb, hs]
            rfl
          · intro i hi
            cases i with
            | zero => exact Nat.not_lt.mp hplace
            | succ i =>
                have := hpads i (by omega)
                simp only [List.length_nil] at this ⊢
                omega
        · cases h
      · rename_i hb
        split at h
        · cases h
        split at h
        · cases h
        rename_i v hv
        split at h
        · rename_i syms' m hrest
          cases h
          obtain ⟨hs, hvalues, hpads, -⟩ := ih hrest
          refine ⟨by rw [hs]; rfl, List.forall_mem_cons.mpr ⟨hv, hvalues⟩, ?_, fun h => absurd rfl h⟩
          intro i hi
          have := hpads i hi
          simp only [List.length_cons]
          omega
        · cases h

theorem symbols_replicate (hpads : ∀ i < n, 2 ≤ (offset + i) % 4) :
    symbols offset firstPad (List.replicate n pad) = .ok ([], n) := by
  induction n generalizing offset firstPad with
  | zero => rfl
  | succ n ih =>
      have hplace : ¬ offset % 4 < 2 := by
        have := hpads 0 (by omega)
        omega
      have hrest : ∀ i < n, 2 ≤ (offset + 1 + i) % 4 := by
        intro i hi
        have := hpads (i + 1) (by omega)
        omega
      rw [List.replicate_succ]
      unfold symbols
      rw [if_pos rfl, if_neg hplace, ih hrest]

theorem symbols_append (hvalues : ∀ x ∈ syms, value? x.1 = some x.2)
    (hpads : ∀ i < n, 2 ≤ (offset + syms.length + i) % 4) :
    symbols offset none (syms.map (·.1) ++ List.replicate n pad) = .ok (syms, n) := by
  induction syms generalizing offset with
  | nil => exact symbols_replicate (by simpa using hpads)
  | cons x syms ih =>
      obtain ⟨hx, hvalues⟩ := List.forall_mem_cons.mp hvalues
      have hne : x.1 ≠ pad := by
        intro he
        rw [he, value?_pad] at hx
        cases hx
      have hrest : ∀ i < n, 2 ≤ (offset + 1 + syms.length + i) % 4 := by
        intro i hi
        have := hpads i hi
        simp only [List.length_cons] at this
        omega
      rw [List.map_cons, List.cons_append]
      unfold symbols
      rw [if_neg hne]
      simp only [hx, ih hvalues hrest]

end Symbols

/-! ## Digits to the base 64 -/

/-- The digits that are written for some bytes. -/
def sextets : Bytes → List Nat
  | [] => []
  | [a] => [a.toNat / 4, a.toNat % 4 * 16]
  | [a, b] => [a.toNat / 4, a.toNat % 4 * 16 + b.toNat / 16, b.toNat % 16 * 4]
  | a :: b :: c :: rest =>
    a.toNat / 4 :: (a.toNat % 4 * 16 + b.toNat / 16) :: (b.toNat % 16 * 4 + c.toNat / 64) ::
      c.toNat % 64 :: sextets rest

def padding (d : Bytes) : Nat := (3 - d.length % 3) % 3

/-- The number with some digits, the first of which weighs most. -/
def number (base : Nat) (digits : List Nat) : Nat := digits.foldl (fun n d => n * base + d) 0

theorem padding_lt (d : Bytes) : padding d < 3 := Nat.mod_lt _ (by omega)

theorem padding_cons (a b c : UInt8) (d : Bytes) : padding (a :: b :: c :: d) = padding d := by
  simp only [padding, List.length_cons]
  omega

theorem encode_eq (d : Bytes) :
    encode d = (sextets d).map symbol ++ List.replicate (padding d) pad := by
  induction d using sextets.induct with
  | case1 | case2 | case3 => rfl
  | case4 a b c rest ih => rw [encode, sextets, ih, padding_cons]; rfl

theorem lt_of_mem_sextets {d : Bytes} : ∀ v ∈ sextets d, v < 64 := by
  induction d using sextets.induct with
  | case1 => exact nofun
  | case2 a =>
      have := a.toNat_lt
      simp only [sextets, List.forall_mem_cons, List.not_mem_nil, false_imp_iff, implies_true, and_true]
      omega
  | case3 a b =>
      have := a.toNat_lt
      have := b.toNat_lt
      simp only [sextets, List.forall_mem_cons, List.not_mem_nil, false_imp_iff, implies_true, and_true]
      omega
  | case4 a b c rest ih =>
      have := a.toNat_lt
      have := b.toNat_lt
      have := c.toNat_lt
      simp only [sextets, List.forall_mem_cons]
      refine ⟨by omega, by omega, by omega, by omega, ih⟩

theorem length_sextets (d : Bytes) : 3 * ((sextets d).length + padding d) = 4 * (d.length + padding d) := by
  induction d using sextets.induct with
  | case1 | case2 | case3 => rfl
  | case4 a b c rest ih =>
      rw [padding_cons]
      simp only [sextets, List.length_cons]
      omega

theorem foldl_sextets (d : Bytes) (n : Nat) :
    (sextets d).foldl (fun n d => n * 64 + d) n =
      (d.map UInt8.toNat).foldl (fun n d => n * 256 + d) n * 4 ^ padding d := by
  induction d using sextets.induct generalizing n with
  | case1 => simp [sextets, padding]
  | case2 a =>
      simp [sextets, padding]
      omega
  | case3 a b =>
      simp [sextets, padding]
      omega
  | case4 a b c rest ih =>
      have hgroup : (((n * 64 + a.toNat / 4) * 64 + (a.toNat % 4 * 16 + b.toNat / 16)) * 64 +
          (b.toNat % 16 * 4 + c.toNat / 64)) * 64 + c.toNat % 64 =
          ((n * 256 + a.toNat) * 256 + b.toNat) * 256 + c.toNat := by omega
      simp only [sextets, List.foldl_cons, List.map_cons, padding_cons]
      rw [hgroup, ih]

/-- Text and bytes have the same number, but for two zero bits for each padding byte. -/
theorem number_sextets (d : Bytes) :
    number 64 (sextets d) = number 256 (d.map UInt8.toNat) * 4 ^ padding d :=
  foldl_sextets d 0

theorem unpack_sextets (d : Bytes) : unpack (sextets d) = d := by
  induction d using sextets.induct with
  | case1 => rfl
  | case2 a =>
      have := a.toNat_lt
      simp only [sextets, unpack, List.cons.injEq, and_true]
      rw [← UInt8.toNat_inj, UInt8.toNat_ofNat']
      omega
  | case3 a b =>
      have := a.toNat_lt
      have := b.toNat_lt
      simp only [sextets, unpack, List.cons.injEq, and_true]
      rw [← UInt8.toNat_inj, ← UInt8.toNat_inj, UInt8.toNat_ofNat', UInt8.toNat_ofNat']
      omega
  | case4 a b c rest ih =>
      have := a.toNat_lt
      have := b.toNat_lt
      have := c.toNat_lt
      simp only [sextets, unpack, List.cons.injEq, ih, and_true]
      rw [← UInt8.toNat_inj, ← UInt8.toNat_inj, ← UInt8.toNat_inj, UInt8.toNat_ofNat', UInt8.toNat_ofNat',
        UInt8.toNat_ofNat']
      omega

theorem spareBits_sextets (d : Bytes) : spareBits (sextets d) = 0 := by
  induction d using sextets.induct with
  | case1 => rfl
  | case2 a | case3 a b => simp only [sextets, spareBits]; omega
  | case4 a b c rest ih => exact ih

/-- Digits that carry no spare bits are those of the bytes that they stand for. -/
theorem sextets_unpack {vs : List Nat} (hlt : ∀ v ∈ vs, v < 64) (hlength : vs.length % 4 ≠ 1)
    (hspare : spareBits vs = 0) : sextets (unpack vs) = vs := by
  induction vs using unpack.induct with
  | case1 a b c d rest ih =>
      simp only [List.forall_mem_cons] at hlt
      obtain ⟨ha, hb, hc, hd, hlt⟩ := hlt
      have hrest := ih hlt (by simp only [List.length_cons] at hlength; omega) hspare
      simp only [unpack, sextets, hrest, List.cons.injEq, UInt8.toNat_ofNat', and_true]
      omega
  | case2 a b c =>
      simp only [List.forall_mem_cons] at hlt
      simp only [spareBits] at hspare
      simp only [unpack, sextets, List.cons.injEq, UInt8.toNat_ofNat', and_true]
      omega
  | case3 a b =>
      simp only [List.forall_mem_cons] at hlt
      simp only [spareBits] at hspare
      simp only [unpack, sextets, List.cons.injEq, UInt8.toNat_ofNat', and_true]
      omega
  | case4 vs h4 h3 h2 =>
      match vs with
      | [] => rfl
      | [a] => exact absurd rfl hlength
      | [a, b] => exact absurd rfl (h2 a b)
      | [a, b, c] => exact absurd rfl (h3 a b c)
      | a :: b :: c :: d :: rest => exact absurd rfl (h4 a b c d rest)

/-! ## Reading -/

theorem symbols_of_decode {s d : Bytes} (h : decode s = .ok d) :
    ∃ syms n, symbols 0 none s = .ok (syms, n) ∧ (syms.length + n) % 4 = 0 ∧
      spareBits (syms.map (·.2)) = 0 ∧ unpack (syms.map (·.2)) = d := by
  unfold decode at h
  split at h
  · split at h
    · split at h <;> cases h
    · cases h
  split at h
  · cases h
  rename_i syms n hsyms
  split at h
  · cases h
  rename_i hgroups
  split at h
  · cases h
  rename_i hspare
  cases h
  simp only [ne_eq, Decidable.not_not] at hgroups hspare
  exact ⟨syms, n, hsyms, hgroups, hspare, rfl⟩

theorem eq_map_symbol {syms : List (UInt8 × Nat)} (h : ∀ x ∈ syms, value? x.1 = some x.2) :
    (∀ v ∈ syms.map (·.2), v < 64) ∧ syms.map (·.1) = (syms.map (·.2)).map symbol := by
  constructor
  · intro v hv
    obtain ⟨x, hx, rfl⟩ := List.mem_map.mp hv
    exact (eq_symbol_of_value? (h x hx)).1
  · rw [List.map_map]
    exact List.map_congr_left fun x hx => (eq_symbol_of_value? (h x hx)).2

theorem eq_encode_of_decode {s d : Bytes} (h : decode s = .ok d) : s = encode d := by
  obtain ⟨syms, n, hsyms, hgroups, hspare, rfl⟩ := symbols_of_decode h
  obtain ⟨hs, hvalues, hpads, -⟩ := symbols_eq_ok hsyms
  obtain ⟨hlt, hsymbols⟩ := eq_map_symbol hvalues
  -- Three padding bytes in a row would reach into the first half of a group.
  have hn : n < 3 := by
    refine Nat.lt_of_not_le fun hn => ?_
    have h0 := hpads 0 (by omega)
    have h1 := hpads 1 (by omega)
    have h2 := hpads 2 (by omega)
    omega
  have hdigits := sextets_unpack hlt (by rw [List.length_map]; omega) hspare
  have hpadding : padding (unpack (syms.map (·.2))) = n := by
    have hlength := length_sextets (unpack (syms.map (·.2)))
    have := padding_lt (unpack (syms.map (·.2)))
    rw [hdigits, List.length_map] at hlength
    omega
  rw [encode_eq, hdigits, hpadding, ← hsymbols]
  exact hs

theorem decode_encode (d : Bytes) : decode (encode d) = .ok d := by
  let syms := (sextets d).map fun v => (symbol v, v)
  have hfirst : syms.map (·.1) = (sextets d).map symbol := by simp [syms, Function.comp_def]
  have hsecond : syms.map (·.2) = sextets d := by simp [syms, Function.comp_def]
  have hlength : syms.length = (sextets d).length := List.length_map _
  have hgroups := length_sextets d
  have hn := padding_lt d
  have hvalues : ∀ x ∈ syms, value? x.1 = some x.2 := by
    intro x hx
    obtain ⟨v, hv, rfl⟩ := List.mem_map.mp hx
    exact value?_of_symbol (lt_of_mem_sextets v hv)
  have hpads : ∀ i < padding d, 2 ≤ (0 + syms.length + i) % 4 := by
    intro i hi
    omega
  have hsyms := symbols_append hvalues hpads
  rw [hfirst, ← encode_eq] at hsyms
  unfold decode
  rw [if_neg ?_, hsyms]
  dsimp only
  rw [if_neg (by omega), hsecond, spareBits_sextets, unpack_sextets]
  · rfl
  · rw [encode_eq, List.length_append, List.length_map, List.length_replicate]
    omega

theorem decode_eq_ok_iff {s d : Bytes} : decode s = .ok d ↔ s = encode d :=
  ⟨eq_encode_of_decode, fun h => h ▸ decode_encode d⟩

theorem encode_eq_nil_iff {d : Bytes} : encode d = [] ↔ d = [] := by
  constructor
  · intro h
    have := decode_encode d
    rw [h] at this
    exact (Except.ok.inj this).symm
  · rintro rfl
    rfl

theorem mem_encode {d : Bytes} {b : UInt8} (h : b ∈ encode d) : b = pad ∨ ∃ v < 64, b = symbol v := by
  rw [encode_eq, List.mem_append, List.mem_map] at h
  rcases h with ⟨v, hv, rfl⟩ | h
  · exact .inr ⟨v, lt_of_mem_sextets v hv, rfl⟩
  · exact .inl (List.eq_of_mem_replicate h)

/-! ## Characters -/

def alphabet : List Char := "ABCDEFGHIJKLMNOPQRSTUVWXYZabcdefghijklmnopqrstuvwxyz0123456789+/".toList

/-- Some characters spell some bytes: four for three bytes, of the same number, the places that are missing at the
end being filled up with zero bits and marked. -/
inductive Spells : List Char → Bytes → Prop
  | mk {body : List Char} {vs : List Nat} {d : Bytes} (missing : Nat) : missing < 3 →
      List.Forall₂ (fun c v => alphabet[v]? = some c) body vs →
      3 * (body.length + missing) = 4 * (d.length + missing) →
      number 64 vs = number 256 (d.map UInt8.toNat) * 4 ^ missing →
      Spells (body ++ List.replicate missing '=') d

theorem alphabet_eq_some_iff {c : Char} {v : Nat} :
    alphabet[v]? = some c ↔ v < 64 ∧ c = Char.ofNat (symbol v).toNat := by
  have hlength : alphabet.length = 64 := by decide
  have hall : ∀ v : Fin 64, alphabet[v.val]? = some (Char.ofNat (symbol v).toNat) := by
    decide +kernel
  constructor
  · intro h
    obtain ⟨hv, -⟩ := List.getElem?_eq_some_iff.mp h
    rw [hlength] at hv
    rw [hall ⟨v, hv⟩] at h
    exact ⟨hv, (Option.some.inj h).symm⟩
  · rintro ⟨hv, rfl⟩
    exact hall ⟨v, hv⟩

theorem forall₂_alphabet_iff {body : List Char} {vs : List Nat} :
    List.Forall₂ (fun c v => alphabet[v]? = some c) body vs ↔
      (∀ v ∈ vs, v < 64) ∧ body = vs.map fun v => Char.ofNat (symbol v).toNat := by
  simp only [alphabet_eq_some_iff]
  constructor
  · intro h
    induction h with
    | nil => exact ⟨nofun, rfl⟩
    | cons hv _ ih => exact ⟨List.forall_mem_cons.mpr ⟨hv.1, ih.1⟩, by rw [List.map_cons, hv.2, ih.2]⟩
  · rintro ⟨hlt, rfl⟩
    rw [List.forall₂_map_left_iff, List.forall₂_same]
    exact fun v hv => ⟨hlt v hv, rfl⟩

theorem foldl_injective {base : Nat} {vs ws : List Nat} (hv : ∀ v ∈ vs, v < base) (hw : ∀ w ∈ ws, w < base)
    (hlength : vs.length = ws.length) {n m : Nat}
    (h : vs.foldl (fun n d => n * base + d) n = ws.foldl (fun n d => n * base + d) m) : n = m ∧ vs = ws := by
  induction vs generalizing ws n m with
  | nil =>
      obtain rfl := List.length_eq_zero_iff.mp hlength.symm
      exact ⟨h, rfl⟩
  | cons v vs ih =>
      cases ws with
      | nil => cases hlength
      | cons w ws =>
          rw [List.forall_mem_cons] at hv hw
          obtain ⟨hsum, rfl⟩ := ih hv.2 hw.2 (Nat.succ.inj hlength) h
          have hbase : 0 < base := Nat.lt_of_le_of_lt (Nat.zero_le v) hv.1
          have hquotient := congrArg (· / base) hsum
          have hremainder := congrArg (· % base) hsum
          simp only [Nat.mul_add_mod_of_lt hv.1, Nat.mul_add_mod_of_lt hw.1] at hremainder
          simp only [Nat.mul_comm _ base, Nat.mul_add_div hbase, Nat.div_eq_of_lt hv.1,
            Nat.div_eq_of_lt hw.1, Nat.add_zero] at hquotient
          exact ⟨hquotient, by rw [hremainder]⟩

theorem number_injective {base : Nat} {vs ws : List Nat} (hv : ∀ v ∈ vs, v < base) (hw : ∀ w ∈ ws, w < base)
    (hlength : vs.length = ws.length) (h : number base vs = number base ws) : vs = ws :=
  (foldl_injective hv hw hlength h).2

theorem toList_text (d : Bytes) : (text d).toList =
    ((sextets d).map fun v => Char.ofNat (symbol v).toNat) ++ List.replicate (padding d) '=' := by
  rw [text, String.toList_ofList, encode_eq, List.map_append, List.map_map, List.map_replicate]
  rfl

/-- There is one text that spells some bytes, and it is what is written for them. -/
theorem spells_iff {cs : List Char} {d : Bytes} : Spells cs d ↔ cs = (text d).toList := by
  have hpadding := padding_lt d
  have hgroups := length_sextets d
  rw [toList_text]
  constructor
  · rintro ⟨missing, hmissing, hbody, hlength, hnumber⟩
    obtain ⟨hlt, rfl⟩ := forall₂_alphabet_iff.mp hbody
    rw [List.length_map] at hlength
    obtain rfl : missing = padding d := by omega
    rw [← number_sextets] at hnumber
    rw [number_injective hlt lt_of_mem_sextets (by omega) hnumber]
  · rintro rfl
    refine .mk (padding d) hpadding (forall₂_alphabet_iff.mpr ⟨lt_of_mem_sextets, rfl⟩) ?_ (number_sextets d)
    rw [List.length_map]
    exact hgroups

theorem lt_of_mem_encode {d : Bytes} : ∀ b ∈ encode d, b < 128 := by
  have hall : ∀ v : Fin 64, symbol v < 128 := by decide
  intro b hb
  rcases mem_encode hb with rfl | ⟨v, hv, rfl⟩
  · decide
  · exact hall ⟨v, hv⟩

theorem decode_bytesOf_eq_ok_iff {cs : List Char} {d : Bytes} :
    decode (bytesOf (String.ofList cs)) = .ok d ↔ Spells cs d := by
  have htext : asciiText (encode d) = text d := rfl
  rw [decode_eq_ok_iff, bytesOf_eq_iff lt_of_mem_encode, htext, spells_iff, ← String.toList_inj,
    String.toList_ofList]

end RouteCascade.Text.Base64
