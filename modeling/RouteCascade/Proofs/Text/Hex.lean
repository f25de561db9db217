import RouteCascade.Proofs.Text.Utf8
import RouteCascade.Text.Hex

/-!
# What hexadecimal text stands for

A text of digits is told character by character: two digits for every byte, the high one first, in either
case. The reader takes exactly these texts, and what is written is the one among them in small letters.
-/
namespace RouteCascade.Text.Hex

def digits : List Char := "0123456789abcdef".toList

def IsDigit (c : Char) (n : Nat) : Prop := digits[n]? = some (lowerChar c)

/-- A text spells some bytes, with two digits for each. -/
inductive Spells : List Char → Bytes → Prop
  | nil : Spells [] []
  | cons {high low : Char} {b : UInt8} {cs : List Char} {bs : Bytes} :
      IsDigit high (b.toNat / 16) → IsDigit low (b.toNat % 16) → Spells cs bs →
      Spells (high :: low :: cs) (b :: bs)

theorem Spells.length {cs : List Char} {bs : Bytes} (h : Spells cs bs) : cs.length = 2 * bs.length := by
  induction h with
  | nil => rfl
  | cons _ _ _ ih =>
      simp only [List.length_cons]
      omega

/-! ## Bytes -/

theorem digit?_eq_some_iff {b x : UInt8} : digit? b = some x ↔ x < 16 ∧ lowerByte b = digit x := by
  constructor
  · exact forall_byte_lt (p := fun b => ∀ x ∈ digit? b, x < 16 ∧ lowerByte b = digit x) (n := 256)
      (by decide +kernel) b.toNat_lt x
  · rintro ⟨hx, hb⟩
    have hread : ∀ n : Fin 256, ∀ x : Fin 16, lowerByte (UInt8.ofNat n) = digit (UInt8.ofNat x) →
        digit? (UInt8.ofNat n) = some (UInt8.ofNat x) := by
      decide +kernel
    have hdigit := hread ⟨b.toNat, b.toNat_lt⟩ ⟨x.toNat, UInt8.lt_iff_toNat_lt.mp hx⟩
    simp only [UInt8.ofNat_toNat] at hdigit
    exact hdigit hb

theorem halves {x y : UInt8} (hx : x < 16) (hy : y < 16) : (16 * x + y) / 16 = x ∧ (16 * x + y) % 16 = y := by
  rw [UInt8.lt_iff_toNat_lt] at hx hy
  simp only [UInt8.reduceToNat] at hx hy
  constructor
  · rw [← UInt8.toNat_inj, UInt8.toNat_div, UInt8.toNat_add, UInt8.toNat_mul]
    simp only [UInt8.reduceToNat]
    omega
  · rw [← UInt8.toNat_inj, UInt8.toNat_mod, UInt8.toNat_add, UInt8.toNat_mul]
    simp only [UInt8.reduceToNat]
    omega

theorem toNat_quotient (b : UInt8) : (b / 16).toNat = b.toNat / 16 := UInt8.toNat_div b 16

theorem toNat_remainder (b : UInt8) : (b % 16).toNat = b.toNat % 16 := UInt8.toNat_mod b 16

theorem quotient_lt (b : UInt8) : b / 16 < 16 := by
  have := b.toNat_lt
  rw [UInt8.lt_iff_toNat_lt, toNat_quotient]
  simp only [UInt8.reduceToNat]
  omega

theorem remainder_lt (b : UInt8) : b % 16 < 16 := by
  rw [UInt8.lt_iff_toNat_lt, toNat_remainder]
  simp only [UInt8.reduceToNat]
  omega

theorem decodeFrom_eq_ok_iff {i : Nat} {s bs : Bytes} :
    decodeFrom i s = .ok bs ↔ s.map lowerByte = encode bs := by
  constructor
  · intro h
    fun_induction decodeFrom i s generalizing bs with
    | case1 =>
        cases h
        rfl
    | case3 i high low rest x y hy hx bs' hrest ih =>
        cases h
        obtain ⟨hx16, hhigh⟩ := digit?_eq_some_iff.mp hx
        obtain ⟨hy16, hlow⟩ := digit?_eq_some_iff.mp hy
        obtain ⟨hquotient, hremainder⟩ := halves hx16 hy16
        rw [List.map_cons, List.map_cons, ih hrest, encode, hhigh, hlow, hquotient, hremainder]
    | _ => cases h
  · intro h
    induction bs generalizing i s with
    | nil =>
        obtain rfl := List.map_eq_nil_iff.mp h
        rfl
    | cons b bs ih =>
        obtain ⟨high, s, rfl, hhigh, h⟩ := List.map_eq_cons_iff.mp h
        obtain ⟨low, s, rfl, hlow, h⟩ := List.map_eq_cons_iff.mp h
        have hx := digit?_eq_some_iff.mpr ⟨quotient_lt b, hhigh⟩
        have hy := digit?_eq_some_iff.mpr ⟨remainder_lt b, hlow⟩
        rw [decodeFrom, hx, hy]
        dsimp only
        rw [ih h, (digits_of_byte b).2.2]

theorem decode_eq_ok_iff {s bs : Bytes} : decode s = .ok bs ↔ s.map lowerByte = encode bs := by
  unfold decode
  split
  · rename_i hodd
    refine iff_of_false nofun fun h => ?_
    have hlength := congrArg List.length h
    rw [List.length_map, length_encode] at hlength
    omega
  · exact decodeFrom_eq_ok_iff

/-! ## Characters -/

theorem mem_encode {bs : Bytes} {b : UInt8} (h : b ∈ encode bs) : ∃ n < 16, b = digit n := by
  induction bs with
  | nil => cases h
  | cons a bs ih =>
      rcases List.mem_cons.mp h with rfl | h
      · exact ⟨a / 16, quotient_lt a, rfl⟩
      · rcases List.mem_cons.mp h with rfl | h
        · exact ⟨a % 16, remainder_lt a, rfl⟩
        · exact ih h

theorem forall_mem_encode {p : UInt8 → Prop} (h : ∀ n : Fin 16, p (digit (UInt8.ofNat n))) {bs : Bytes} :
    ∀ b ∈ encode bs, p b := by
  intro b hb
  obtain ⟨n, hn, rfl⟩ := mem_encode hb
  exact forall_byte_lt (p := fun n => p (digit n)) h (UInt8.lt_iff_toNat_lt.mp hn)

theorem lt_of_mem_encode {bs : Bytes} : ∀ b ∈ encode bs, b < 128 := forall_mem_encode (by decide)

theorem isBlank_of_mem_text {bs : Bytes} {c : Char} (h : c ∈ (text bs).toList) : isBlank c = false := by
  rw [text, String.toList_ofList] at h
  obtain ⟨b, hb, rfl⟩ := List.mem_map.mp h
  exact forall_mem_encode (p := fun b => isBlank (Char.ofNat b.toNat) = false) (by decide) b hb

theorem isDigit_iff {c : Char} {n : UInt8} (h : n < 16) :
    IsDigit c n.toNat ↔ lowerChar c = Char.ofNat (digit n).toNat := by
  have hn : digits[n.toNat]? = some (Char.ofNat (digit n).toNat) :=
    forall_byte_lt (p := fun n => digits[n.toNat]? = some (Char.ofNat (digit n).toNat)) (by decide)
      (UInt8.lt_iff_toNat_lt.mp h)
  rw [IsDigit, hn, Option.some.injEq]
  exact eq_comm

theorem lowerChar_ofNat {b : UInt8} (h : b < 128) :
    lowerChar (Char.ofNat b.toNat) = Char.ofNat (lowerByte b).toNat :=
  forall_byte_lt (p := fun b => lowerChar (Char.ofNat b.toNat) = Char.ofNat (lowerByte b).toNat)
    (by decide +kernel) (UInt8.lt_iff_toNat_lt.mp h)

theorem toNat_lt_of_lowerChar {c : Char} (h : (lowerChar c).toNat < 128) : c.toNat < 128 := by
  unfold lowerChar at h
  split at h
  · rename_i hc
    have hz : c.toNat ≤ 'Z'.toNat := UInt32.le_iff_toNat_le.mp hc.2
    exact Nat.lt_of_le_of_lt hz (by decide)
  · exact h

/-- In small letters a text that spells some bytes is what is written for them. -/
theorem spells_iff {cs : List Char} {bs : Bytes} :
    Spells cs bs ↔ cs.map lowerChar = (encode bs).map fun b => Char.ofNat b.toNat := by
  constructor
  · intro h
    induction h with
    | nil => rfl
    | @cons high low b cs bs hhigh hlow _ ih =>
        rw [← toNat_quotient, isDigit_iff (quotient_lt b)] at hhigh
        rw [← toNat_remainder, isDigit_iff (remainder_lt b)] at hlow
        simp only [List.map_cons, encode, hhigh, hlow, ih]
  · intro h
    induction bs generalizing cs with
    | nil =>
        obtain rfl := List.map_eq_nil_iff.mp h
        exact .nil
    | cons b bs ih =>
        simp only [encode, List.map_cons] at h
        obtain ⟨high, cs, rfl, hhigh, h⟩ := List.map_eq_cons_iff.mp h
        obtain ⟨low, cs, rfl, hlow, h⟩ := List.map_eq_cons_iff.mp h
        refine .cons ?_ ?_ (ih h)
        · rw [← toNat_quotient, isDigit_iff (quotient_lt b)]
          exact hhigh
        · rw [← toNat_remainder, isDigit_iff (remainder_lt b)]
          exact hlow

theorem map_lowerChar_asciiText {bs : Bytes} (h : ∀ b ∈ bs, b < 128) :
    (asciiText bs).toList.map lowerChar = (asciiText (bs.map lowerByte)).toList := by
  simp only [asciiText, String.toList_ofList, List.map_map]
  exact List.map_congr_left fun b hb => lowerChar_ofNat (h b hb)

theorem lowerByte_lt_iff {b : UInt8} : lowerByte b < 128 ↔ b < 128 :=
  forall_byte_lt (p := fun b => lowerByte b < 128 ↔ b < 128) (n := 256) (by decide +kernel) b.toNat_lt

/-- Reading the bytes of a text, those of characters beyond ASCII among them, takes the texts that spell
something. -/
theorem decode_bytesOf_eq_ok_iff {cs : List Char} {bs : Bytes} :
    decode (bytesOf (String.ofList cs)) = .ok bs ↔ Spells cs bs := by
  rw [decode_eq_ok_iff, spells_iff]
  constructor
  · intro h
    have hascii : ∀ b ∈ bytesOf (String.ofList cs), b < 128 := by
      intro b hb
      have hmem : lowerByte b ∈ encode bs := h ▸ List.mem_map_of_mem hb
      exact lowerByte_lt_iff.mp (lt_of_mem_encode _ hmem)
    have htext := (bytesOf_eq_iff hascii).mp rfl
    have hlower := map_lowerChar_asciiText hascii
    rw [← htext, h, String.toList_ofList] at hlower
    rw [hlower, asciiText, String.toList_ofList]
  · intro h
    have hascii : ∀ c ∈ (String.ofList cs).toList, c.toNat < 128 := by
      intro c hc
      rw [String.toList_ofList] at hc
      apply toNat_lt_of_lowerChar
      have hmem : lowerChar c ∈ (encode bs).map fun b => Char.ofNat b.toNat := h ▸ List.mem_map_of_mem hc
      obtain ⟨b, hb, hchar⟩ := List.mem_map.mp hmem
      rw [← hchar, toNat_ofNat_of_ascii (lt_of_mem_encode b hb)]
      exact UInt8.lt_iff_toNat_lt.mp (lt_of_mem_encode b hb)
    obtain ⟨s, hs, htext⟩ := exists_asciiText hascii
    have hlower := map_lowerChar_asciiText hs
    rw [← htext, String.toList_ofList, h] at hlower
    have hsame : asciiText (s.map lowerByte) = asciiText (encode bs) := by
      rw [← String.ofList_toList (s := asciiText (s.map lowerByte)), ← hlower]
      rfl
    have hlt : ∀ b ∈ s.map lowerByte, b < 128 := by
      intro b hb
      obtain ⟨a, ha, rfl⟩ := List.mem_map.mp hb
      exact lowerByte_lt_iff.mpr (hs a ha)
    rw [htext, bytesOf_asciiText hs, ← bytesOf_asciiText hlt, hsame, bytesOf_asciiText lt_of_mem_encode]

theorem spells_text (bs : Bytes) : Spells (text bs).toList bs := by
  have h : bytesOf (text bs) = encode bs := bytesOf_asciiText lt_of_mem_encode
  rw [← decode_bytesOf_eq_ok_iff, String.ofList_toList, h]
  exact decode_encode bs

end RouteCascade.Text.Hex
