import RouteCascade.Text.Ascii

/-!
# The bytes of a text

A text is encoded one character after the other, and it is read back from its bytes. Bytes of a class
that has all those beyond ASCII can be told by the characters alone.
-/
namespace RouteCascade.Text

theorem toList_loop (bs : ByteArray) (i : Nat) (acc : Bytes) :
    ByteArray.toList.loop bs i acc = acc.reverse ++ bs.data.toList.drop i := by
  fun_induction ByteArray.toList.loop bs i acc with
  | case1 i acc h ih =>
      have hi : i < bs.data.toList.length := by simpa using h
      rw [ih, List.drop_eq_getElem_cons hi]
      simp [ByteArray.get!, h]
  | case2 i acc h =>
      rw [List.drop_of_length_le (by simpa using Nat.le_of_not_lt h), List.append_nil]

theorem toList_eq_data (bs : ByteArray) : bs.toList = bs.data.toList := by
  rw [ByteArray.toList, toList_loop, List.reverse_nil, List.nil_append, List.drop_zero]

theorem bytesOf_eq (s : String) : bytesOf s = s.toList.flatMap String.utf8EncodeChar := by
  rw [bytesOf, toList_eq_data, String.toUTF8_eq_toByteArray, ← String.utf8Encode_toList, List.utf8Encode,
    List.toList_data_toByteArray]

@[simp] theorem bytesOf_append (s t : String) : bytesOf (s ++ t) = bytesOf s ++ bytesOf t := by
  simp only [bytesOf_eq, String.toList_append, List.flatMap_append]

/-- A text is read back from its bytes. -/
theorem ofBytes?_bytesOf (s : String) : ofBytes? (bytesOf s) = some s := by
  have hs : (⟨(bytesOf s).toArray⟩ : ByteArray) = s.toByteArray := by
    rw [bytesOf, toList_eq_data, String.toUTF8_eq_toByteArray]
  rw [ofBytes?, hs, String.fromUTF8?, dif_pos s.isValidUTF8]
  rfl

/-- A character within ASCII is one byte. -/
theorem utf8EncodeChar_of_ascii {c : Char} (h : c.toNat < 128) :
    String.utf8EncodeChar c = [UInt8.ofNat c.toNat] := by
  have hc : c.val.toNat ≤ 0x7f := Nat.le_of_lt_succ h
  rw [String.utf8EncodeChar]
  exact if_pos hc

/-- A character beyond ASCII has no byte within. -/
theorem le_of_mem_utf8EncodeChar {c : Char} (h : 128 ≤ c.toNat) {b : UInt8}
    (hb : b ∈ String.utf8EncodeChar c) : 128 ≤ b := by
  have hc : ¬ c.val.toNat ≤ 0x7f := by
    have : c.val.toNat = c.toNat := rfl
    omega
  simp only [String.utf8EncodeChar, hc, if_false] at hb
  rw [UInt8.le_iff_toNat_le]
  split at hb
  · simp only [List.mem_cons, List.not_mem_nil, or_false] at hb
    rcases hb with rfl | rfl <;> simp <;> omega
  · split at hb <;> simp only [List.mem_cons, List.not_mem_nil, or_false] at hb
    · rcases hb with rfl | rfl | rfl <;> simp <;> omega
    · rcases hb with rfl | rfl | rfl | rfl <;> simp <;> omega

/-- The bytes of a text are in a class if its characters within ASCII are, and all bytes beyond. -/
theorem forall_mem_bytesOf {p : UInt8 → Prop} {s : String} (hbeyond : ∀ b, 128 ≤ b → p b)
    (hs : ∀ c ∈ s.toList, c.toNat < 128 → p (UInt8.ofNat c.toNat)) : ∀ b ∈ bytesOf s, p b := by
  intro b hb
  rw [bytesOf_eq, List.mem_flatMap] at hb
  obtain ⟨c, hc, hb⟩ := hb
  rcases Nat.lt_or_ge c.toNat 128 with hlt | hge
  · rw [utf8EncodeChar_of_ascii hlt, List.mem_singleton] at hb
    subst hb
    exact hs c hc hlt
  · exact hbeyond b (le_of_mem_utf8EncodeChar hge hb)

theorem ofNat_toNat_inj {a c : Char} (ha : a.toNat < 128) (hc : c.toNat < 128) :
    UInt8.ofNat c.toNat = UInt8.ofNat a.toNat ↔ c = a := by
  constructor
  · intro h
    have hnat := congrArg UInt8.toNat h
    rw [UInt8.toNat_ofNat', UInt8.toNat_ofNat', Nat.mod_eq_of_lt (by omega), Nat.mod_eq_of_lt (by omega)] at hnat
    exact Char.toNat_inj.mp hnat
  · rintro rfl
    rfl

/-- A character within ASCII is in a text if and only if its byte is among the bytes. -/
theorem mem_bytesOf_iff {s : String} {a : Char} (ha : a.toNat < 128) :
    UInt8.ofNat a.toNat ∈ bytesOf s ↔ a ∈ s.toList := by
  rw [bytesOf_eq, List.mem_flatMap]
  constructor
  · rintro ⟨c, hc, hmem⟩
    rcases Nat.lt_or_ge c.toNat 128 with hlt | hge
    · rw [utf8EncodeChar_of_ascii hlt, List.mem_singleton, ofNat_toNat_inj hlt ha] at hmem
      exact hmem ▸ hc
    · have hle := UInt8.le_iff_toNat_le.mp (le_of_mem_utf8EncodeChar hge hmem)
      rw [UInt8.toNat_ofNat', Nat.mod_eq_of_lt (by omega)] at hle
      exact absurd ha (Nat.not_lt.mpr hle)
  · intro hmem
    refine ⟨a, hmem, ?_⟩
    rw [utf8EncodeChar_of_ascii ha]
    exact List.mem_cons_self

theorem bytesOf_eq_nil_iff {s : String} : bytesOf s = [] ↔ s.toList = [] := by
  rw [bytesOf_eq, List.flatMap_eq_nil_iff, List.eq_nil_iff_forall_not_mem]
  refine forall₂_congr fun c _ => ?_
  exact iff_of_false String.utf8EncodeChar_ne_nil id

/-- What holds of the numbers below a bound holds of the bytes below it. -/
theorem forall_byte_lt {n : Nat} {p : UInt8 → Prop} (h : ∀ i : Fin n, p (UInt8.ofNat i)) {b : UInt8}
    (hb : b.toNat < n) : p b := by
  have hp := h ⟨b.toNat, hb⟩
  rwa [UInt8.ofNat_toNat] at hp

theorem bytesOf_injective {s t : String} (h : bytesOf s = bytesOf t) : s = t := by
  have hread := congrArg ofBytes? h
  rw [ofBytes?_bytesOf, ofBytes?_bytesOf] at hread
  exact Option.some.inj hread

def asciiText (bs : Bytes) : String := String.ofList (bs.map fun b => Char.ofNat b.toNat)

theorem toNat_ofNat_of_ascii {b : UInt8} (h : b < 128) : (Char.ofNat b.toNat).toNat = b.toNat := by
  have hb : b.toNat < 128 := UInt8.lt_iff_toNat_lt.mp h
  rw [Char.ofNat, dif_pos (.inl (by omega))]
  rfl

theorem bytesOf_asciiText {bs : Bytes} (h : ∀ b ∈ bs, b < 128) : bytesOf (asciiText bs) = bs := by
  rw [bytesOf_eq, asciiText, String.toList_ofList]
  induction bs with
  | nil => rfl
  | cons b bs ih =>
      obtain ⟨hb, hbs⟩ := List.forall_mem_cons.mp h
      have hchar := toNat_ofNat_of_ascii hb
      have hlt : (Char.ofNat b.toNat).toNat < 128 := by
        rw [hchar]
        exact UInt8.lt_iff_toNat_lt.mp hb
      rw [List.map_cons, List.flatMap_cons, utf8EncodeChar_of_ascii hlt, hchar, UInt8.ofNat_toNat, ih hbs]
      rfl

theorem exists_asciiText {s : String} (h : ∀ c ∈ s.toList, c.toNat < 128) :
    ∃ bs : Bytes, (∀ b ∈ bs, b < 128) ∧ s = asciiText bs := by
  refine ⟨s.toList.map fun c => UInt8.ofNat c.toNat, ?_, ?_⟩
  · intro b hb
    obtain ⟨c, hc, rfl⟩ := List.mem_map.mp hb
    have := h c hc
    rw [UInt8.lt_iff_toNat_lt, UInt8.toNat_ofNat']
    simp only [UInt8.reduceToNat]
    omega
  · have hsame : s.toList.map (fun c => Char.ofNat (UInt8.ofNat c.toNat).toNat) = s.toList := by
      refine (List.map_congr_left (g := id) fun c hc => ?_).trans (List.map_id _)
      have := h c hc
      rw [UInt8.toNat_ofNat', Nat.mod_eq_of_lt (by omega), Char.ofNat_toNat]
      rfl
    rw [asciiText, List.map_map]
    exact (String.ofList_toList.symm.trans (congrArg String.ofList hsame.symm))

/-- Between a text and bytes within ASCII, one character belongs to one byte. -/
theorem bytesOf_eq_iff {s : String} {bs : Bytes} (h : ∀ b ∈ bs, b < 128) :
    bytesOf s = bs ↔ s = asciiText bs := by
  constructor
  · intro hs
    exact bytesOf_injective (hs.trans (bytesOf_asciiText h).symm)
  · rintro rfl
    exact bytesOf_asciiText h

/-- A class of bytes, of which those beyond ASCII are, as one of characters. -/
def onAscii (p : UInt8 → Bool) (c : Char) : Bool := 128 ≤ c.toNat || p (UInt8.ofNat c.toNat)

theorem onAscii_ne {a : Char} (ha : a.toNat < 128) (c : Char) :
    onAscii (· != UInt8.ofNat a.toNat) c = (c != a) := by
  rw [onAscii, Bool.eq_iff_iff]
  simp only [Bool.or_eq_true, decide_eq_true_eq, bne_iff_ne, ne_eq]
  constructor
  · rintro (hc | hc) rfl
    · omega
    · exact hc rfl
  · intro hne
    rcases Nat.lt_or_ge c.toNat 128 with hc | hc
    · exact .inr fun heq => hne ((ofNat_toNat_inj ha hc).mp heq)
    · exact .inl hc

section Cut
variable {p : UInt8 → Bool} (hbeyond : ∀ b, 128 ≤ b → p b)
include hbeyond

/-- Bytes are cut where a character within ASCII stands. -/
theorem takeWhile_utf8 (cs : List Char) : (cs.flatMap String.utf8EncodeChar).takeWhile p =
    (cs.takeWhile (onAscii p)).flatMap String.utf8EncodeChar := by
  induction cs with
  | nil => rfl
  | cons c cs ih =>
      rw [List.flatMap_cons]
      rcases Nat.lt_or_ge c.toNat 128 with hlt | hge
      · have hc : onAscii p c = p (UInt8.ofNat c.toNat) := by simp [onAscii, Nat.not_le.mpr hlt]
        rw [utf8EncodeChar_of_ascii hlt, List.singleton_append, List.takeWhile_cons, List.takeWhile_cons,
          hc, ih]
        cases p (UInt8.ofNat c.toNat) with
        | false => rfl
        | true => simp [utf8EncodeChar_of_ascii hlt]
      · have hc : onAscii p c = true := by simp [onAscii, hge]
        have hall : ∀ b ∈ String.utf8EncodeChar c, p b := fun b hb =>
          hbeyond b (le_of_mem_utf8EncodeChar hge hb)
        rw [List.takeWhile_append_of_pos hall, List.takeWhile_cons, hc, ih]
        exact List.flatMap_cons.symm

theorem takeWhile_bytesOf (s : String) :
    (bytesOf s).takeWhile p = bytesOf (String.ofList (s.toList.takeWhile (onAscii p))) := by
  rw [bytesOf_eq, takeWhile_utf8 hbeyond, bytesOf_eq, String.toList_ofList]

theorem dropWhile_bytesOf (s : String) :
    (bytesOf s).dropWhile p = bytesOf (String.ofList (s.toList.dropWhile (onAscii p))) := by
  have hs : s = String.ofList (s.toList.takeWhile (onAscii p)) ++
      String.ofList (s.toList.dropWhile (onAscii p)) := by
    rw [← String.ofList_append, List.takeWhile_append_dropWhile, String.ofList_toList]
  have hwhole : bytesOf s = (bytesOf s).takeWhile p ++
      bytesOf (String.ofList (s.toList.dropWhile (onAscii p))) := by
    rw [takeWhile_bytesOf hbeyond, ← bytesOf_append, ← hs]
  exact List.append_cancel_left ((List.takeWhile_append_dropWhile).trans hwhole)

end Cut

/-- Behind a byte within ASCII, a text goes on. -/
theorem exists_bytesOf_tail {s : String} {b : UInt8} {rest : Bytes} (h : bytesOf s = b :: rest)
    (hb : b < 128) : ∃ t, rest = bytesOf t := by
  rw [bytesOf_eq] at h
  cases hs : s.toList with
  | nil =>
      rw [hs] at h
      cases h
  | cons c cs =>
      rw [hs, List.flatMap_cons] at h
      rcases Nat.lt_or_ge c.toNat 128 with hlt | hge
      · rw [utf8EncodeChar_of_ascii hlt, List.singleton_append] at h
        refine ⟨String.ofList cs, ?_⟩
        rw [bytesOf_eq, String.toList_ofList]
        exact (List.cons.inj h).2.symm
      · obtain ⟨x, xs, hx⟩ := List.exists_cons_of_ne_nil (String.utf8EncodeChar_ne_nil (c := c))
        rw [hx, List.cons_append] at h
        have hle := le_of_mem_utf8EncodeChar hge (hx ▸ List.mem_cons_self)
        rw [(List.cons.inj h).1] at hle
        exact absurd hb (UInt8.not_lt.mpr hle)

end RouteCascade.Text
