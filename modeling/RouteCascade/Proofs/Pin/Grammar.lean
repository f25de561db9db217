import RouteCascade.Pin.Identity
import RouteCascade.Proofs.Text.Base64
import RouteCascade.Proofs.Text.Hex
import Mathlib.Data.List.TakeWhile

/-!
# Which texts are identities

An identity is written in one of two ways, and the blanks around it do not count. A fingerprint has its mark in
front and then two hexadecimal digits for each of its bytes, with nothing between them. Any other text has
to be a certificate: without its blanks, wherever they stand, it is what base64 writes for some
bytes, of which there is at least one. So a certificate has one text without blanks.
-/
namespace RouteCascade

open Text

namespace Text

theorem removeBlanks_dropWhile (s : List Char) : removeBlanks (s.dropWhile isBlank) = removeBlanks s := by
  induction s with
  | nil => rfl
  | cons c s ih =>
      cases hc : isBlank c with
      | true => simpa [removeBlanks, hc] using ih
      | false => rw [List.dropWhile_cons_of_neg (by simp [hc])]

theorem removeBlanks_reverse (s : List Char) : removeBlanks s.reverse = (removeBlanks s).reverse := by
  rw [removeBlanks, removeBlanks, List.filter_reverse]

theorem removeBlanks_trim (s : List Char) : removeBlanks (trim s) = removeBlanks s := by
  rw [trim, trimEnd, removeBlanks_reverse, removeBlanks_dropWhile, removeBlanks_reverse, List.reverse_reverse,
    trimStart, removeBlanks_dropWhile]

theorem removeBlanks_eq_nil_iff {s : List Char} : removeBlanks s = [] ↔ ∀ c ∈ s, isBlank c = true := by
  rw [removeBlanks, List.filter_eq_nil_iff]
  simp only [Bool.not_eq_true', Bool.not_eq_false]

theorem removeBlanks_of_clear {s : List Char} (h : ∀ c ∈ s, isBlank c = false) : removeBlanks s = s := by
  rw [removeBlanks, List.filter_eq_self]
  intro c hc
  rw [h c hc]
  rfl

theorem trim_eq_nil_iff {s : List Char} : trim s = [] ↔ removeBlanks s = [] := by
  constructor
  · intro h
    rw [← removeBlanks_trim, h]
    rfl
  · intro h
    have hall := removeBlanks_eq_nil_iff.mp h
    rw [trim, trimStart, List.dropWhile_eq_nil_iff.mpr hall]
    rfl

theorem trim_of_clear {s : List Char} (h : ∀ c ∈ s, isBlank c = false) : trim s = s := by
  have hkeep : ∀ t : List Char, (∀ c ∈ t, isBlank c = false) → t.dropWhile isBlank = t := by
    intro t ht
    cases t with
    | nil => rfl
    | cons c t => rw [List.dropWhile_cons_of_neg (by simp [ht c List.mem_cons_self])]
  rw [trim, trimStart, hkeep s h, trimEnd, hkeep s.reverse fun c hc => h c (List.mem_reverse.mp hc),
    List.reverse_reverse]

end Text

namespace Identity

section Fingerprints
variable {digits : List Char} {i : Identity} {e : IdentityFault}

theorem parseFingerprint_eq_ok_iff :
    parseFingerprint digits = .ok i ↔ ∃ p, i = .fingerprint p ∧ Hex.Spells digits p.bytes := by
  unfold parseFingerprint bytesOfChars
  constructor
  · intro h
    split at h
    · cases h
    rename_i bytes hbytes
    split at h
    · rename_i hlength
      cases h
      exact ⟨⟨bytes, hlength⟩, rfl, Hex.decode_bytesOf_eq_ok_iff.mp hbytes⟩
    · cases h
  · rintro ⟨p, rfl, h⟩
    rw [Hex.decode_bytesOf_eq_ok_iff.mpr h]
    dsimp only
    rw [dif_pos p.length_eq]

theorem parseFingerprint_eq_error (h : parseFingerprint digits = .error e) :
    (∃ f, e = .hex f ∧ ∀ bs, ¬ Hex.Spells digits bs) ∨
      e = .length ∧ ∃ bs, Hex.Spells digits bs ∧ bs.length ≠ 32 := by
  unfold parseFingerprint bytesOfChars at h
  split at h
  · rename_i f hf
    cases h
    refine .inl ⟨f, rfl, fun bs hbs => ?_⟩
    rw [Hex.decode_bytesOf_eq_ok_iff.mpr hbs] at hf
    cases hf
  rename_i bytes hbytes
  split at h
  · cases h
  · rename_i hlength
    cases h
    exact .inr ⟨rfl, bytes, Hex.decode_bytesOf_eq_ok_iff.mp hbytes, hlength⟩

end Fingerprints

section Certificates
variable {s : List Char} {der : Bytes} {i : Identity} {e : IdentityFault}

theorem parseCertificate_eq_ok_iff : parseCertificate s = .ok i ↔
    ∃ der, i = .certificate der ∧ Base64.Spells (removeBlanks s) der := by
  unfold parseCertificate bytesOfChars
  constructor
  · intro h
    split at h
    · cases h
    rename_i der hder
    cases h
    exact ⟨der, rfl, Base64.decode_bytesOf_eq_ok_iff.mp hder⟩
  · rintro ⟨der, rfl, h⟩
    rw [Base64.decode_bytesOf_eq_ok_iff.mpr h]

theorem parseCertificate_eq_error (h : parseCertificate s = .error e) :
    ∃ f, e = .base64 f ∧ ∀ der, ¬ Base64.Spells (removeBlanks s) der := by
  unfold parseCertificate bytesOfChars at h
  split at h
  · rename_i f hf
    cases h
    refine ⟨f, rfl, fun der hder => ?_⟩
    rw [Base64.decode_bytesOf_eq_ok_iff.mpr hder] at hf
    cases hf
  · cases h

theorem eq_nil_iff_of_spells (h : Base64.Spells s der) : s = [] ↔ der = [] := by
  rw [Base64.spells_iff.mp h, Base64.text, String.toList_ofList, List.map_eq_nil_iff, Base64.encode_eq_nil_iff]

/-- The mark of a fingerprint ends with a character that base64 does not use. -/
theorem colon_not_mem_of_spells (h : Base64.Spells s der) : ':' ∉ s := by
  have hall : ∀ v : Fin 64, Char.ofNat (Base64.symbol v).toNat ≠ ':' := by decide
  intro hmem
  rw [Base64.spells_iff.mp h, Base64.text, String.toList_ofList] at hmem
  obtain ⟨b, hb, hc⟩ := List.mem_map.mp hmem
  rcases Base64.mem_encode hb with rfl | ⟨v, hv, rfl⟩
  · cases hc
  · exact hall ⟨v, hv⟩ hc

end Certificates

section Texts
variable {text : String} {digits : List Char} {der : Bytes}

theorem parse_of_blank (h : trim text.toList = []) : parse text = .error .empty := by
  unfold parse
  rw [h]
  rfl

theorem parse_of_marked (h : trim text.toList = fingerprintMark ++ digits) :
    parse text = parseFingerprint digits := by
  unfold parse
  rw [h]
  rfl

theorem parse_of_unmarked (hne : trim text.toList ≠ []) (h : ¬ fingerprintMark <+: trim text.toList) :
    parse text = parseCertificate (trim text.toList) := by
  unfold parse
  dsimp only
  rw [if_neg (by simpa using hne), if_neg (by simpa using h)]

/-- A text has one of three forms, each with its reader. -/
theorem parse_cases (text : String) :
    (trim text.toList = [] ∧ parse text = .error .empty) ∨
      (∃ digits, trim text.toList = fingerprintMark ++ digits ∧ parse text = parseFingerprint digits) ∨
      trim text.toList ≠ [] ∧ ¬ fingerprintMark <+: trim text.toList ∧
        parse text = parseCertificate (trim text.toList) := by
  by_cases hne : trim text.toList = []
  · exact .inl ⟨hne, parse_of_blank hne⟩
  · by_cases hmark : fingerprintMark <+: trim text.toList
    · obtain ⟨digits, hdigits⟩ := hmark
      exact .inr (.inl ⟨digits, hdigits.symm, parse_of_marked hdigits.symm⟩)
    · exact .inr (.inr ⟨hne, hmark, parse_of_unmarked hne hmark⟩)

/-- A certificate starts with no mark, however it is broken up. -/
theorem unmarked_of_spells (h : Base64.Spells (removeBlanks (trim text.toList)) der) :
    ¬ fingerprintMark <+: trim text.toList := by
  rintro ⟨digits, hdigits⟩
  apply colon_not_mem_of_spells h
  rw [← hdigits, removeBlanks_append]
  apply List.mem_append_left
  decide

theorem parse_eq_fingerprint_iff {p : Fingerprint} : parse text = .ok (.fingerprint p) ↔
    ∃ digits, trim text.toList = fingerprintMark ++ digits ∧ Hex.Spells digits p.bytes := by
  constructor
  · intro h
    rcases parse_cases text with ⟨-, hparse⟩ | ⟨digits, hdigits, hparse⟩ | ⟨-, -, hparse⟩ <;> rw [hparse] at h
    · cases h
    · obtain ⟨q, hq, hspells⟩ := parseFingerprint_eq_ok_iff.mp h
      cases hq
      exact ⟨digits, hdigits, hspells⟩
    · obtain ⟨der, hder, -⟩ := parseCertificate_eq_ok_iff.mp h
      cases hder
  · rintro ⟨digits, hdigits, hspells⟩
    rw [parse_of_marked hdigits]
    exact parseFingerprint_eq_ok_iff.mpr ⟨p, rfl, hspells⟩

theorem parse_eq_certificate_iff : parse text = .ok (.certificate der) ↔
    der ≠ [] ∧ Base64.Spells (removeBlanks (trim text.toList)) der := by
  constructor
  · intro h
    rcases parse_cases text with ⟨-, hparse⟩ | ⟨digits, -, hparse⟩ | ⟨hne, -, hparse⟩ <;> rw [hparse] at h
    · cases h
    · obtain ⟨p, hp, -⟩ := parseFingerprint_eq_ok_iff.mp h
      cases hp
    · obtain ⟨der', hder, htext⟩ := parseCertificate_eq_ok_iff.mp h
      cases hder
      refine ⟨fun hempty => hne ?_, htext⟩
      rw [trim_eq_nil_iff, ← removeBlanks_trim]
      exact (eq_nil_iff_of_spells htext).mpr hempty
  · rintro ⟨hder, htext⟩
    have hne : trim text.toList ≠ [] := by
      intro hempty
      rw [hempty] at htext
      exact hder ((eq_nil_iff_of_spells htext).mp rfl)
    rw [parse_of_unmarked hne (unmarked_of_spells htext)]
    exact parseCertificate_eq_ok_iff.mpr ⟨der, rfl, htext⟩

end Texts

/-- Why some characters, without blanks around them, are no identity. -/
inductive Refuses (s : List Char) : IdentityFault → Prop
  | blank : s = [] → Refuses s .empty
  | digits {digits : List Char} {f : Hex.Fault} : s = fingerprintMark ++ digits →
      (∀ bs, ¬ Hex.Spells digits bs) → Refuses s (.hex f)
  | length {digits : List Char} {bs : Bytes} : s = fingerprintMark ++ digits → Hex.Spells digits bs →
      bs.length ≠ 32 → Refuses s .length
  | symbols {f : Base64.Fault} : s ≠ [] → ¬ fingerprintMark <+: s →
      (∀ der, ¬ Base64.Spells (removeBlanks s) der) → Refuses s (.base64 f)

theorem refuses_of_parse {text : String} {e : IdentityFault} (h : parse text = .error e) :
    Refuses (trim text.toList) e := by
  rcases parse_cases text with ⟨hs, hparse⟩ | ⟨digits, hs, hparse⟩ | ⟨hne, hmark, hparse⟩ <;> rw [hparse] at h
  · cases h
    exact .blank hs
  · rcases parseFingerprint_eq_error h with ⟨f, rfl, hnone⟩ | ⟨rfl, bs, hbs, hlength⟩
    · exact .digits hs hnone
    · exact .length hs hbs hlength
  · obtain ⟨f, rfl, hnone⟩ := parseCertificate_eq_error h
    exact .symbols hne hmark hnone

/-- A text is read as what it spells, and refused if it spells no identity. -/
structure ReadsExactly (text : String) : Prop where
  fingerprint : ∀ p, parse text = .ok (.fingerprint p) ↔
    ∃ digits, trim text.toList = fingerprintMark ++ digits ∧ digits.length = 64 ∧ Hex.Spells digits p.bytes
  certificate : ∀ der, parse text = .ok (.certificate der) ↔
    ¬ fingerprintMark <+: trim text.toList ∧ der ≠ [] ∧
      Base64.Spells (removeBlanks (trim text.toList)) der
  refused : (∀ i, parse text ≠ .ok i) →
    ∃ e, parse text = .error e ∧ Refuses (trim text.toList) e ∧ e.failure.kind = .config
  /-- A certificate may be broken up by blanks. -/
  broken : ∀ der, der ≠ [] → removeBlanks text.toList = (Base64.text der).toList →
    parse text = .ok (.certificate der)
  /-- Without blanks a certificate has one text. -/
  sole : ∀ other der, (∀ c ∈ text.toList ++ other.toList, isBlank c = false) →
    parse text = .ok (.certificate der) → parse other = .ok (.certificate der) → text = other

theorem readsExactly_parse (text : String) : ReadsExactly text := by
  refine ⟨fun p => ?_, fun der => ?_, fun h => ?_, fun der hder h => ?_, fun other der h htext hother => ?_⟩
  · rw [parse_eq_fingerprint_iff]
    constructor
    · rintro ⟨digits, hdigits, hspells⟩
      refine ⟨digits, hdigits, ?_, hspells⟩
      rw [hspells.length, p.length_eq]
    · rintro ⟨digits, hdigits, -, hspells⟩
      exact ⟨digits, hdigits, hspells⟩
  · rw [parse_eq_certificate_iff]
    constructor
    · rintro ⟨hder, htext⟩
      exact ⟨unmarked_of_spells htext, hder, htext⟩
    · rintro ⟨-, hder, htext⟩
      exact ⟨hder, htext⟩
  · cases hparse : parse text with
    | ok i => exact absurd hparse (h i)
    | error e => exact ⟨e, rfl, refuses_of_parse hparse, rfl⟩
  · rw [parse_eq_certificate_iff]
    refine ⟨hder, ?_⟩
    rw [removeBlanks_trim, Base64.spells_iff, h]
  · rw [List.forall_mem_append] at h
    have hfirst := (parse_eq_certificate_iff.mp htext).2
    have hsecond := (parse_eq_certificate_iff.mp hother).2
    rw [removeBlanks_trim, removeBlanks_of_clear h.1, Base64.spells_iff] at hfirst
    rw [removeBlanks_trim, removeBlanks_of_clear h.2, Base64.spells_iff] at hsecond
    rw [← String.toList_inj, hfirst, hsecond]

-- The second text differs in bits that belong to no byte.
example : parse " AQ=\n= " = .ok (.certificate [1]) ∧ parse "AR==" = .error (.base64 (.badLastSymbol 82 1)) := by
  decide +kernel

end Identity

end RouteCascade
