import RouteCascade.Proofs.Pin.Grammar

/-!
# Identities and their fingerprints

What an identity is shown as can be set in its place: the text is read as the fingerprint that every matching
certificate has. Nothing is lost by this but the certificate itself, so a second time changes nothing, and
whatever matched before matches still. More than that matches only if two certificates have one
fingerprint.
-/
namespace RouteCascade

open Text Digest

namespace Identity

variable {i : Identity} {c der : Bytes} {p : Fingerprint}

theorem toList_text (i : Identity) : i.text.toList = fingerprintMark ++ (Hex.text i.digest.bytes).toList :=
  String.toList_append

theorem isBlank_of_mem_text {a : Char} (h : a ∈ i.text.toList) : isBlank a = false := by
  rw [toList_text, List.mem_append] at h
  rcases h with h | h
  · have hmark : fingerprintMark.all (fun a => !isBlank a) = true := by decide
    simpa using List.all_eq_true.mp hmark a h
  · exact Hex.isBlank_of_mem_text h

/-- What is shown of an identity is read as its fingerprint. -/
theorem parse_text (i : Identity) : parse i.text = .ok (.fingerprint i.digest) := by
  rw [parse_eq_fingerprint_iff, trim_of_clear fun a ha => isBlank_of_mem_text ha]
  exact ⟨_, toList_text i, Hex.spells_text _⟩

theorem isMatch_certificate_iff : (certificate der).isMatch c = true ↔ c = der := by
  rw [isMatch, beq_iff_eq]
  exact eq_comm

theorem isMatch_fingerprint_iff : (fingerprint p).isMatch c = true ↔ sha256 c = p.bytes := by
  rw [isMatch, beq_iff_eq]
  constructor
  · rintro rfl
    rfl
  · intro h
    cases p
    cases h
    rfl

/-- An identity and certificates that are presented, with the identity that is read from its text. -/
structure Coheres (i : Identity) (c : Bytes) : Prop where
  readsBack : parse i.text = .ok (.fingerprint i.digest)
  sameText : (fingerprint i.digest).text = i.text
  /-- Only a fingerprint is read back as it was. -/
  fixed : parse i.text = .ok i ↔ ∃ p, i = .fingerprint p
  byCertificate : ∀ der, i = .certificate der → (i.isMatch c = true ↔ c = der)
  byFingerprint : ∀ p, i = .fingerprint p → (i.isMatch c = true ↔ sha256 c = p.bytes)
  /-- What matches has the fingerprint that is shown, and matches that too. -/
  kept : i.isMatch c = true → sha256 c = i.digest.bytes ∧ (fingerprint i.digest).isMatch c = true
  /-- They agree unless another certificate than the pinned one has its fingerprint. -/
  agrees : i.isMatch c = (fingerprint i.digest).isMatch c ↔
    ∀ der, i = .certificate der → sha256 c = sha256 der → c = der

theorem coheres_text (i : Identity) (c : Bytes) : i.Coheres c := by
  have hkept : i.isMatch c = true → sha256 c = i.digest.bytes := by
    intro h
    exact congrArg Fingerprint.bytes (digest_of_isMatch h)
  refine ⟨parse_text i, rfl, ?_, ?_, ?_, fun h => ⟨hkept h, ?_⟩, ?_⟩
  · rw [parse_text]
    cases i with
    | certificate der => exact iff_of_false nofun nofun
    | fingerprint p => exact iff_of_true rfl ⟨p, rfl⟩
  · rintro der rfl
    exact isMatch_certificate_iff
  · rintro p rfl
    exact isMatch_fingerprint_iff
  · exact isMatch_fingerprint_iff.mpr (hkept h)
  · cases i with
    | certificate der =>
        rw [Bool.eq_iff_iff, isMatch_certificate_iff, isMatch_fingerprint_iff]
        constructor
        · rintro h _ ⟨⟩ hsame
          exact h.mpr hsame
        · intro h
          exact ⟨fun hc => by rw [hc]; rfl, h der rfl⟩
    | fingerprint p => exact iff_of_true rfl nofun

end Identity

end RouteCascade
