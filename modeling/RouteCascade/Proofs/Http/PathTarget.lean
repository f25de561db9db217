import RouteCascade.Http.Uri
import RouteCascade.Proofs.Text.Utf8
import Mathlib.Data.List.TakeWhile

/-!
# Targets that start with a slash

What is written of a target that starts with a slash is what was read, up to a fragment mark. All of its
bytes are above the blank, so it stays within one word of one line.
-/
namespace RouteCascade.Http.Uri

open Text

def queryText : Option String → String
  | some q => "?" ++ q
  | none => ""

theorem textOf_bytesOf (s : String) : textOf (bytesOf s) = s := by
  rw [textOf, ofBytes?_bytesOf]
  rfl

/-- A class that has no blank and no control character but the last. -/
theorem lt_of_class {p : UInt8 → Bool} (h : ∀ i : Fin 33, p (UInt8.ofNat i) = false) {b : UInt8} (hb : p b) :
    32 < b := by
  refine UInt8.not_le.mp fun hle => ?_
  have hlt : b.toNat < 33 := Nat.lt_succ_of_le (UInt8.le_iff_toNat_le.mp hle)
  have hnot : p b = false := forall_byte_lt (p := fun b => p b = false) h hlt
  exact Bool.false_ne_true (hnot.symm.trans hb)

theorem lt_of_isPathByte {b : UInt8} (h : isPathByte b) : 32 < b := lt_of_class (by decide) h

theorem lt_of_isQueryByte {b : UInt8} (h : isQueryByte b) : 32 < b := lt_of_class (by decide) h

/-- A fragment mark is within ASCII. -/
theorem ne_beyond (b : UInt8) (hb : 128 ≤ b) : b != 0x23 := by
  rw [bne_iff_ne]
  rintro rfl
  exact absurd hb (by decide)

section Read
variable {s path q : String} {query : Option String}

theorem readQuery_ok (h : readQuery (bytesOf s) = .ok q) :
    bytesOf q = (bytesOf s).takeWhile (· != 0x23) ∧ ∀ b ∈ bytesOf q, 32 < b := by
  rw [readQuery] at h
  split at h
  · rename_i hall
    cases h
    rw [takeWhile_bytesOf ne_beyond, textOf_bytesOf] at *
    exact ⟨rfl, fun b hb => lt_of_isQueryByte (List.all_eq_true.mp hall b hb)⟩
  · cases h

def isBefore (b : UInt8) : Bool := b != 0x3F && b != 0x23

theorem isBefore_beyond {b : UInt8} (hb : 128 ≤ b) : isBefore b := by
  rw [isBefore, Bool.and_eq_true, bne_iff_ne, bne_iff_ne]
  constructor <;> rintro rfl <;> exact absurd hb (by decide)

theorem ne_of_isBefore {b : UInt8} (hb : isBefore b) : b != 0x23 := (Bool.and_eq_true_iff.mp hb).2

/-- What follows a path is a query, a fragment or nothing. -/
theorem dropWhile_isBefore_cases (s : String) :
    ((bytesOf s).dropWhile isBefore).takeWhile (· != 0x23) = [] ∨
      ∃ t, (bytesOf s).dropWhile isBefore = 0x3F :: bytesOf t := by
  have hr := dropWhile_bytesOf (fun _ => isBefore_beyond) s
  cases hrest : (bytesOf s).dropWhile isBefore with
  | nil => exact .inl rfl
  | cons b rest =>
      have hne : (bytesOf s).dropWhile isBefore ≠ [] := hrest ▸ List.cons_ne_nil b rest
      have hb : isBefore b = false := by
        simpa only [hrest, List.head_cons] using List.head_dropWhile_not isBefore hne
      rw [isBefore, Bool.and_eq_false_iff, bne_eq_false_iff_eq, bne_eq_false_iff_eq] at hb
      rcases hb with rfl | rfl
      · obtain ⟨t, rfl⟩ := exists_bytesOf_tail (hr.symm.trans hrest) (by decide)
        exact .inr ⟨t, rfl⟩
      · exact .inl rfl

/-- What was read as a path and, if there is a query mark behind it, as a query. -/
theorem readPath_cases (h : readPath (bytesOf s) = .ok (path, query)) :
    (bytesOf s).takeWhile isBefore = bytesOf path ∧ (∀ b ∈ bytesOf path, 32 < b) ∧
      ((query = none ∧ ∀ rest, (bytesOf s).dropWhile isBefore ≠ 0x3F :: rest) ∨
        ∃ rest q, query = some q ∧ (bytesOf s).dropWhile isBefore = 0x3F :: rest ∧
          readQuery rest = .ok q) := by
  obtain ⟨a, ha⟩ : ∃ a, (bytesOf s).takeWhile isBefore = bytesOf a :=
    ⟨_, takeWhile_bytesOf (fun _ => isBefore_beyond) s⟩
  have hdrop : (bytesOf s).drop (bytesOf a).length = (bytesOf s).dropWhile isBefore :=
    calc (bytesOf s).drop (bytesOf a).length
        = (bytesOf a ++ (bytesOf s).dropWhile isBefore).drop (bytesOf a).length := by
          rw [← ha, List.takeWhile_append_dropWhile]
      _ = _ := List.drop_left
  have hsame : ((bytesOf s).takeWhile fun b => b != 0x3F && b != 0x23) = bytesOf a := ha
  unfold readPath at h
  simp only [hsame, hdrop, textOf_bytesOf] at h
  split at h
  · cases h
  · rename_i hall
    have hpath : ∀ b ∈ bytesOf a, 32 < b := fun b hb =>
      lt_of_isPathByte (List.all_eq_true.mp (by simpa using hall) b hb)
    split at h
    · rename_i rest hrest
      cases hq : readQuery rest with
      | error e =>
          rw [hq] at h
          cases h
      | ok q =>
          rw [hq] at h
          cases h
          exact ⟨ha, hpath, .inr ⟨rest, q, rfl, hrest, hq⟩⟩
    · rename_i hnone
      cases h
      exact ⟨ha, hpath, .inl ⟨rfl, hnone⟩⟩

/-- A path and its query are what was read up to a fragment mark. -/
theorem readPath_ok (h : readPath (bytesOf s) = .ok (path, query)) :
    bytesOf (path ++ queryText query) = (bytesOf s).takeWhile (· != 0x23) ∧
      ∀ b ∈ bytesOf (path ++ queryText query), 32 < b := by
  obtain ⟨hpath, hbytes, hrest⟩ := readPath_cases h
  have hwhole : (bytesOf s).takeWhile (· != 0x23) =
      bytesOf path ++ ((bytesOf s).dropWhile isBefore).takeWhile (· != 0x23) :=
    calc (bytesOf s).takeWhile (· != 0x23)
        = (bytesOf path ++ (bytesOf s).dropWhile isBefore).takeWhile (· != 0x23) := by
          rw [← hpath, List.takeWhile_append_dropWhile]
      _ = _ := List.takeWhile_append_of_pos fun b hb =>
          ne_of_isBefore (List.mem_takeWhile_imp (hpath ▸ hb))
  rw [hwhole]
  rcases hrest with ⟨rfl, hnone⟩ | ⟨rest, q, rfl, hsome, hq⟩
  · obtain hempty | ⟨t, ht⟩ := dropWhile_isBefore_cases s
    · rw [hempty, queryText, String.append_empty]
      exact ⟨(List.append_nil _).symm, hbytes⟩
    · exact absurd ht (hnone _)
  · have hmark : bytesOf "?" = [0x3F] := by decide +kernel
    obtain hempty | ⟨t, ht⟩ := dropWhile_isBefore_cases s
    · rw [hsome] at hempty
      cases hempty
    · obtain rfl : rest = bytesOf t := (List.cons.inj (hsome.symm.trans ht)).2
      obtain ⟨hsame, hquery⟩ := readQuery_ok hq
      rw [queryText, bytesOf_append, bytesOf_append, hmark, hsome, hsame]
      refine ⟨rfl, fun b hb => ?_⟩
      rw [← hsame, List.singleton_append, List.mem_append, List.mem_cons] at hb
      rcases hb with hb | rfl | hb
      · exact hbytes b hb
      · decide
      · exact hquery b hb

/-- A target is written as its path and its query if it has a path and nothing in front. -/
theorem text_of_path (hpath : path ≠ "") : text ⟨none, "", path, query⟩ = path ++ queryText query := by
  have hfull : path.isEmpty = false := by simpa using hpath
  cases query <;> simp [text, queryText, hfull]

/-- What starts with a slash is written as it was read, up to a fragment mark. -/
theorem text_of_parse (hs : s.toList.head? = some '/') {u : Uri} (h : parse s = .ok u) :
    u.text = String.ofList (s.toList.takeWhile (· != '#')) ∧ ∀ b ∈ bytesOf u.text, 32 < b := by
  obtain ⟨cs, hcs⟩ := List.head?_eq_some_iff.mp hs
  obtain ⟨rest, hrest⟩ : ∃ rest, bytesOf s = 0x2F :: rest := ⟨cs.flatMap String.utf8EncodeChar, by
    rw [bytesOf_eq, hcs]
    rfl⟩
  have hread : ∃ path query, readPath (bytesOf s) = .ok (path, query) ∧ u = ⟨none, "", path, query⟩ := by
    simp only [parse, hrest] at h ⊢
    split at h
    · cases h
    · cases hr : readPath (0x2F :: rest) with
      | error e =>
          rw [hr] at h
          cases h
      | ok r =>
          rw [hr] at h
          cases h
          exact ⟨r.1, r.2, rfl, rfl⟩
  obtain ⟨path, query, hpath, rfl⟩ := hread
  obtain ⟨hbytes, hclass⟩ := readPath_ok hpath
  -- the slash in front is part of the path, so that none has to be added
  have hne : path ≠ "" := by
    rintro rfl
    have hstart := (readPath_cases hpath).1
    have hempty : bytesOf "" = [] := bytesOf_eq_nil_iff.mpr rfl
    rw [hrest, hempty] at hstart
    cases hstart
  rw [text_of_path hne]
  refine ⟨bytesOf_injective ?_, hclass⟩
  have hmark : onAscii (· != 0x23) = (· != '#') := funext (onAscii_ne (a := '#') (by decide))
  rw [hbytes, takeWhile_bytesOf ne_beyond, hmark]

end Read

end RouteCascade.Http.Uri
