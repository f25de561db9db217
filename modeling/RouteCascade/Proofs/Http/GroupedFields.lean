import RouteCascade.Http.FieldMap
import RouteCascade.Proofs.Http.WrittenHead
import Mathlib.Data.List.Basic

/-!
# Fields grouped by name

A name and a value make a field if the name is a token and the value holds no control character. Fields are
added one after the other, and those of one name are kept together. Whatever the order of the names comes to,
the fields of each name are there in the order in which they were added, and no others are.
-/
namespace RouteCascade.Http

open Text

def IsToken (s : String) : Prop := s ≠ "" ∧ ∀ b ∈ bytesOf s, isTokenByte b

structure MakesField (f : String × String) : Prop where
  token : IsToken f.1
  short : (bytesOf f.1).length ≤ maxFieldName
  value : ∀ b ∈ bytesOf f.2, isValueByte b

def fieldOf (f : String × String) : Field := ⟨(bytesOf f.1).map lowerByte, bytesOf f.2⟩

section Texts
variable {f : String × String}

theorem fieldName?_eq_some_iff {s : String} {n : Bytes} : fieldName? s = some n ↔
    IsToken s ∧ (bytesOf s).length ≤ maxFieldName ∧ n = (bytesOf s).map lowerByte := by
  have hempty : (bytesOf s).isEmpty = true ↔ s = "" := by
    rw [List.isEmpty_iff, bytesOf_eq_nil_iff, String.toList_eq_nil_iff]
  rw [fieldName?, IsToken]
  split
  · rename_i hbad
    simp only [Bool.or_eq_true, hempty, decide_eq_true_eq, Bool.not_eq_true', List.all_eq_false] at hbad
    refine iff_of_false nofun ?_
    rintro ⟨⟨hne, htoken⟩, hshort, -⟩
    rcases hbad with (hnil | hlong) | ⟨b, hb, hnot⟩
    · exact hne hnil
    · exact absurd hlong (Nat.not_lt.mpr hshort)
    · exact hnot (htoken b hb)
  · rename_i hgood
    simp only [Bool.or_eq_true, hempty, decide_eq_true_eq, Bool.not_eq_true', List.all_eq_false, not_or,
      not_exists, not_and, not_not, Nat.not_lt] at hgood
    rw [Option.some_inj, and_iff_right ⟨hgood.1.1, hgood.2⟩, and_iff_right hgood.1.2]
    exact eq_comm

theorem fieldValue?_eq_some_iff {s : String} {v : Bytes} :
    fieldValue? s = some v ↔ (∀ b ∈ bytesOf s, isValueByte b) ∧ v = bytesOf s := by
  rw [fieldValue?, Option.ite_none_right_eq_some, List.all_eq_true, Option.some_inj]
  exact and_congr_right fun _ => eq_comm

theorem isTokenByte_lowerByte {b : UInt8} (h : isTokenByte b) : isTokenByte (lowerByte b) :=
  forall_byte_lt (n := 256) (p := fun b => isTokenByte b → isTokenByte (lowerByte b))
    (by decide +kernel) b.toNat_lt h

theorem MakesField.writable (h : MakesField f) : (fieldOf f).Writable where
  named := by
    rw [fieldOf, ne_eq, List.map_eq_nil_iff, bytesOf_eq_nil_iff, String.toList_eq_nil_iff]
    exact h.token.1
  name b hb := by
    obtain ⟨c, hc, rfl⟩ := List.mem_map.mp hb
    exact isTokenByte_lowerByte (h.token.2 c hc)
  value := h.value

end Texts

def fieldsNamed (name : Bytes) (fs : List Field) : List Field := fs.filter fun f => f.name = name

theorem fieldsNamed_append (name : Bytes) (fs gs : List Field) :
    fieldsNamed name (fs ++ gs) = fieldsNamed name fs ++ fieldsNamed name gs :=
  List.filter_append fs gs

theorem fieldsNamed_eq_nil_iff {name : Bytes} {fs : List Field} :
    fieldsNamed name fs = [] ↔ ∀ f ∈ fs, f.name ≠ name := by
  simp [fieldsNamed]

theorem mem_fieldsNamed {name : Bytes} {fs : List Field} {f : Field} :
    f ∈ fieldsNamed name fs ↔ f ∈ fs ∧ f.name = name := by
  simp [fieldsNamed]

namespace FieldMap

/-- The names, each once for its group. -/
def names (m : FieldMap) : List Bytes := m.map Prod.fst

section Append
variable {m : FieldMap} {name value : Bytes}

theorem toFields_cons (n : Bytes) (vs : List Bytes) (m : FieldMap) :
    toFields ((n, vs) :: m) = vs.map (⟨n, ·⟩) ++ m.toFields :=
  List.flatMap_cons

theorem name_mem_names {f : Field} (h : f ∈ m.toFields) : f.name ∈ m.names := by
  rw [toFields, List.mem_flatMap] at h
  obtain ⟨⟨n, vs⟩, hgroup, hf⟩ := h
  obtain ⟨v, -, rfl⟩ := List.mem_map.mp hf
  exact List.mem_map_of_mem hgroup

/-- A name that is there keeps its place, and another goes to the end. -/
theorem names_append (m : FieldMap) (name value : Bytes) :
    (m.append name value).names = if name ∈ m.names then m.names else m.names ++ [name] := by
  induction m with
  | nil => rfl
  | cons group m ih =>
      obtain ⟨n, vs⟩ := group
      rw [append]
      by_cases hn : n = name
      · simp [names, hn]
      · have hmem : name ∈ names ((n, vs) :: m) ↔ name ∈ names m := by
          simp [names, Ne.symm hn]
        have hstep : names ((n, vs) :: append name value m) = n :: names (append name value m) := rfl
        rw [if_neg hn, if_congr hmem rfl rfl, hstep, ih]
        split <;> rfl

theorem nodup_names_append (h : m.names.Nodup) : (m.append name value).names.Nodup := by
  rw [names_append]
  split
  · exact h
  · rename_i hnew
    exact (List.perm_append_singleton name m.names).nodup_iff.mpr (List.nodup_cons.mpr ⟨hnew, h⟩)

theorem length_append_le (m : FieldMap) (name value : Bytes) :
    (m.append name value).length ≤ m.length + 1 := by
  have hnames := congrArg List.length (names_append m name value)
  rw [names, List.length_map] at hnames
  rw [hnames]
  split <;> simp [names]

/-- A value is added behind those of its name, and nothing else changes. -/
theorem fieldsNamed_toFields_append (h : m.names.Nodup) (n : Bytes) :
    fieldsNamed n (m.append name value).toFields =
      fieldsNamed n m.toFields ++ fieldsNamed n [⟨name, value⟩] := by
  induction m with
  | nil => rfl
  | cons group m ih =>
      obtain ⟨k, vs⟩ := group
      obtain ⟨hk, hrest⟩ := List.nodup_cons.mp h
      rw [append]
      by_cases hname : k = name
      · -- the groups behind this one are of other names, so that the value may go before or behind them
        have hswap : fieldsNamed n [⟨name, value⟩] ++ fieldsNamed n (toFields m) =
            fieldsNamed n (toFields m) ++ fieldsNamed n [⟨name, value⟩] := by
          by_cases hn : name = n
          · have hnone : fieldsNamed n (toFields m) = [] := fieldsNamed_eq_nil_iff.mpr fun f hf heq =>
              hk (hname.trans (hn.trans heq.symm) ▸ name_mem_names hf)
            rw [hnone, List.append_nil, List.nil_append]
          · have hnone : fieldsNamed n [⟨name, value⟩] = [] :=
              fieldsNamed_eq_nil_iff.mpr (List.forall_mem_singleton.mpr hn)
            rw [hnone, List.append_nil, List.nil_append]
        rw [if_pos hname, toFields_cons, toFields_cons, List.map_append, fieldsNamed_append,
          fieldsNamed_append, fieldsNamed_append, List.append_assoc, List.append_assoc, ← hswap, hname]
        rfl
      · rw [if_neg hname, toFields_cons, toFields_cons, fieldsNamed_append, fieldsNamed_append, ih hrest,
          List.append_assoc]

end Append

/-- The fields of each name are those that were given, in the order in which they were. -/
structure Groups (given : List Field) (m : FieldMap) : Prop where
  once : m.names.Nodup
  named : ∀ name, fieldsNamed name m.toFields = fieldsNamed name given

theorem groups_nil : Groups [] [] := ⟨List.nodup_nil, fun _ => rfl⟩

section Groups
variable {given : List Field} {m : FieldMap}

theorem Groups.append (h : Groups given m) (f : Field) : Groups (given ++ [f]) (m.append f.name f.value) where
  once := nodup_names_append h.once
  named name := by rw [fieldsNamed_toFields_append h.once, h.named, fieldsNamed_append]

theorem Groups.mem_iff (h : Groups given m) {f : Field} : f ∈ m.toFields ↔ f ∈ given := by
  have hnamed : f ∈ fieldsNamed f.name m.toFields ↔ f ∈ fieldsNamed f.name given := by rw [h.named]
  rwa [mem_fieldsNamed, mem_fieldsNamed, and_iff_left rfl, and_iff_left rfl] at hnamed

end Groups

end FieldMap

end RouteCascade.Http
