import RouteCascade.Net.Address
import RouteCascade.Proofs.Net.HostPort
import Mathlib.Data.List.Forall2

/-!
# The texts of addresses

Which texts are addresses, and which address each of them is. A version 4 address has one text: its four
octets in decimal, with dots between them. A version 6 address has many, since its groups may have zeros in
front and a double colon may stand for a run of zero groups. A text is put together from its parts without
a look at the reader, and the reader takes exactly these texts.
-/
namespace RouteCascade.Net

open Text

namespace Address

section Digits
variable {value? : Char → Option Nat} {cs rest : List Char} {ds : List Nat}

abbrev Digits (value? : Char → Option Nat) : List Char → List Nat → Prop :=
  List.Forall₂ fun c d => value? c = some d

/-- What does not go on with a digit. -/
def Stops (value? : Char → Option Nat) (s : List Char) : Prop := ∀ c ∈ s.head?, value? c = none

theorem stops_nil : Stops value? [] := nofun

theorem stops_cons {c : Char} (h : value? c = none) (s : List Char) : Stops value? (c :: s) := by
  intro x hx
  cases hx
  exact h

theorem leadingDigits_append (hc : Digits value? cs ds) (hr : Stops value? rest) :
    leadingDigits value? (cs ++ rest) = (ds, rest) := by
  induction hc with
  | nil =>
      cases rest with
      | nil => rfl
      | cons c rest => rw [List.nil_append, leadingDigits, hr c rfl]
  | cons hd _ ih => rw [List.cons_append, leadingDigits, hd, ih]

theorem leadingDigits_split {s : List Char} (h : leadingDigits value? s = (ds, rest)) :
    ∃ cs, Digits value? cs ds ∧ Stops value? rest ∧ s = cs ++ rest := by
  induction s generalizing ds with
  | nil =>
      cases h
      exact ⟨[], .nil, stops_nil, rfl⟩
  | cons c s ih =>
      rw [leadingDigits] at h
      cases hv : value? c with
      | none =>
          rw [hv] at h
          cases h
          exact ⟨[], .nil, stops_cons hv s, rfl⟩
      | some d =>
          rw [hv] at h
          cases h
          obtain ⟨cs, hcs, hr, hs⟩ := ih rfl
          exact ⟨c :: cs, .cons hv hcs, hr, by rw [List.cons_append, ← hs]⟩

/-- Between two ways to split a text after its digits there is no choice. -/
theorem Digits.unique {cs' rest' : List Char} {ds' : List Nat} (hc : Digits value? cs ds)
    (hr : Stops value? rest) (hc' : Digits value? cs' ds') (hr' : Stops value? rest')
    (h : cs ++ rest = cs' ++ rest') : rest = rest' := by
  have hsame := leadingDigits_append hc hr
  rw [h, leadingDigits_append hc' hr'] at hsame
  exact (congrArg Prod.snd hsame).symm

end Digits

theorem char_eq_some_iff {c : Char} {s rest : List Char} {u : Unit} :
    char c s = some (u, rest) ↔ s = c :: rest := by
  cases s with
  | nil => simp [char]
  | cons x s => simp [char]

/-! ## Octets -/

theorem digit?_eq_some_iff {c : Char} {d : Nat} : digit? c = some d ↔ d < 10 ∧ Nat.digitChar d = c := by
  unfold digit?
  constructor
  · intro h
    split at h
    · rename_i hc
      have hlow : 48 ≤ c.toNat := hc.1
      have hhigh : c.toNat ≤ 57 := hc.2
      have hd : c.toNat - 48 = d := Option.some.inj h
      refine ⟨by omega, Char.toNat_inj.mp ?_⟩
      rw [Nat.toNat_digitChar_of_lt_ten (by omega)]
      omega
    · cases h
  · rintro ⟨hd, rfl⟩
    have ht := Nat.toNat_digitChar_of_lt_ten hd
    have hc : '0' ≤ Nat.digitChar d ∧ Nat.digitChar d ≤ '9' := by
      constructor
      · show 48 ≤ (Nat.digitChar d).toNat
        omega
      · show (Nat.digitChar d).toNat ≤ 57
        omega
    rw [if_pos hc, ht, Nat.add_sub_cancel_left]

theorem toDigits_append_digits {cs : List Char} {ds : List Nat} (h : Digits digit? cs ds) {n : Nat}
    (hn : 0 < n) : Nat.toDigits 10 n ++ cs = Nat.toDigits 10 (ds.foldl (fun n d => n * 10 + d) n) := by
  induction h generalizing n with
  | nil => rw [List.append_nil, List.foldl_nil]
  | @cons c d cs ds hd _ ih =>
      obtain ⟨hlt, hc⟩ := digit?_eq_some_iff.mp hd
      have hstep : Nat.toDigits 10 n ++ [c] = Nat.toDigits 10 (n * 10 + d) := by
        rw [Nat.mul_comm, ← Nat.toDigits_append_toDigits (by decide) hn hlt, Nat.toDigits_of_lt_base hlt, hc]
      rw [List.foldl_cons, ← ih (by omega), ← hstep, List.append_assoc, List.singleton_append]

/-- Digits without a zero in front are those of the number that they write. -/
theorem toDigits_ofDigits {cs : List Char} {ds : List Nat} (h : Digits digit? cs ds) (hne : ds ≠ [])
    (hzero : ds.head? = some 0 → ds.length ≤ 1) : Nat.toDigits 10 (ofDigits 10 ds) = cs := by
  cases h with
  | nil => exact absurd rfl hne
  | @cons c d cs ds hd hds =>
      obtain ⟨hlt, hc⟩ := digit?_eq_some_iff.mp hd
      have hvalue : ofDigits 10 (d :: ds) = ds.foldl (fun n d => n * 10 + d) d := by
        rw [ofDigits, List.foldl_cons, Nat.zero_mul, Nat.zero_add]
      rw [hvalue]
      rcases Nat.eq_zero_or_pos d with rfl | hpos
      · have hlen := hzero rfl
        rw [List.length_cons] at hlen
        obtain rfl : ds = [] := List.length_eq_zero_iff.mp (by omega)
        cases hds
        rw [List.foldl_nil, ← hc]
        rfl
      · rw [← toDigits_append_digits hds hpos, Nat.toDigits_of_lt_base hlt, hc, List.singleton_append]

theorem Digits.head?_zero {cs : List Char} {ds : List Nat} (h : Digits digit? cs ds)
    (hz : ds.head? = some 0) : cs.head? = some '0' := by
  cases h with
  | nil => cases hz
  | cons hd _ =>
      cases hz
      rw [List.head?_cons, ← (digit?_eq_some_iff.mp hd).2]
      rfl

/-- No number but zero starts with a zero. -/
theorem head?_toDigits {n : Nat} (h : (Nat.toDigits 10 n).head? = some '0') : n = 0 := by
  induction n using Nat.strongRecOn with
  | ind n ih =>
      rcases Nat.lt_or_ge n 10 with hlt | hge
      · rw [Nat.toDigits_of_lt_base hlt, List.head?_cons, Option.some.injEq] at h
        have ht := Nat.toNat_digitChar_of_lt_ten hlt
        rw [h] at ht
        have h48 : '0'.toNat = 48 := rfl
        omega
      · rw [Nat.toDigits_of_base_le (by decide) hge, List.head?_append_of_ne_nil _ Nat.toDigits_ne_nil] at h
        have hz := ih (n / 10) (by omega) h
        omega

theorem digits_toDigits (n : Nat) :
    ∃ ds, Digits digit? (Nat.toDigits 10 n) ds ∧ ofDigits 10 ds = n := by
  induction n using Nat.strongRecOn with
  | ind n ih =>
      rcases Nat.lt_or_ge n 10 with hlt | hge
      · refine ⟨[n], ?_, ?_⟩
        · rw [Nat.toDigits_of_lt_base hlt]
          exact .cons (digit?_eq_some_iff.mpr ⟨hlt, rfl⟩) .nil
        · simp [ofDigits]
      · obtain ⟨ds, hds, hn⟩ := ih (n / 10) (by omega)
        have hmod : n % 10 < 10 := Nat.mod_lt n (by decide)
        refine ⟨ds ++ [n % 10], ?_, ?_⟩
        · rw [Nat.toDigits_of_base_le (by decide) hge]
          exact List.rel_append hds (.cons (digit?_eq_some_iff.mpr ⟨hmod, rfl⟩) .nil)
        · rw [ofDigits, List.foldl_append, ← ofDigits, hn, List.foldl_cons, List.foldl_nil]
          omega

def octetText (o : UInt8) : List Char := Nat.toDigits 10 o.toNat

theorem octet_eq_some_iff {s rest : List Char} {o : UInt8} :
    octet s = some (o, rest) ↔ s = octetText o ++ rest ∧ Stops digit? rest := by
  constructor
  · intro h
    unfold octet at h
    obtain ⟨ds, r, hl⟩ : ∃ ds r, leadingDigits digit? s = (ds, r) := ⟨_, _, rfl⟩
    obtain ⟨cs, hcs, hr, rfl⟩ := leadingDigits_split hl
    rw [hl] at h
    dsimp only at h
    split at h
    · cases h
    · rename_i hok
      cases h
      simp only [Bool.or_eq_true, Bool.and_eq_true, List.isEmpty_iff, beq_iff_eq, decide_eq_true_eq,
        not_or, not_and, Nat.not_lt, Nat.not_le] at hok
      obtain ⟨⟨⟨hne, -⟩, hzero⟩, hlt⟩ := hok
      refine ⟨?_, hr⟩
      rw [octetText, UInt8.toNat_ofNat_of_lt' hlt, toDigits_ofDigits hcs hne hzero]
  · rintro ⟨rfl, hr⟩
    obtain ⟨ds, hds, hn⟩ := digits_toDigits o.toNat
    have hlen : ds.length = (Nat.toDigits 10 o.toNat).length := hds.length_eq.symm
    have hle : (Nat.toDigits 10 o.toNat).length ≤ 3 :=
      (Nat.length_toDigits_le_iff (by decide) (by decide)).mpr (Nat.lt_trans o.toNat_lt (by decide))
    have hzero : ds.head? = some 0 → ds.length ≤ 1 := by
      intro h
      rw [hlen, head?_toDigits (hds.head?_zero h)]
      decide
    have hne : ds ≠ [] := by
      rintro rfl
      exact Nat.toDigits_ne_nil (List.length_eq_zero_iff.mp hlen.symm)
    unfold octet octetText
    rw [leadingDigits_append hds hr]
    dsimp only
    rw [if_neg, hn, UInt8.ofNat_toNat]
    have hlt := o.toNat_lt
    simp only [Bool.or_eq_true, Bool.and_eq_true, List.isEmpty_iff, beq_iff_eq, decide_eq_true_eq,
      not_or, not_and, Nat.not_lt, Nat.not_le]
    exact ⟨⟨⟨hne, by omega⟩, hzero⟩, by omega⟩

theorem digit?_dot : digit? '.' = none := rfl

theorem toList_text (a : Ipv4) : a.text.toList =
    octetText a.a ++ '.' :: (octetText a.b ++ '.' :: (octetText a.c ++ '.' :: octetText a.d)) := by
  have htext (o : UInt8) : (toString o).toList = octetText o := Nat.toList_repr
  simp only [Ipv4.text, String.toList_append, htext, List.append_assoc]
  rfl

theorem ipv4_eq_some_iff {s rest : List Char} {a : Ipv4} :
    ipv4 s = some (a, rest) ↔ s = a.text.toList ++ rest ∧ Stops digit? rest := by
  unfold ipv4
  simp only [Option.bind_eq_bind, Option.bind_eq_some_iff, Prod.exists, octet_eq_some_iff, char_eq_some_iff]
  constructor
  · rintro ⟨o₁, _, ⟨rfl, -⟩, -, _, rfl, o₂, _, ⟨rfl, -⟩, -, _, rfl, o₃, _, ⟨rfl, -⟩, -, _, rfl, o₄, r,
      ⟨rfl, hr⟩, h⟩
    cases h
    refine ⟨?_, hr⟩
    rw [toList_text]
    simp only [List.append_assoc, List.cons_append]
  · intro ⟨hs, hr⟩
    have hdot (s : List Char) : Stops digit? ('.' :: s) := stops_cons digit?_dot s
    rw [hs, toList_text]
    simp only [List.append_assoc, List.cons_append]
    exact ⟨a.a, _, ⟨rfl, hdot _⟩, (), _, rfl, a.b, _, ⟨rfl, hdot _⟩, (), _, rfl, a.c, _, ⟨rfl, hdot _⟩,
      (), _, rfl, a.d, rest, ⟨rfl, hr⟩, rfl⟩

/-! ## Groups -/

/-- One to four hexadecimal digits, and the group that they write. -/
inductive GroupText : List Char → UInt16 → Prop
  | mk {cs : List Char} {ds : List Nat} : Digits hexValue? cs ds → ds ≠ [] → ds.length ≤ 4 →
      GroupText cs (UInt16.ofNat (ofDigits 16 ds))

/-- Groups with colons between them. A version 4 address may come last and counts as two groups; the flag
tells whether one does. -/
inductive GroupsText : Bool → List Char → List UInt16 → Prop
  | embedded (a : Ipv4) : GroupsText true a.text.toList [pair a.a a.b, pair a.c a.d]
  | last {t : List Char} {g : UInt16} : GroupText t g → GroupsText false t [g]
  | cons {e : Bool} {t ts : List Char} {g : UInt16} {gs : List UInt16} : GroupText t g →
      GroupsText e ts gs → GroupsText e (t ++ ':' :: ts) (g :: gs)

/-- What may follow some groups: nothing, or a double colon. -/
inductive Closes : List Char → Prop
  | nil : Closes []
  | colons (s : List Char) : Closes (':' :: ':' :: s)

/-- A text with a colon in front unless it comes first. -/
def lead (first : Bool) (t : List Char) : List Char := if first then t else ':' :: t

theorem hexValue?_of_digit? {c : Char} {d : Nat} (h : digit? c = some d) : hexValue? c = some d := by
  unfold digit? at h
  unfold hexValue?
  split at h
  · rename_i hc
    rw [if_pos hc]
    exact h
  · cases h

section Items
variable {s t rest : List Char} {g : UInt16} {first : Bool}

theorem separated_lead {α : Type} (item : Reader α) : separated first item (lead first s) = item s := by
  cases first with
  | false => simp [separated, lead, char]
  | true => rfl

theorem separated_eq_some {α : Type} {item : Reader α} {x : α × List Char}
    (h : separated first item s = some x) : ∃ s', s = lead first s' ∧ item s' = some x := by
  cases first with
  | true => exact ⟨s, rfl, h⟩
  | false =>
      simp only [separated, Bool.false_eq_true, if_false, Option.bind_eq_bind, Option.bind_eq_some_iff,
        Prod.exists, char_eq_some_iff] at h
      obtain ⟨-, s', rfl, h⟩ := h
      exact ⟨s', rfl, h⟩

theorem ipv4_of_stops (h : Stops digit? s) : ipv4 s = none := by
  have ho : octet s = none := by
    unfold octet
    rw [← List.nil_append s, leadingDigits_append .nil h]
    rfl
  rw [ipv4, ho]
  rfl

theorem group_of_stops (h : Stops hexValue? s) : group s = none := by
  unfold group
  rw [← List.nil_append s, leadingDigits_append .nil h]
  rfl

theorem group_eq_some_iff :
    group s = some (g, rest) ↔ ∃ t, GroupText t g ∧ Stops hexValue? rest ∧ s = t ++ rest := by
  constructor
  · intro h
    unfold group at h
    obtain ⟨ds, r, hl⟩ : ∃ ds r, leadingDigits hexValue? s = (ds, r) := ⟨_, _, rfl⟩
    obtain ⟨cs, hcs, hr, rfl⟩ := leadingDigits_split hl
    rw [hl] at h
    dsimp only at h
    split at h
    · cases h
    · rename_i hok
      cases h
      simp only [Bool.or_eq_true, List.isEmpty_iff, decide_eq_true_eq, not_or, Nat.not_lt] at hok
      exact ⟨cs, .mk hcs hok.1 hok.2, hr, rfl⟩
  · rintro ⟨t, ⟨hcs, hne, hlen⟩, hr, rfl⟩
    unfold group
    rw [leadingDigits_append hcs hr]
    dsimp only
    rw [if_neg]
    simp only [Bool.or_eq_true, List.isEmpty_iff, decide_eq_true_eq, not_or, Nat.not_lt]
    exact ⟨hne, hlen⟩

/-- What starts with a group and no dot after it is no version 4 address. -/
theorem ipv4_of_groupText (h : GroupText t g) (hr : Stops hexValue? rest) (hdot : rest.head? ≠ some '.') :
    ipv4 (t ++ rest) = none := by
  obtain ⟨hcs, -, -⟩ := h
  refine Option.eq_none_iff_forall_ne_some.mpr ?_
  rintro ⟨a, r⟩ ha
  obtain ⟨hs, -⟩ := ipv4_eq_some_iff.mp ha
  rw [toList_text, List.append_assoc, List.cons_append] at hs
  obtain ⟨ds, hds, -⟩ := digits_toDigits a.a.toNat
  have hrest := hcs.unique hr (hds.imp fun _ _ => hexValue?_of_digit?) (stops_cons rfl _) hs
  exact hdot (by rw [hrest]; rfl)

theorem groups_closes (h : Closes s) (limit : Nat) : groups first limit s = (([], false), s) := by
  have hnone {α : Type} {item : Reader α} (hnil : item [] = none)
      (hcolon : ∀ s, item (':' :: s) = none) : separated first item s = none := by
    cases h with
    | nil =>
        cases first with
        | true => exact hnil
        | false => rfl
    | colons s =>
        cases first with
        | true => exact hcolon _
        | false => exact hcolon s
  have h4 : separated first ipv4 s = none :=
    hnone (ipv4_of_stops stops_nil) fun s => ipv4_of_stops (stops_cons rfl s)
  have hg : separated first group s = none :=
    hnone (group_of_stops stops_nil) fun s => group_of_stops (stops_cons rfl s)
  cases limit with
  | zero => rfl
  | succ limit =>
      rw [groups, h4, hg]
      simp only [ite_self]

theorem groups_of_group {limit : Nat} (h : GroupText t g) (hr : Stops hexValue? rest)
    (hdot : rest.head? ≠ some '.') :
    groups first (limit + 1) (lead first (t ++ rest)) =
      ((g :: (groups false limit rest).1.1, (groups false limit rest).1.2), (groups false limit rest).2) := by
  have h4 : ipv4 (t ++ rest) = none := ipv4_of_groupText h hr hdot
  have hg : group (t ++ rest) = some (g, rest) := group_eq_some_iff.mpr ⟨t, h, hr, rfl⟩
  rw [groups, separated_lead, separated_lead, h4, hg]
  simp only [ite_self]

/-- Groups are read to the end of what is written. -/
theorem groups_append (first : Bool) {e : Bool} {gs : List UInt16} (h : GroupsText e t gs) (hr : Closes rest)
    (limit : Nat) (hl : gs.length ≤ limit) :
    groups first limit (lead first (t ++ rest)) = ((gs, e), rest) := by
  have hdigit : Stops digit? rest ∧ Stops hexValue? rest ∧ rest.head? ≠ some '.' := by
    cases hr with
    | nil => exact ⟨stops_nil, stops_nil, nofun⟩
    | colons s => exact ⟨stops_cons rfl _, stops_cons rfl _, by simp⟩
  induction h generalizing first limit with
  | embedded a =>
      obtain ⟨n, rfl⟩ := Nat.exists_eq_add_of_le' hl
      have h4 : ipv4 (a.text.toList ++ rest) = some (a, rest) := ipv4_eq_some_iff.mpr ⟨rfl, hdigit.1⟩
      have hn : n + 1 ≠ 0 := Nat.succ_ne_zero n
      show groups first (n + 1 + 1) _ = _
      rw [groups, if_neg hn, separated_lead, h4]
  | @last t g hg =>
      obtain ⟨n, rfl⟩ := Nat.exists_eq_add_of_le' hl
      show groups first (n + 1) _ = _
      rw [groups_of_group hg hdigit.2.1 hdigit.2.2, groups_closes hr]
  | @cons e t ts g gs hg _ ih =>
      obtain ⟨n, rfl⟩ := Nat.exists_eq_add_of_le' hl
      have hcolon : Stops hexValue? (':' :: (ts ++ rest)) := stops_cons rfl _
      have hrest : groups false (n + gs.length) (':' :: (ts ++ rest)) = ((gs, e), rest) :=
        ih false _ (Nat.le_add_left _ _)
      rw [List.append_assoc, List.cons_append]
      show groups first (n + gs.length + 1) _ = _
      rw [groups_of_group hg hcolon (by simp), hrest]

/-- What is read as groups is written as groups. -/
theorem groups_split {limit : Nat} {e : Bool} {gs : List UInt16}
    (h : groups first limit s = ((gs, e), rest)) :
    (gs = [] ∧ e = false ∧ s = rest) ∨ ∃ t, GroupsText e t gs ∧ s = lead first (t ++ rest) := by
  induction limit generalizing first s gs with
  | zero =>
      cases h
      exact .inl ⟨rfl, rfl, rfl⟩
  | succ limit ih =>
      rw [groups] at h
      split at h
      · rename_i a b c d r h4
        cases h
        split at h4
        · cases h4
        · obtain ⟨s', rfl, ha⟩ := separated_eq_some h4
          rw [(ipv4_eq_some_iff.mp ha).1]
          exact .inr ⟨_, .embedded ⟨a, b, c, d⟩, rfl⟩
      · split at h
        · rename_i g r hg
          obtain ⟨s', rfl, hg'⟩ := separated_eq_some hg
          obtain ⟨t, ht, -, rfl⟩ := group_eq_some_iff.mp hg'
          cases h
          rcases ih (show groups false limit r = _ from rfl) with ⟨hgs, he, hr⟩ | ⟨ts, hts, hr⟩
          · rw [hgs, he, ← hr]
            exact .inr ⟨t, .last ht, rfl⟩
          · refine .inr ⟨t ++ ':' :: ts, .cons ht hts, ?_⟩
            rw [List.append_assoc]
            exact congrArg (fun x => lead first (t ++ x)) hr
        · cases h
          exact .inl ⟨rfl, rfl, rfl⟩

end Items

end Address

open Address

/-- A version 4 address has one text. -/
theorem Ipv4.parse?_eq_some_iff {s : String} {a : Ipv4} : Ipv4.parse? s = some a ↔ s = a.text := by
  have hwhole : Ipv4.parse? s = some a ↔ ipv4 s.toList = some (a, []) := by
    unfold Ipv4.parse? whole
    split <;> simp_all
  rw [hwhole, ipv4_eq_some_iff, List.append_nil, String.toList_inj]
  exact and_iff_left stops_nil

/-- Some groups, or none at all. -/
inductive SideText (e : Bool) : List Char → List UInt16 → Prop
  | empty : SideText e [] []
  | groups {t : List Char} {gs : List UInt16} : GroupsText e t gs → SideText e t gs

/-- The texts of a version 6 address: all eight groups, or some of them on both sides of a double colon,
which stands for the zeros between them and for at least one. -/
inductive Ipv6.Spelling (a : Ipv6) : List Char → Prop
  | full {e : Bool} {t : List Char} : GroupsText e t a.groups → Ipv6.Spelling a t
  | shortened {e : Bool} {t u : List Char} {gs hs : List UInt16} : SideText false t gs → SideText e u hs →
      gs.length + hs.length ≤ 7 →
      a.groups = gs ++ List.replicate (8 - gs.length - hs.length) 0 ++ hs →
      Ipv6.Spelling a (t ++ ':' :: ':' :: u)

theorem SideText.groups_append {e : Bool} {t rest : List Char} {gs : List UInt16}
    (h : SideText e t gs) (hr : Closes rest) (limit : Nat) (hl : gs.length ≤ limit) :
    ∃ e', Address.groups true limit (t ++ rest) = ((gs, e'), rest) ∧ (e = false → e' = false) := by
  cases h with
  | empty => exact ⟨false, groups_closes hr limit, fun _ => rfl⟩
  | groups hg => exact ⟨e, Address.groups_append true hg hr limit hl, id⟩

theorem sideText_of_groups {e : Bool} {s rest : List Char} {gs : List UInt16} {limit : Nat}
    (h : Address.groups true limit s = ((gs, e), rest)) : ∃ t, SideText e t gs ∧ s = t ++ rest := by
  rcases groups_split h with ⟨rfl, -, hs⟩ | ⟨t, ht, hs⟩
  · exact ⟨[], .empty, hs⟩
  · exact ⟨t, .groups ht, hs⟩

theorem Ipv6.spelling_of_ipv6 {s : List Char} {a : Ipv6} (h : ipv6 s = some (a, [])) : a.Spelling s := by
  unfold ipv6 at h
  generalize hhead : Address.groups true 8 s = head at h
  obtain ⟨⟨gs, e⟩, r⟩ := head
  dsimp only at h
  split at h
  · rename_i h8
    cases h
    rcases groups_split hhead with ⟨rfl, -, -⟩ | ⟨t, ht, rfl⟩
    · exact absurd h8 (by decide)
    · rw [List.append_nil]
      exact .full ht
  rename_i h8
  obtain ⟨t, ht, rfl⟩ := sideText_of_groups hhead
  have hle : gs.length ≤ 8 := by
    have hl := length_groups true 8 (t ++ r)
    rwa [hhead] at hl
  split at h
  · cases h
  rename_i he
  obtain rfl : e = false := Bool.eq_false_iff.mpr he
  split at h
  · rename_i rest
    generalize htail : Address.groups true (7 - gs.length) rest = tail at h
    obtain ⟨⟨hs, e⟩, r⟩ := tail
    dsimp only at h
    split at h
    · cases h
      obtain ⟨u, hu, rfl⟩ := sideText_of_groups htail
      have hlen : hs.length ≤ 7 - gs.length := by
        have hl := length_groups true (7 - gs.length) (u ++ [])
        rwa [htail] at hl
      rw [List.append_nil]
      exact .shortened ht hu (by omega) rfl
    · cases h
  · cases h

theorem Ipv6.Spelling.ipv6 {s : List Char} {a : Ipv6} (h : a.Spelling s) :
    Address.ipv6 s = some (a, []) := by
  obtain ⟨gs, h8⟩ := a
  unfold Address.ipv6
  cases h with
  | full ht =>
      have hhead := Address.groups_append true ht .nil 8 (Nat.le_of_eq h8)
      change Address.groups true 8 (s ++ []) = _ at hhead
      rw [List.append_nil] at hhead
      simp only [hhead]
      exact dif_pos h8
  | @shortened e t u gs' hs ht hu hle hgs =>
      obtain rfl : gs = _ := hgs
      obtain ⟨e₁, hhead, he₁⟩ := ht.groups_append (.colons u) 8 (by omega)
      obtain ⟨e₂, htail, -⟩ := hu.groups_append .nil (7 - gs'.length) (by omega)
      rw [List.append_nil] at htail
      have hne : gs'.length ≠ 8 := by omega
      simp only [hhead, he₁ rfl, hne, dif_neg, not_false_eq_true, Bool.false_eq_true, if_false, htail, h8]
      rfl

/-- The texts that are read as a version 6 address are its spellings. -/
theorem Ipv6.parse?_eq_some_iff {s : String} {a : Ipv6} : Ipv6.parse? s = some a ↔ a.Spelling s.toList := by
  have hwhole : Ipv6.parse? s = some a ↔ Address.ipv6 s.toList = some (a, []) := by
    unfold Ipv6.parse? whole
    split <;> simp_all
  rw [hwhole]
  exact ⟨spelling_of_ipv6, Spelling.ipv6⟩

/-- A text of a version 6 address has a colon. -/
theorem Ipv6.Spelling.colon_mem {s : List Char} {a : Ipv6} (h : a.Spelling s) : ':' ∈ s := by
  have h8 := a.length_eq
  cases h with
  | shortened => simp
  | full ht =>
      generalize a.groups = gs at ht h8
      cases ht with
      | embedded | last => simp at h8
      | cons => simp

theorem Ipv4.colon_not_mem_text (a : Ipv4) : ':' ∉ a.text.toList := by
  have hoctet (o : UInt8) : ':' ∉ octetText o := by
    intro hc
    exact absurd (isDigit_of_mem_toDigits hc) (by decide)
  have hdot : ':' ≠ '.' := by decide
  simp [toList_text, hoctet, hdot]

-- One address in four spellings, and near misses: a leading zero, a double colon that stands for nothing,
-- and an address of version 4 that does not come last.
example : (["::ffff:1.2.3.4", "0:0:0:0:0:FFFF:102:304", "0::ffff:0102:0304", "::ffff:102:304"].map fun s =>
    (Ipv6.parse? s).map (·.groups)) = List.replicate 4 (some [0, 0, 0, 0, 0, 0xffff, 0x102, 0x304]) ∧
    Ipv4.parse? "1.2.3.04" = none ∧ Ipv6.parse? "1:2:3:4:5:6:7::8" = none ∧
    Ipv6.parse? "1.2.3.4::" = none := by
  decide +kernel

end RouteCascade.Net
