import RouteCascade.Net.HostPort

/-!
# Hosts and ports, written and read

A host and a port that were written as one text are read back, but for the brackets around the host.
The brackets that are added for an address with colons are among those that reading drops, and the last
colon is the one in front of the port, since a number has none.
-/
namespace RouteCascade.Text

theorem digit?_of_isDigit {c : Char} (h : c.isDigit) : digit? c = some (c.toNat - '0'.toNat) := by
  have hc : '0' ≤ c ∧ c ≤ '9' := by simpa [Char.isDigit, Char.le_def] using h
  rw [digit?, if_pos hc]
  rfl

theorem foldlM_of_isDigit {s : List Char} (hs : ∀ c ∈ s, c.isDigit) (n : Nat) :
    s.foldlM (fun n c => (digit? c).map (n * 10 + ·)) n = some (Nat.ofDigitChars 10 s n) := by
  induction s generalizing n with
  | nil => rfl
  | cons c s ih =>
      rw [List.forall_mem_cons] at hs
      rw [List.foldlM_cons, digit?_of_isDigit hs.1, Nat.ofDigitChars_cons, Nat.mul_comm 10 n]
      exact ih hs.2 _

/-- Digits are read as the number that they write. -/
theorem decimal?_of_isDigit {s : List Char} (hne : s ≠ []) (hs : ∀ c ∈ s, c.isDigit) :
    decimal? s = some (Nat.ofDigitChars 10 s 0) := by
  cases s with
  | nil => exact absurd rfl hne
  | cons c s => exact foldlM_of_isDigit hs 0

theorem isDigit_of_mem_toDigits {n : Nat} {c : Char} (h : c ∈ Nat.toDigits 10 n) : c.isDigit :=
  Nat.isDigit_of_mem_toDigits (by decide) (by decide) h

theorem decimal?_toDigits (n : Nat) : decimal? (Nat.toDigits 10 n) = some n := by
  rw [decimal?_of_isDigit Nat.toDigits_ne_nil fun _ => isDigit_of_mem_toDigits, Nat.ofDigitChars_ten_toDigits]

theorem signedDecimal?_of_isDigit {s : List Char} (hs : ∀ c ∈ s, c.isDigit) :
    signedDecimal? s = decimal? s := by
  unfold signedDecimal?
  split
  · rename_i rest
    exact absurd (hs '+' List.mem_cons_self) (by decide)
  · rfl

theorem boundedDecimal?_toDigits {bits n : Nat} (h : n < Nat.pow 2 bits) :
    boundedDecimal? bits (Nat.toDigits 10 n) = some n := by
  have hs : signedDecimal? (Nat.toDigits 10 n) = some n := by
    rw [signedDecimal?_of_isDigit fun _ => isDigit_of_mem_toDigits, decimal?_toDigits]
  rw [boundedDecimal?, hs]
  exact if_pos h

theorem splitLast_eq_none {sep : Char} {s : List Char} (h : sep ∉ s) : splitLast sep s = none := by
  induction s with
  | nil => rfl
  | cons c s ih =>
      rw [List.mem_cons, not_or] at h
      rw [splitLast, ih h.2]
      exact if_neg (Ne.symm h.1)

/-- What comes after the last separator has none. -/
theorem splitLast_append {sep : Char} (a : List Char) {b : List Char} (hb : sep ∉ b) :
    splitLast sep (a ++ sep :: b) = some (a, b) := by
  induction a with
  | nil => rw [List.nil_append, splitLast, splitLast_eq_none hb, if_pos rfl]
  | cons c a ih => rw [List.cons_append, splitLast, ih]

end RouteCascade.Text

namespace RouteCascade.Net

open Text

/-- More brackets around a host do not count. -/
theorem stripBrackets_enclosed (host : List Char) :
    stripBrackets ('[' :: (host ++ [']'])) = stripBrackets host := by
  have hdrop : (host ++ [']']).dropWhile (· = '[') = host.dropWhile (· = '[') ++ [']'] :=
    dropWhile_append_cons (by decide) host []
  simp only [stripBrackets, List.dropWhile_cons, decide_true, if_true, hdrop, List.reverse_append,
    List.reverse_singleton, List.singleton_append]

theorem toList_toString_port (port : Port) : (toString port).toList = Nat.toDigits 10 port.toNat :=
  Nat.toList_repr

/-- In a host and a port as one text, the port comes after the last colon, and in front of it is the host,
maybe in brackets. -/
theorem splitLast_hostPort (host : String) (port : Port) :
    ∃ x, splitLast ':' (hostPort host port).toList = some (x, Nat.toDigits 10 port.toNat) ∧
      stripBrackets x = stripBrackets host.toList := by
  have hcolon : ':' ∉ Nat.toDigits 10 port.toNat := by
    intro hc
    exact absurd (isDigit_of_mem_toDigits hc) (by decide)
  rw [hostPort]
  split
  · refine ⟨'[' :: (host.toList ++ [']']), ?_, stripBrackets_enclosed host.toList⟩
    rw [← splitLast_append _ hcolon, ← toList_toString_port]
    simp only [String.toList_append, List.cons_append, List.append_assoc]
    rfl
  · refine ⟨host.toList, ?_, rfl⟩
    rw [← splitLast_append _ hcolon, ← toList_toString_port]
    simp only [String.toList_append, List.append_assoc]
    rfl

/-- A host and a port are read back without the brackets around the host. -/
theorem parseHostPort_hostPort {host : String} (h : stripBrackets host.toList ≠ []) (port : Port) :
    parseHostPort (hostPort host port) = .ok (String.ofList (stripBrackets host.toList), port) := by
  obtain ⟨x, hx, hstrip⟩ := splitLast_hostPort host port
  have hp : boundedDecimal? 16 (Nat.toDigits 10 port.toNat) = some port.toNat :=
    boundedDecimal?_toDigits port.toNat_lt
  rw [parseHostPort, hx]
  simp only [hp, hstrip]
  rw [UInt16.ofNat_toNat]

end RouteCascade.Net
