/-!
# Blank characters

Which characters count as blank space, and the two things done with them: cutting them off both
ends of a text and dropping them everywhere. The class is Unicode's `White_Space` property, so it
is wider than ASCII blank space and narrower than "looks empty": a zero-width space is not blank.
-/
namespace RouteCascade.Text

/-- A text as the bytes of its UTF-8 encoding. -/
abbrev Bytes := List UInt8

/-- The characters with Unicode's `White_Space` property. -/
def isBlank (c : Char) : Bool :=
  let n := c.toNat
  (9 ≤ n && n ≤ 13) || n == 0x20 || n == 0x85 || n == 0xA0 || n == 0x1680 ||
  (0x2000 ≤ n && n ≤ 0x200A) || n == 0x2028 || n == 0x2029 || n == 0x202F || n == 0x205F ||
  n == 0x3000

def trimStart (s : List Char) : List Char := s.dropWhile isBlank

def trimEnd (s : List Char) : List Char := (s.reverse.dropWhile isBlank).reverse

def trim (s : List Char) : List Char := trimEnd (trimStart s)

def removeBlanks (s : List Char) : List Char := s.filter fun c => !isBlank c

theorem removeBlanks_append (s t : List Char) :
    removeBlanks (s ++ t) = removeBlanks s ++ removeBlanks t := by
  simp [removeBlanks]

theorem removeBlanks_removeBlanks (s : List Char) : removeBlanks (removeBlanks s) = removeBlanks s := by
  simp [removeBlanks]

/-- What is dropped in front does not reach past an element that stays. -/
theorem dropWhile_append_cons {α : Type} {p : α → Bool} {b : α} (hb : p b = false) (xs rest : List α) :
    (xs ++ b :: rest).dropWhile p = xs.dropWhile p ++ b :: rest := by
  induction xs with
  | nil => simp [hb]
  | cons x xs ih => cases hx : p x <;> simp [hx, ih]

/-- A text that starts with no blank keeps its start. -/
theorem trimStart_cons {c : Char} (h : isBlank c = false) (s : List Char) :
    trimStart (c :: s) = c :: s := by
  simp [trimStart, h]

end RouteCascade.Text
