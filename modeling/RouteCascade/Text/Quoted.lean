import RouteCascade.Text.Escaped

/-!
# Quoted text

How a text is shown between quotes in messages: the backslash and the enclosing quote are escaped,
the usual control characters have short escapes, and whatever would not be seen is written as
`\u{…}` with its code point in small hexadecimal digits.
-/
namespace RouteCascade.Text

def hexDigit (n : Nat) : Char :=
  if n < 10 then Char.ofNat (48 + n) else Char.ofNat (87 + n)

def hexNumber (n : Nat) : List Char := Nat.toDigits 16 n

/-- One character inside a text enclosed by `quote`. -/
def escapeChar (quote c : Char) : List Char :=
  if c = '\x00' then ['\\', '0']
  else if c = '\t' then ['\\', 't']
  else if c = '\n' then ['\\', 'n']
  else if c = '\r' then ['\\', 'r']
  else if c = '\\' ∨ c = quote then ['\\', c]
  else if Escaped.isMember c then ['\\', 'u', '{'] ++ hexNumber c.toNat ++ ['}']
  else [c]

def quoted (s : String) : String :=
  String.ofList ('"' :: s.toList.flatMap (escapeChar '"') ++ ['"'])

def quotedChar (c : Char) : String :=
  String.ofList ('\'' :: escapeChar '\'' c ++ ['\''])

def quotedList (xs : List String) : String :=
  "[" ++ String.intercalate ", " (xs.map quoted) ++ "]"

end RouteCascade.Text
