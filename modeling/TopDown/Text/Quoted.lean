import TopDown.Text.Printable

/-!
# Quoted characters and texts

A message shows a foreign character or text between quotes, with a backslash before the quote and
the backslash and an escape for whatever cannot be seen.

* `quoteChar`: between `'`; `quoteText`: between `"`.
-/

namespace TopDown

/-- The digits of `n` to base sixteen, in lower case. -/
def hexDigits (n : Nat) : List Char := Nat.toDigits 16 n

/-- How `c` is shown between two marks `quote`. -/
def escapeShown (quote c : Char) : List Char :=
  if c = '\x00' then ['\\', '0']
  else if c = '\t' then ['\\', 't']
  else if c = '\n' then ['\\', 'n']
  else if c = '\r' then ['\\', 'r']
  else if c = '\\' ∨ c = quote then ['\\', c]
  else if isShown c then [c]
  else ['\\', 'u', '\x7b'] ++ hexDigits c.toNat ++ ['\x7d']

/-- A character between single quotes. -/
def quoteChar (c : Char) : String := String.ofList ('\'' :: escapeShown '\'' c ++ ['\''])

/-- A text between double quotes. -/
def quoteText (s : String) : String :=
  String.ofList ('"' :: s.toList.flatMap (escapeShown '"') ++ ['"'])

end TopDown
