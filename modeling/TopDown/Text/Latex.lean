/-!
# LaTeX

The texts of symbols, words, word sets and productions as LaTeX: `$` and braces are escaped, `λ` and
`∅` are commands, and in math mode an arrow between blanks is one too.

* `Latex.text`, `Latex.math`; `mathChars_arrow`, `mathChars_cons`: math mode, character by character
  but for the arrows.
-/

namespace TopDown

namespace Latex

/-- A character, with a backslash if LaTeX gives it a meaning of its own. -/
def escapeChar (c : Char) : List Char :=
  if c = '$' ∨ c = '\x7b' ∨ c = '\x7d' then ['\\', c] else [c]

/-- A character in text mode. -/
def textChar (c : Char) : List Char :=
  if c = 'λ' then "$\\lambda$".toList
  else if c = '∅' then "$\\emptyset$".toList
  else escapeChar c

/-- A character in math mode. -/
def mathChar (c : Char) : List Char :=
  if c = 'λ' then "\\lambda".toList
  else if c = '∅' then "\\emptyset".toList
  else escapeChar c

/-- The characters of a text in math mode. -/
def mathChars : List Char → List Char
  | ' ' :: '-' :: '>' :: ' ' :: s => " \\rightarrow ".toList ++ mathChars s
  | c :: s => mathChar c ++ mathChars s
  | [] => []

theorem mathChars_arrow (s : List Char) :
    mathChars (' ' :: '-' :: '>' :: ' ' :: s) = " \\rightarrow ".toList ++ mathChars s := rfl

theorem mathChars_cons {c : Char} {s : List Char}
    (h : ∀ t, c = ' ' → s = '-' :: '>' :: ' ' :: t → False) :
    mathChars (c :: s) = mathChar c ++ mathChars s := by
  conv => lhs; unfold mathChars
  split
  · rename_i t he
    cases he
    exact (h t rfl rfl).elim
  · rename_i he
    cases he
    rfl
  · contradiction

/-- A text in text mode. -/
def text (s : String) : String := String.ofList (s.toList.flatMap textChar)

/-- A text in math mode. -/
def math (s : String) : String := String.ofList (mathChars s.toList)

end Latex

end TopDown
