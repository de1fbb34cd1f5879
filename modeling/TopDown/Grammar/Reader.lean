import TopDown.Grammar.Basic
import TopDown.Text.Blank
import TopDown.Text.Lines
import TopDown.Text.WordChar

/-!
# Grammars as texts

A text holds one production a line, as in `S -> aSb`: an uppercase letter, a gap without word
characters that holds an arrow, and the letters that follow at once. Blank lines and lines that
begin with `#` are skipped, and what follows the letters is ignored.

* `splitProduction`: the letters of a trimmed line; `Production.ofLine`: its production;
* `Grammar.ofText`: the grammar of a text, with `S` as its sentence symbol; the first line that is
  no production is the error.
-/

namespace TopDown

/-- The text holds `->`. -/
def hasArrow : List Char → Bool
  | '-' :: '>' :: _ => true
  | _ :: s => hasArrow s
  | [] => false

/-- The letter on the left of a production and the letters on its right. -/
def splitProduction : List Char → Option (Char × List Char)
  | [] => none
  | left :: s =>
    if left.isUpper && hasArrow (s.takeWhile (!isWordChar ·)) then
      some (left, (s.dropWhile (!isWordChar ·)).takeWhile Char.isAlpha)
    else none

/-- The production of the letters on its sides. -/
def Production.read (left : Char) (right : List Char) : Except GrammarError Production := do
  let a ← Nonterminal.read left
  return ⟨a, ← right.mapM Symbol.read⟩

/-- The production that a trimmed line holds; `n` is the number of the line. -/
def Production.ofLine (n : Nat) (line : List Char) : Except GrammarError Production :=
  match splitProduction line with
  | none => .error (.wrongSyntax n (String.ofList line))
  | some (left, right) => Production.read left right

/-- The line says nothing: it is blank or a comment. -/
def isSkipped (line : List Char) : Bool := line.isEmpty || line.head? == some '#'

/-- The productions of trimmed lines, the first of which has the number `n`. -/
def productionsOfLines (n : Nat) : List (List Char) → Except GrammarError (List Production)
  | [] => .ok []
  | line :: lines =>
    if isSkipped line then productionsOfLines (n + 1) lines
    else do
      let p ← Production.ofLine n line
      return p :: (← productionsOfLines (n + 1) lines)

namespace Grammar

/-- The grammar whose symbols are those of the productions, with the sentence symbol `S`. -/
def ofProductions (ps : List Production) : Except GrammarError Grammar :=
  declare (ps.flatMap fun p => p.left :: p.right.filterMap Symbol.nonterminal?)
    (ps.flatMap fun p => p.right.filterMap Symbol.terminal?) .sentence ps

/-- The grammar that a text holds. -/
def ofText (text : String) : Except GrammarError Grammar :=
  productionsOfLines 1 ((lines text.toList).map trim) >>= ofProductions

end Grammar

end TopDown
