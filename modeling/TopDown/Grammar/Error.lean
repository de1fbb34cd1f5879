import TopDown.Production
import TopDown.Text.Quoted

/-!
# What can be wrong with a grammar

* `GrammarError`, one constructor for each cause, and `GrammarError.message`, its wording;
* `Nonterminal.read`, `Terminal.read`, `Symbol.read`, `Word.read`: symbols from characters that may
  be none.
-/

namespace TopDown

/-- Why there is no grammar, or no table for it. -/
inductive GrammarError where
  /-- The character is no uppercase ASCII letter. -/
  | invalidNonterminal (c : Char)
  /-- The character is no lowercase ASCII letter. -/
  | invalidTerminal (c : Char)
  /-- The sentence symbol is not declared. -/
  | missingSentenceSymbol (a : Nonterminal)
  /-- The left side of the production is not declared. -/
  | undeclaredNonterminal (p : Production)
  /-- The symbol stands on the right side and is not declared. -/
  | undeclaredSymbol (p : Production) (s : Symbol)
  /-- The line, counted from 1, is no production. -/
  | wrongSyntax (line : Nat) (text : String)
  /-- No lookahead up to the bound tells the alternatives apart. -/
  | notLlk (bound : Nat)
  deriving DecidableEq

namespace GrammarError

/-- The wording of an error. -/
def message : GrammarError → String
  | invalidNonterminal c => "nonterminal must be an uppercase letter, got " ++ quoteChar c
  | invalidTerminal c => "terminal must be a lowercase letter, got " ++ quoteChar c
  | missingSentenceSymbol a =>
    "sentence symbol " ++ a.text ++ " is not a nonterminal of the grammar"
  | undeclaredNonterminal p =>
    "production " ++ p.text ++ " rewrites undeclared nonterminal " ++ p.left.text
  | undeclaredSymbol p s =>
    "production " ++ p.text ++ " uses undeclared symbol " ++ Form.chars [s]
  | wrongSyntax line text =>
    "Line " ++ toString line ++ ": wrong syntax for production: " ++ quoteText text
  | notLlk bound => "grammar is not LL(k) for any k <= " ++ toString bound

end GrammarError

/-- The nonterminal of an uppercase letter. -/
def Nonterminal.read (c : Char) : Except GrammarError Nonterminal :=
  (Nonterminal.ofChar? c).elim (.error (.invalidNonterminal c)) .ok

theorem Nonterminal.read_eq_ok_iff {c : Char} {a : Nonterminal} :
    Nonterminal.read c = .ok a ↔ c = a.char := by
  rw [Nonterminal.read, ← Nonterminal.ofChar?_eq_some_iff]
  cases Nonterminal.ofChar? c <;> simp

/-- The terminal of a lowercase letter; the end mark is none. -/
def Terminal.read (c : Char) : Except GrammarError Terminal :=
  (Terminal.ofChar? c).elim (.error (.invalidTerminal c)) .ok

/-- The symbol of a letter. -/
def Symbol.read (c : Char) : Except GrammarError Symbol :=
  if c.isUpper then .nonterminal <$> Nonterminal.read c else .terminal <$> Terminal.read c

theorem Symbol.read_eq_ok_iff {c : Char} {x : Symbol} :
    Symbol.read c = .ok x ↔ c = x.char ∧ x ≠ .terminal .endMark := by
  have hread : Symbol.read c = .ok x ↔ Symbol.ofLetter? c = some x := by
    unfold Symbol.read Symbol.ofLetter? Nonterminal.read Terminal.read
    by_cases hu : c.isUpper = true
    · rw [if_pos hu, Nonterminal.ofChar?, dif_pos hu]
      simp [Functor.map, Except.map]
    · rw [if_neg hu, Nonterminal.ofChar?, dif_neg hu]
      cases Terminal.ofChar? c <;> simp [Functor.map, Except.map]
  rw [hread, Symbol.ofLetter?_eq_some_iff]

/-- The word that a text of lowercase letters spells; the first other character is the error. -/
def Word.read (s : String) : Except GrammarError Word := s.toList.mapM Terminal.read

end TopDown
