import TopDown.Parser.Measure

/-!
# The parser

A parser is a grammar with its table. It reads a text of declared letters, puts `k` end marks behind
it and below the sentence symbol, and runs the machine; an accepted text comes with its leftmost
derivation.

* `Table.run`: the run of the machine under the guard, which always ends;
* `Grammar.toParser`, **`Parser.derive`**, `Parser.accepts`.
-/

namespace TopDown

/-- Run the machine on the `input`: the productions that it expands by, if the stack and the input
end together. -/
def Table.run (t : Table) (input : Word) (e : Expanded) (c : Configuration) :
    Logged (Option (List Production)) :=
  match _hg : guard e c.stack with
  | .error a => do
    Logged.tell (.leftRecursion a (c.position input))
    return none
  | .ok e =>
    match _hm : t.move c with
    | .finished => return if c.unread.isEmpty then some [] else none
    | .matched d => t.run input e d
    | .expanded a w p d => do
      Logged.tell (.expanded a w p)
      (·.map (p :: ·)) <$> t.run input e d
    | .unexpected x => do
      Logged.tell (.unexpected x (c.position input))
      return none
    | .noEntry a w => do
      Logged.tell (.noEntry a w)
      return none
termination_by (c.unread.length, t.weight e c.stack)
decreasing_by
  · obtain ⟨x, -, hu⟩ := Table.move_eq_matched _hm
    rw [hu]
    exact Prod.Lex.left _ _ (Nat.lt_succ_self _)
  · obtain ⟨stack, hc, -, hp, rfl⟩ := Table.move_eq_expanded _hm
    rw [hc] at _hg ⊢
    obtain ⟨hfree, rfl⟩ := guard_eq_ok _hg
    exact Prod.Lex.right _ (Table.weight_expanded_lt hp hfree)

/-- A grammar and its table. -/
structure Parser where
  grammar : Grammar
  table : Table

/-- The parser of a grammar, for the lookahead that the search finds within the bound. -/
def Grammar.toParser (g : Grammar) (bound : Option Nat) : Logged (Except GrammarError Parser) :=
  return (← g.analyze bound).map (⟨g, ·⟩)

namespace Parser

variable (P : Parser)

/-- The length of the lookahead. -/
def k : Nat := P.table.k

/-- The word that a text of declared letters spells, or the first other character. -/
def readInput : List Char → Except Char Word
  | [] => .ok []
  | c :: s =>
    match (Terminal.ofChar? c).filter (· ∈ P.grammar.terminals) with
    | some t => (readInput s).map (t :: ·)
    | none => .error c

/-- The marks behind the input. -/
def padding : Word := List.replicate P.k .endMark

/-- The sentence symbol above the end marks, before an input. -/
def initial (input : Word) : Configuration :=
  ⟨.nonterminal P.grammar.start :: Word.toForm P.padding, input⟩

/-- The leftmost derivation of a text, if it is accepted. -/
def derive (text : String) : Logged (Option (List Production)) :=
  match P.readInput text.toList with
  | .error c => do
    Logged.tell (.foreignCharacter c)
    return none
  | .ok word =>
    let input := word ++ P.padding
    P.table.run input ∅ (P.initial input)

/-- The text is accepted. -/
def accepts (text : String) : Bool := (P.derive text).value.isSome

end Parser

end TopDown
