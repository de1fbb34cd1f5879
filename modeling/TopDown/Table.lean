import TopDown.Ordered.Map
import TopDown.Search

/-!
# The parsing table

The table gives, for a nonterminal and the next `k` terminals, the production to expand by. Where
two alternatives share a lookahead word, the one that is declared later has it, and the log says so.

* `Table`, `Table.get?`;
* `Grammar.bindings`, the entries as they are made; **`Grammar.tabulate`**;
* **`Grammar.analyze`**: the table for the lookahead that the search finds.
-/

namespace TopDown

/-- The production for every lookahead word of one nonterminal. -/
abbrev Row := OrderedMap Word Production

/-- Make the entries in turn; a later entry takes a word over from an earlier one. -/
def Row.fill : Row → List (Word × Production) → Logged Row
  | row, [] => return row
  | row, (w, p) :: bindings => do
    if let some q := row.get? w then Logged.tell (.takenOver w p q)
    Row.fill (row.insert w p) bindings

/-- A table of productions by nonterminal and lookahead word. -/
structure Table where
  k : Nat
  rows : OrderedMap Nonterminal Row

namespace Table

/-- The production for a nonterminal and a lookahead word. -/
def get? (t : Table) (a : Nonterminal) (w : Word) : Option Production :=
  (t.rows.get? a).bind (·.get? w)

/-- The number of entries in all rows. -/
def size (t : Table) : Nat := t.rows.entries.foldl (fun n row => n + row.2.size) 0

end Table

namespace Grammar

variable (g : Grammar)

/-- The lookahead words of the alternatives of a nonterminal, each with its production. -/
def bindings (k : Nat) (a : Nonterminal) : List (Word × Production) :=
  (g.productionsOf a).flatMap fun p => (g.lookAhead k p).toList.map (·, p)

/-- The row of a nonterminal. -/
def row (k : Nat) (a : Nonterminal) : Logged Row := Row.fill ∅ (g.bindings k a)

/-- The table for lookahead `k`, with one row for every nonterminal. -/
def tabulate (k : Nat) : Logged Table :=
  let rows := OrderedMap.ofSet g.nonterminals (g.row k)
  let table : Table := ⟨k, rows.mapValues Logged.value⟩
  ⟨rows.entries.flatMap (·.2.log) ++ [.tabulated k table.size], table⟩

/-- The table for the lookahead that tells all alternatives apart. -/
def analyze (bound : Option Nat) : Logged (Except GrammarError Table) := do
  match ← g.findLookahead bound with
  | .error e => return .error e
  | .ok k => return .ok (← g.tabulate k)

end Grammar

end TopDown
