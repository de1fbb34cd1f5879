import TopDown.Log
import TopDown.Lookahead.Follow

/-!
# The search for the lookahead

Two alternatives of one nonterminal conflict at `k` if they share a lookahead word. The search tries
`k = 1, 2, …`: a conflict raises `k` at once, the pairs that are left are compared at the new `k`,
and it ends with a pass over all pairs that meets no conflict.

* `Grammar.alternatives`, the pairs to be told apart; `Grammar.conflict`;
* **`Grammar.findLookahead`**: the length of the lookahead, within a bound.
-/

namespace TopDown

/-- Every earlier member of a list with every later one. -/
def pairs {α : Type} : List α → List (α × α)
  | [] => []
  | a :: l => l.map (a, ·) ++ pairs l

/-- Two productions of a nonterminal, the earlier one first. -/
abbrev Alternatives := Production × Production

namespace Grammar

variable (g : Grammar)

/-- The pairs of alternatives, by nonterminal and in order of declaration. -/
def alternatives : List Alternatives :=
  g.nonterminals.toList.flatMap fun a => pairs (g.productionsOf a)

/-- The productions share a lookahead word of length `k`. -/
def conflict (k : Nat) (c : Alternatives) : Bool :=
  !(g.lookAhead k c.1).disjoint (g.lookAhead k c.2)

/-- The first pair in conflict, and the pairs behind it. -/
def nextConflict? (k : Nat) : List Alternatives → Option (Alternatives × List Alternatives)
  | [] => none
  | c :: todo => if g.conflict k c then some (c, todo) else nextConflict? k todo

/-- Search on from `k`, with `room` left up to the bound and the pairs `todo` left of this pass. A
pass that was not `clean` so far is followed by another. -/
def searchFrom : (room k : Nat) → (todo : List Alternatives) → (clean : Bool) →
    Logged (Option Nat)
  | room, k, todo, clean => do
    let again := if clean then [] else g.alternatives
    match g.nextConflict? k todo <|> g.nextConflict? k again with
    | none =>
      Logged.tell (.foundLookahead k)
      return some k
    | some ((p, q), todo) =>
      Logged.tell (.sharedLookahead p q k)
      match room with
      | 0 => return none
      | room + 1 => searchFrom room (k + 1) todo false

/-- Every nonterminal has exactly one production, so no lookahead is needed. -/
def isDeterministic : Bool :=
  g.nonterminals.toList.all fun a => (g.productionsOf a).length == 1

/-- As good as no bound at all. -/
def unbounded : Nat := UInt64.size - 1

/-- The lookahead that tells all alternatives apart, if it is within the bound. -/
def findLookahead (bound : Option Nat) : Logged (Except GrammarError Nat) := do
  if g.isDeterministic then return .ok 0
  let bound := bound.getD unbounded
  match bound with
  | 0 => return .error (.notLlk bound)
  | room + 1 =>
    return (← g.searchFrom room 1 g.alternatives true).elim (.error (.notLlk bound)) .ok

end Grammar

end TopDown
