import TopDown.Lookahead.Walk

/-!
# The words that begin a form

`g.first k w` holds words of at most `k` terminals with which derivations of the form `w` begin. A
terminal counts against `k`; a nonterminal stands for each of its alternatives, where an empty one
leads on to the rest of the form and any other is taken in place of the whole form. A nonterminal
that is open already contributes nothing.

* `firstWalk`, whose first argument bounds how many right sides are entered one inside the other;
  **`Grammar.first`** gives it as many as there are nonterminals;
* `firstWithin`: the same words by recursion over what is open, as an argument and not a state;
* **`first_eq_firstWithin`**: the bound is never reached and the state leaves no trace.
-/

namespace TopDown

namespace Grammar

variable (g : Grammar)

/-- The words that begin a form, where `enter` walks through a right side. -/
def firstOfForm (enter : Nat → Form → Walk) : Nat → Form → Walk
  | 0, _ => .give ∅
  | _ + 1, [] => .give {[]}
  | k + 1, .terminal t :: w => (firstOfForm enter k w).map (WordSet.concat {[t]})
  | k + 1, .nonterminal a :: w =>
    .opening a ∅ <| .union
      (fun p => if p.isLambda then firstOfForm enter (k + 1) w else enter (k + 1) p.right)
      (g.productionsOf a)

/-- The walk that enters at most `depth` right sides one inside the other. -/
def firstWalk : (depth : Nat) → Nat → Form → Walk
  | 0 => g.firstOfForm fun _ _ => .give ∅
  | depth + 1 => g.firstOfForm (firstWalk depth)

/-- The words of at most `k` terminals that begin a form. -/
def first (k : Nat) (w : Form) : WordSet := (g.firstWalk g.nonterminals.size k w ∅).1

/-! ## The recursion without a state -/

/-- The words that begin a form while the nonterminals `opened` are open. -/
def firstWithin (opened : Opened) : Nat → Form → WordSet
  | 0, _ => ∅
  | _ + 1, [] => {[]}
  | k + 1, .terminal t :: w => WordSet.concat {[t]} (firstWithin opened k w)
  | k + 1, .nonterminal a :: w =>
    if _ha : a ∈ opened then ∅
    else .unionOf (g.productionsOf a).attach fun ⟨p, _hp⟩ =>
      if p.isLambda then firstWithin (opened.insert a) (k + 1) w
      else firstWithin (opened.insert a) (k + 1) p.right
termination_by _ w => (g.unopened opened, w.length)
decreasing_by
  · exact Prod.Lex.right _ (Nat.lt_succ_self _)
  · rcases Nat.lt_or_eq_of_le (g.unopened_insert_le a opened) with h | h
    · exact Prod.Lex.left _ _ h
    · rw [h]; exact Prod.Lex.right _ (Nat.lt_succ_self _)
  · exact Prod.Lex.left _ _ (unopened_insert_lt (g.mem_nonterminals_of_productionsOf _hp) _ha)

theorem firstWithin_nonterminal (opened : Opened) (k : Nat) (a : Nonterminal) (w : Form) :
    g.firstWithin opened (k + 1) (.nonterminal a :: w) =
      if a ∈ opened then ∅
      else .unionOf (g.productionsOf a) fun p =>
        if p.isLambda then g.firstWithin (opened.insert a) (k + 1) w
        else g.firstWithin (opened.insert a) (k + 1) p.right := by
  rw [firstWithin, dite_eq_ite]
  congr 1
  ext u
  simp only [WordSet.mem_unionOf, List.mem_attach, true_and, Subtype.exists, exists_prop]

variable {g}

/-- A walk whose right sides yield what they should yields what it should. -/
theorem yields_firstOfForm {enter : Nat → Form → Walk} {k : Nat} {w : Form} {opened : Opened}
    (h : ∀ opened' k p, g.unopened opened' < g.unopened opened → p ∈ g.productions →
      (enter k p.right).Yields opened' (g.firstWithin opened' k p.right)) :
    (g.firstOfForm enter k w).Yields opened (g.firstWithin opened k w) := by
  induction w generalizing k opened with
  | nil => cases k <;> rw [firstOfForm, firstWithin] <;> exact Walk.yields_give
  | cons x w ih =>
    cases k with
    | zero => rw [firstOfForm, firstWithin]; exact Walk.yields_give
    | succ k =>
      cases x with
      | terminal t => rw [firstOfForm, firstWithin]; exact (ih h).map
      | nonterminal a =>
        rw [firstOfForm, firstWithin_nonterminal]
        refine Walk.yields_opening fun ha => Walk.yields_union fun p hp => ?_
        have hlt := unopened_insert_lt (g.mem_nonterminals_of_productionsOf hp) ha
        split
        · exact ih fun opened' k p hlt' => h opened' k p (Nat.lt_trans hlt' hlt)
        · exact h _ _ p hlt (g.mem_productionsOf.1 hp).1

/-- **A walk that may enter as many right sides as there are nonterminals left to open collects all
words and leaves what is open as it was.** -/
theorem yields_firstWalk {depth k : Nat} {w : Form} {opened : Opened}
    (h : g.unopened opened ≤ depth) :
    (g.firstWalk depth k w).Yields opened (g.firstWithin opened k w) := by
  induction depth generalizing k w opened with
  | zero =>
    exact yields_firstOfForm fun _ _ _ hlt _ => absurd hlt (by omega)
  | succ depth ih =>
    exact yields_firstOfForm fun _ _ _ hlt _ => ih (by omega)

theorem first_eq_firstWithin (k : Nat) (w : Form) : g.first k w = g.firstWithin ∅ k w := by
  rw [first, yields_firstWalk (Nat.le_of_eq unopened_empty)]

end Grammar

end TopDown
