import TopDown.Lookahead.First

/-!
# The words that follow a nonterminal, and the lookahead of a production

`g.follow k a` holds words of `k` terminals that stand behind `a` in forms derived from the sentence
symbol, where the input ends in end marks. Only the first `a` on a right side counts, and not where
it stands last. A nonterminal that is open already contributes no more than the end of the input.

* `followWalk`, whose first argument bounds how many left sides are entered one inside the other;
  **`Grammar.follow`** gives it as many as there are nonterminals;
* `followWithin`, the recursion without a state, and **`follow_eq_followWithin`**;
* **`Grammar.lookAhead`**: the words that select a production.
-/

namespace TopDown

namespace Grammar

variable (g : Grammar)

/-- Behind the sentence symbol stand `k` end marks. -/
def endOfInput (k : Nat) (a : Nonterminal) : WordSet :=
  if a = g.start then {List.replicate k .endMark} else ∅

/-- The words that begin a form in front of one of the words `outer`. -/
def firstBefore (k : Nat) (w : Form) (outer : WordSet) : WordSet :=
  outer.flatMap fun u => g.first k (w ++ Word.toForm u)

/-- The words that follow a nonterminal, where `enter` walks on from a left side. -/
def followOf (k : Nat) (enter : Nonterminal → Walk) (a : Nonterminal) : Walk :=
  let behind (p : Production) : Walk :=
    if (p.after (.nonterminal a)).isEmpty then .give ∅
    else (enter p.left).map (g.firstBefore k (p.after (.nonterminal a)))
  .opening a (g.endOfInput k a) ((Walk.union behind g.productions).map (g.endOfInput k a ∪ ·))

/-- The walk that enters at most `depth` left sides one inside the other. -/
def followWalk (k : Nat) : (depth : Nat) → Nonterminal → Walk
  | 0 => g.followOf k fun _ => .give ∅
  | depth + 1 => g.followOf k (followWalk k depth)

/-- The words of `k` terminals that follow a nonterminal. -/
def follow (k : Nat) (a : Nonterminal) : WordSet :=
  (g.followWalk k g.nonterminals.size a ∅).1

/-- The words that select a production. With nothing to look at, the empty word selects it. -/
def lookAhead (k : Nat) (p : Production) : WordSet :=
  if k = 0 then {[]} else g.firstBefore k p.right (g.follow k p.left)

/-! ## The recursion without a state -/

variable {g} in
/-- A nonterminal with something behind it is declared. -/
theorem mem_nonterminals_of_after {p : Production} {a : Nonterminal} (hp : p ∈ g.productions)
    (h : ¬ (p.after (.nonterminal a)).isEmpty = true) : a ∈ g.nonterminals :=
  (g.declared p hp).2 _ (p.mem_right_of_after fun e => h (e ▸ rfl))

/-- The words that follow a nonterminal while the nonterminals `opened` are open. -/
def followWithin (opened : Opened) (k : Nat) (a : Nonterminal) : WordSet :=
  if _ha : a ∈ opened then g.endOfInput k a
  else g.endOfInput k a ∪ .unionOf g.productions.attach fun ⟨p, _hp⟩ =>
    if _h : (p.after (.nonterminal a)).isEmpty then ∅
    else g.firstBefore k (p.after (.nonterminal a)) (followWithin (opened.insert a) k p.left)
termination_by g.unopened opened
decreasing_by exact unopened_insert_lt (mem_nonterminals_of_after _hp _h) _ha

theorem followWithin_eq (opened : Opened) (k : Nat) (a : Nonterminal) :
    g.followWithin opened k a =
      if a ∈ opened then g.endOfInput k a
      else g.endOfInput k a ∪ .unionOf g.productions fun p =>
        if (p.after (.nonterminal a)).isEmpty then ∅
        else g.firstBefore k (p.after (.nonterminal a))
          (g.followWithin (opened.insert a) k p.left) := by
  rw [followWithin, dite_eq_ite]
  congr 2
  ext u
  simp only [WordSet.mem_unionOf, List.mem_attach, true_and, Subtype.exists, exists_prop,
    dite_eq_ite]

variable {g}

/-- A walk whose left sides yield what they should yields what it should. -/
theorem yields_followOf {k : Nat} {enter : Nonterminal → Walk} {a : Nonterminal} {opened : Opened}
    (h : ∀ opened' b, g.unopened opened' < g.unopened opened →
      (enter b).Yields opened' (g.followWithin opened' k b)) :
    (g.followOf k enter a).Yields opened (g.followWithin opened k a) := by
  rw [followOf, followWithin_eq]
  refine Walk.yields_opening fun ha => (Walk.yields_union fun p hp => ?_).map
  split
  · exact Walk.yields_give
  · rename_i hne
    exact (h _ _ (unopened_insert_lt (mem_nonterminals_of_after hp hne) ha)).map

/-- **A walk that may enter as many left sides as there are nonterminals left to open collects all
words and leaves what is open as it was.** -/
theorem yields_followWalk {depth k : Nat} {a : Nonterminal} {opened : Opened}
    (h : g.unopened opened ≤ depth) :
    (g.followWalk k depth a).Yields opened (g.followWithin opened k a) := by
  induction depth generalizing a opened with
  | zero => exact yields_followOf fun _ _ hlt => absurd hlt (by omega)
  | succ depth ih => exact yields_followOf fun _ _ hlt => ih (by omega)

theorem follow_eq_followWithin (k : Nat) (a : Nonterminal) :
    g.follow k a = g.followWithin ∅ k a := by
  rw [follow, yields_followWalk (Nat.le_of_eq unopened_empty)]

end Grammar

end TopDown
