import TopDown.Symbol

/-!
# Productions

A production `A -> w` lets the nonterminal `A` be replaced by the form `w`.

* `Production`, `Production.isLambda`, `Production.text`;
* `after`: the part of a form behind the first occurrence of a symbol;
* `Production.expandLeftmost?`: one step of a leftmost derivation.
-/

namespace TopDown

/-- A nonterminal and the form that it may be replaced by. -/
structure Production where
  left : Nonterminal
  right : Form
  deriving DecidableEq

namespace Production

/-- The right side is empty. -/
def isLambda (p : Production) : Bool := p.right.isEmpty

/-- The production as it is written in a grammar. -/
def text (p : Production) : String := p.left.text ++ " -> " ++ Form.text p.right

/-- What stands behind the first `s` in a form; nothing if there is none. -/
def afterIn (s : Symbol) : Form → Form
  | [] => []
  | x :: w => if x = s then w else afterIn s w

/-- What stands behind the first `s` on the right side. -/
def after (p : Production) (s : Symbol) : Form := afterIn s p.right

theorem mem_of_afterIn {s : Symbol} {w : Form} (h : afterIn s w ≠ []) : s ∈ w := by
  induction w with
  | nil => exact absurd rfl h
  | cons x w ih =>
    rw [afterIn] at h
    split at h
    · rename_i hx; exact hx ▸ List.mem_cons_self
    · exact List.mem_cons_of_mem _ (ih h)

theorem mem_right_of_after {p : Production} {s : Symbol} (h : p.after s ≠ []) : s ∈ p.right :=
  mem_of_afterIn h

/-- A symbol of a form stands in front of what stands behind it. -/
theorem exists_append_afterIn {s : Symbol} {w : Form} (h : s ∈ w) :
    ∃ x, w = x ++ s :: afterIn s w := by
  induction w with
  | nil => exact absurd h List.not_mem_nil
  | cons y w ih =>
    rw [afterIn]
    split
    · rename_i hy; exact ⟨[], hy ▸ rfl⟩
    · rename_i hy
      obtain ⟨x, hx⟩ := ih ((List.mem_cons.1 h).resolve_left (Ne.symm hy))
      exact ⟨y :: x, congrArg (y :: ·) hx⟩

/-- What stands behind a symbol ends the right side. -/
theorem after_suffix (p : Production) (s : Symbol) : p.after s <:+ p.right := by
  have key : ∀ w : Form, afterIn s w <:+ w := by
    intro w
    induction w with
    | nil => exact List.nil_suffix
    | cons x w ih =>
      rw [afterIn]
      split
      · exact List.suffix_cons x w
      · exact ih.trans (List.suffix_cons x w)
  exact key p.right

theorem length_after_le (p : Production) (s : Symbol) : (p.after s).length ≤ p.right.length :=
  (p.after_suffix s).length_le

/-- No right side of a list of productions is longer than the longest one. -/
theorem length_right_le_foldr_max {p : Production} {l : List Production} (h : p ∈ l) :
    p.right.length ≤ (l.map (·.right.length)).foldr max 0 := by
  induction l with
  | nil => exact absurd h List.not_mem_nil
  | cons q l ih =>
    rw [List.map_cons, List.foldr_cons]
    rcases List.mem_cons.1 h with rfl | h
    · exact Nat.le_max_left _ _
    · exact Nat.le_trans (ih h) (Nat.le_max_right _ _)

/-- The form with its leftmost nonterminal replaced, if `p` has that one on its left side. -/
def expandLeftmost? (p : Production) : Form → Option Form
  | [] => none
  | .terminal t :: w => (p.expandLeftmost? w).map (.terminal t :: ·)
  | .nonterminal a :: w => if a = p.left then some (p.right ++ w) else none

/-- A step replaces the left side of the production behind a word. -/
theorem expandLeftmost?_eq_some_iff {p : Production} {w v : Form} :
    p.expandLeftmost? w = some v ↔ ∃ (u : Word) (y : Form),
      w = Word.toForm u ++ .nonterminal p.left :: y ∧ v = Word.toForm u ++ p.right ++ y := by
  induction w generalizing v with
  | nil => simp [expandLeftmost?]
  | cons x w ih =>
    cases x with
    | terminal t =>
      rw [expandLeftmost?, Option.map_eq_some_iff]
      constructor
      · rintro ⟨v, hv, rfl⟩
        obtain ⟨u, y, rfl, rfl⟩ := ih.1 hv
        exact ⟨t :: u, y, rfl, rfl⟩
      · rintro ⟨u, y, hw, rfl⟩
        cases u with
        | nil => cases hw
        | cons s u => cases hw; exact ⟨_, ih.2 ⟨u, y, rfl, rfl⟩, rfl⟩
    | nonterminal a =>
      rw [expandLeftmost?]
      constructor
      · intro h
        split at h
        · rename_i ha; cases h; exact ⟨[], w, ha ▸ rfl, rfl⟩
        · cases h
      · rintro ⟨u, y, hw, rfl⟩
        cases u with
        | nil => cases hw; rw [if_pos rfl]; rfl
        | cons s u => cases hw

/-- The leftmost nonterminal is the one behind the terminals at the beginning. -/
theorem expandLeftmost?_append (p : Production) (u : Word) (a : Nonterminal) (y : Form) :
    p.expandLeftmost? (Word.toForm u ++ .nonterminal a :: y) =
      if a = p.left then some (Word.toForm u ++ (p.right ++ y)) else none := by
  induction u with
  | nil => rfl
  | cons t u ih =>
    rw [Word.toForm_cons, List.cons_append, expandLeftmost?, ih]
    split <;> rfl

end Production

end TopDown
