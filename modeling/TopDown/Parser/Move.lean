import TopDown.Table

/-!
# The moves of the stack machine

The machine holds a stack of symbols, top first, and the input that is still unread. A terminal on
top must be the next one of the input; a nonterminal is expanded by the production that the table
gives for the next `k` terminals.

* `Configuration`, `Move`, `Table.move`;
* `Expanded` and `guard`: the nonterminals expanded since the last terminal was read, and the test
  that none of them comes up inside itself.
-/

namespace TopDown

/-- A stack, top first, and the unread input. -/
structure Configuration where
  stack : Form
  unread : Word
  deriving DecidableEq

/-- How much of the input has been read. -/
def Configuration.position (c : Configuration) (input : Word) : Nat :=
  input.length - c.unread.length

/-- What the machine does next. -/
inductive Move where
  /-- The stack is empty. -/
  | finished
  /-- The terminal on top was read. -/
  | matched (next : Configuration)
  /-- The nonterminal on top was expanded before the lookahead word. -/
  | expanded (a : Nonterminal) (w : Word) (p : Production) (next : Configuration)
  /-- Another terminal than the next one is on top. -/
  | unexpected (t : Terminal)
  /-- The table has nothing for the nonterminal on top before the lookahead word. -/
  | noEntry (a : Nonterminal) (w : Word)

/-- The move from a configuration. -/
def Table.move (t : Table) : Configuration → Move
  | ⟨[], _⟩ => .finished
  | ⟨.terminal x :: stack, unread⟩ =>
    match unread with
    | y :: unread => if x = y then .matched ⟨stack, unread⟩ else .unexpected x
    | [] => .unexpected x
  | ⟨.nonterminal a :: stack, unread⟩ =>
    let w := unread.take t.k
    match t.get? a w with
    | some p => .expanded a w p ⟨p.right ++ stack, unread⟩
    | none => .noEntry a w

variable {t : Table} {c d : Configuration}

theorem Table.move_eq_matched (h : t.move c = .matched d) :
    ∃ x, c.stack = .terminal x :: d.stack ∧ c.unread = x :: d.unread := by
  match c with
  | ⟨[], _⟩ => cases h
  | ⟨.terminal x :: stack, []⟩ => cases h
  | ⟨.terminal x :: stack, y :: unread⟩ =>
    simp only [move] at h
    split at h
    · rename_i hx; cases h; exact ⟨x, rfl, hx ▸ rfl⟩
    · cases h
  | ⟨.nonterminal a :: stack, unread⟩ =>
    rw [move] at h
    split at h <;> cases h

theorem Table.move_eq_expanded {a : Nonterminal} {w : Word} {p : Production}
    (h : t.move c = .expanded a w p d) :
    ∃ stack, c.stack = .nonterminal a :: stack ∧ w = c.unread.take t.k ∧ t.get? a w = some p ∧
      d = ⟨p.right ++ stack, c.unread⟩ := by
  match c with
  | ⟨[], _⟩ => cases h
  | ⟨.terminal x :: stack, []⟩ => cases h
  | ⟨.terminal x :: stack, y :: unread⟩ =>
    simp only [move] at h
    split at h <;> cases h
  | ⟨.nonterminal b :: stack, unread⟩ =>
    rw [move] at h
    split at h
    · rename_i hp; cases h; exact ⟨stack, rfl, rfl, hp, rfl⟩
    · cases h

theorem Table.move_eq_finished (h : t.move c = .finished) : c.stack = [] := by
  match c with
  | ⟨[], _⟩ => rfl
  | ⟨.terminal x :: stack, []⟩ => cases h
  | ⟨.terminal x :: stack, y :: unread⟩ =>
    simp only [move] at h
    split at h <;> cases h
  | ⟨.nonterminal b :: stack, unread⟩ =>
    rw [move] at h
    split at h <;> cases h

theorem Table.move_eq_unexpected {x : Terminal} (h : t.move c = .unexpected x) :
    ∃ stack, c.stack = .terminal x :: stack ∧ c.unread.head? ≠ some x := by
  match c with
  | ⟨[], _⟩ => cases h
  | ⟨.terminal y :: stack, []⟩ => cases h; exact ⟨stack, rfl, nofun⟩
  | ⟨.terminal z :: stack, y :: unread⟩ =>
    simp only [move] at h
    split at h
    · cases h
    · rename_i hne
      cases h
      exact ⟨stack, rfl, fun e => hne (Option.some.inj e).symm⟩
  | ⟨.nonterminal b :: stack, unread⟩ =>
    rw [move] at h
    split at h <;> cases h

theorem Table.move_eq_noEntry {a : Nonterminal} {w : Word} (h : t.move c = .noEntry a w) :
    ∃ stack, c.stack = .nonterminal a :: stack ∧ w = c.unread.take t.k ∧ t.get? a w = none := by
  match c with
  | ⟨[], _⟩ => cases h
  | ⟨.terminal x :: stack, []⟩ => cases h
  | ⟨.terminal x :: stack, y :: unread⟩ =>
    simp only [move] at h
    split at h <;> cases h
  | ⟨.nonterminal b :: stack, unread⟩ =>
    rw [move] at h
    split at h
    · cases h
    · rename_i hnone
      cases h
      exact ⟨stack, rfl, rfl, hnone⟩

/-! ## Left recursion -/

/-- The nonterminals expanded since the last terminal was read, each with the height of the stack
below it. -/
abbrev Expanded := OrderedMap Nonterminal Nat

namespace Expanded

variable {e : Expanded}

/-- Forget what the stack has fallen below: its expansion is over. -/
def retain (e : Expanded) (height : Nat) : Expanded := e.filterValues (· ≤ height)

theorem get?_retain {height n : Nat} {a : Nonterminal} :
    (e.retain height).get? a = some n ↔ e.get? a = some n ∧ n ≤ height := by
  rw [retain, OrderedMap.get?_filterValues, decide_eq_true_eq]

/-- With `a` expanded above a stack of the given height. -/
def expand (e : Expanded) (a : Nonterminal) (height : Nat) : Expanded :=
  (e.retain height).insert a height

/-- The entries behind an expansion: the nonterminal at its height, and the earlier ones at that
height or below. -/
theorem get?_expand {height n : Nat} {a b : Nonterminal} :
    (e.expand a height).get? b = some n ↔
      b = a ∧ n = height ∨ b ≠ a ∧ e.get? b = some n ∧ n ≤ height := by
  rw [expand, OrderedMap.get?_insert]
  split
  · rename_i hb
    simp [hb, eq_comm]
  · rename_i hb
    simp [hb, get?_retain]

end Expanded

/-- What is expanded once the top of the stack is taken off: a terminal ends all expansions, and a
nonterminal joins them. One that is among them already is left recursive. -/
def guard (e : Expanded) : Form → Except Nonterminal Expanded
  | .nonterminal a :: stack =>
    if ((e.retain stack.length).get? a).isSome then .error a else .ok (e.expand a stack.length)
  | _ => .ok ∅

/-- A nonterminal that the guard admits is not being expanded at its height or below. -/
theorem guard_eq_ok {e e' : Expanded} {a : Nonterminal} {stack : Form}
    (h : guard e (.nonterminal a :: stack) = .ok e') :
    (∀ n ≤ stack.length, e.get? a ≠ some n) ∧ e' = e.expand a stack.length := by
  rw [guard] at h
  split at h
  · cases h
  · rename_i ha
    cases h
    refine ⟨fun n hn hget => ha ?_, rfl⟩
    rw [Expanded.get?_retain.2 ⟨hget, hn⟩]
    rfl

/-- A nonterminal that the guard refuses is being expanded at its height or below. -/
theorem guard_eq_error {e : Expanded} {a : Nonterminal} {stack : Form}
    (h : guard e stack = .error a) :
    ∃ below n, stack = .nonterminal a :: below ∧ e.get? a = some n ∧ n ≤ below.length := by
  match stack with
  | [] => cases h
  | .terminal _ :: _ => cases h
  | .nonterminal b :: below =>
    rw [guard] at h
    split at h
    · rename_i hb
      cases h
      obtain ⟨n, hn⟩ := Option.isSome_iff_exists.1 hb
      exact ⟨below, n, rfl, Expanded.get?_retain.1 hn⟩
    · cases h

end TopDown
