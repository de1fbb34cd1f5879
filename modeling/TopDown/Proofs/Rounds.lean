import TopDown.Proofs.Recognition

/-!
# How long the machine runs

Each round of the machine reads a terminal or expands a nonterminal. An expansion may put more on
the stack than it takes off, and one with an empty right side takes a symbol off with nothing read.
Still the rounds are bounded. Until the next terminal is read the weight of the stack falls with
every expansion, and the stack grows by one right side at most for every nonterminal, since the
guard lets none of them come up inside itself. So the height of the stack grows linearly with what
is read, and the number of rounds quadratically.

* `Table.runWithin`, `Parser.deriveWithin`: so many rounds of the machine, and no more;
* `Table.GrowsFrom`: how far the stack has grown since the last terminal was read, with a lemma for
  a fresh stack, one for an expansion (`GrowsFrom.expand`) and one for the next terminal;
* `Table.runWithin_eq_run`: a run is at its end within its weight and the rounds behind the terminals
  that are left;
* `Parser.roundBound`, **`Parser.derive_halts`**.
-/

namespace TopDown

/-! ## So many rounds -/

/-- What the machine comes to under its guard within a number of rounds, if it has come to an end by
then. -/
def Table.runWithin (t : Table) (input : Word) : (rounds : Nat) → Expanded → Configuration →
    Option (Logged (Option (List Production)))
  | 0, _, _ => none
  | rounds + 1, e, c =>
    match guard e c.stack with
    | .error a => some do
      Logged.tell (.leftRecursion a (c.position input))
      return none
    | .ok e =>
      match t.move c with
      | .finished => some (return if c.unread.isEmpty then some [] else none)
      | .matched d => t.runWithin input rounds e d
      | .expanded a w p d =>
        (t.runWithin input rounds e d).map fun rest => do
          Logged.tell (.expanded a w p)
          (·.map (p :: ·)) <$> rest
      | .unexpected x => some do
        Logged.tell (.unexpected x (c.position input))
        return none
      | .noEntry a w => some do
        Logged.tell (.noEntry a w)
        return none

/-- What a text is derived to within a number of rounds. -/
def Parser.deriveWithin (P : Parser) (rounds : Nat) (text : String) :
    Option (Logged (Option (List Production))) :=
  match P.readInput text.toList with
  | .error c => some do
    Logged.tell (.foreignCharacter c)
    return none
  | .ok word =>
    let input := word ++ P.padding
    P.table.runWithin input rounds ∅ (P.initial input)

namespace Table

variable (t : Table)

/-- The weight of a symbol below which nothing is being expanded. No symbol is heavier. -/
def fullWeight : Nat := t.symbolWeight t.rows.keys.size

/-- How far a stack grows before a terminal is read: by one right side for every nonterminal. -/
def growth : Nat := t.width * t.rows.keys.size

/-- The rounds from the next terminal on, with a stack that has grown from some height and so many
terminals unread. -/
def roundsBehind (height unread : Nat) : Nat :=
  unread * ((height + unread * t.growth) * t.fullWeight)

variable {t} {e : Expanded} {stack : Form} {height : Nat}

/-! ## The weight of a stack of some height -/

theorem freeAt_le_size (e : Expanded) (n : Nat) : t.freeAt e n ≤ t.rows.keys.size :=
  List.countP_le_length

theorem weight_le (e : Expanded) (stack : Form) :
    t.weight e stack ≤ stack.length * t.fullWeight := by
  have h : t.weight e (stack ++ []) ≤ stack.length * t.fullWeight + t.weight e [] :=
    weight_append_le fun n _ => freeAt_le_size e n
  rwa [List.append_nil] at h

theorem weight_cons_pos (e : Expanded) (x : Symbol) (stack : Form) :
    0 < t.weight e (x :: stack) := by
  rw [weight]
  exact Nat.add_pos_left (symbolWeight_pos _) _

/-- With the next terminal read there is a stack to be weighed anew, and a terminal less. -/
theorem weight_add_roundsBehind_le (e : Expanded) (unread : Nat)
    (h : stack.length ≤ height + t.growth) :
    t.weight e stack + t.roundsBehind stack.length unread ≤ t.roundsBehind height (unread + 1) := by
  have hgrown : stack.length + unread * t.growth ≤ height + (unread + 1) * t.growth := by
    rw [Nat.succ_mul]
    omega
  have hthen : t.roundsBehind stack.length unread ≤
      unread * ((height + (unread + 1) * t.growth) * t.fullWeight) :=
    Nat.mul_le_mul_left _ (Nat.mul_le_mul_right _ hgrown)
  have hnow : t.weight e stack ≤ (height + (unread + 1) * t.growth) * t.fullWeight :=
    Nat.le_trans (weight_le e stack)
      (Nat.mul_le_mul_right _ (Nat.le_trans (Nat.le_add_right _ _) hgrown))
  have hsplit : t.roundsBehind height (unread + 1) =
      unread * ((height + (unread + 1) * t.growth) * t.fullWeight) +
        (height + (unread + 1) * t.growth) * t.fullWeight := Nat.succ_mul _ _
  omega

/-! ## The growth of a stack -/

variable (t) in
/-- Since the last terminal was read the stack has grown from `height` symbols by one right side at
most for every nonterminal that is being expanded. -/
def GrowsFrom (height : Nat) (e : Expanded) (stack : Form) : Prop :=
  ∀ n < stack.length, n + t.width * t.freeAt e n < height + t.growth

theorem growsFrom_length : t.GrowsFrom stack.length e stack := by
  intro n hn
  have hfree : t.width * t.freeAt e n ≤ t.growth := Nat.mul_le_mul_left _ (freeAt_le_size e n)
  omega

/-- **An expansion makes the stack grow by a right side at most**, and what it expands is free no
more above. -/
theorem GrowsFrom.expand {a : Nonterminal} {w : Word} {p : Production}
    (h : t.GrowsFrom height e (.nonterminal a :: stack)) (hp : t.get? a w = some p)
    (hfree : ∀ n ≤ stack.length, e.get? a ≠ some n) :
    t.GrowsFrom height (e.expand a stack.length) (p.right ++ stack) := by
  intro n hn
  rw [List.length_append] at hn
  by_cases hbelow : n < stack.length
  · rw [freeAt_expand_below hfree hbelow]
    exact h n (Nat.lt_succ_of_lt hbelow)
  · have htop : stack.length + t.width * t.freeAt e stack.length < height + t.growth :=
      h stack.length (Nat.lt_succ_self _)
    have hright : p.right.length ≤ t.width := length_right_le_width (mem_productions hp)
    have hless : t.width * (t.freeAt (e.expand a stack.length) n + 1) ≤
        t.width * t.freeAt e stack.length :=
      Nat.mul_le_mul_left _ (freeAt_expand_lt (mem_keys hp) hfree (by omega))
    rw [Nat.mul_succ] at hless
    omega

/-- Where a terminal is read, the stack below it has grown no further than a stack can. -/
theorem GrowsFrom.length_le {x : Symbol} (h : t.GrowsFrom height e (x :: stack)) :
    stack.length ≤ height + t.growth := by
  have htop := h stack.length (Nat.lt_succ_self _)
  omega

/-! ## The run -/

/-- **A run is at its end within its weight and the rounds behind the next terminal**, and one round
more that finds the stack empty. -/
theorem runWithin_eq_run {input : Word} {c : Configuration} {rounds : Nat}
    (hgrows : t.GrowsFrom height e c.stack)
    (h : t.weight e c.stack + t.roundsBehind height c.unread.length ≤ rounds) :
    t.runWithin input (rounds + 1) e c = some (t.run input e c) := by
  fun_induction Table.run t input e c generalizing height rounds with
  | case1 e c a hg => rw [runWithin, hg]
  | case2 e c e' hg hm => rw [runWithin, hg]; simp only [hm]
  | case3 e c e' hg d hm ih =>
    obtain ⟨x, hstack, hunread⟩ := Table.move_eq_matched hm
    rw [hstack] at hgrows h
    rw [hunread, List.length_cons] at h
    have hpos := weight_cons_pos (t := t) e (.terminal x) d.stack
    have hanew := weight_add_roundsBehind_le e' d.unread.length hgrows.length_le
    obtain ⟨n, rfl⟩ : ∃ n, rounds = n + 1 := ⟨rounds - 1, by omega⟩
    have hrest : t.runWithin input (n + 1) e' d = some (t.run input e' d) :=
      ih growsFrom_length (by omega)
    rw [runWithin, hg]
    simp only [hm, hrest]
  | case4 e c e' hg a w p d hm ih =>
    obtain ⟨stack, hstack, -, hp, rfl⟩ := Table.move_eq_expanded hm
    rw [hstack] at hgrows h hg
    obtain ⟨hfree, rfl⟩ := guard_eq_ok hg
    have hlighter := weight_expanded_lt hp hfree
    obtain ⟨n, rfl⟩ : ∃ n, rounds = n + 1 := ⟨rounds - 1, by omega⟩
    have hrest : t.runWithin input (n + 1) (e.expand a stack.length) ⟨p.right ++ stack, c.unread⟩ =
        some (t.run input (e.expand a stack.length) ⟨p.right ++ stack, c.unread⟩) :=
      ih (hgrows.expand hp hfree) (by dsimp only; omega)
    rw [runWithin, hstack, hg]
    simp only [hm, hrest, Option.map_some]
  | case5 e c e' hg x hm => rw [runWithin, hg]; simp only [hm]
  | case6 e c e' hg a w hm => rw [runWithin, hg]; simp only [hm]

end Table

/-! ## The parser -/

namespace Parser

variable {P : Parser} {text : String}

variable (P) in
/-- The rounds that a text of some length takes at most. For a given table this is quadratic in the
length; it is exponential in the number of nonterminals only. -/
def roundBound (length : Nat) : Nat :=
  let nonterminals := P.table.rows.keys.size
  let unread := length + P.k + 1
  unread * ((P.k + 1 + unread * (P.table.width * nonterminals)) *
    Nat.pow (P.table.width + 1) nonterminals) + 1

theorem length_of_readInput {s : List Char} {w : Word} (h : P.readInput s = .ok w) :
    w.length = s.length := by
  obtain ⟨rfl, -⟩ := readInput_eq_ok_iff.1 h
  exact (List.length_map _).symm

theorem deriveWithin_eq_derive {rounds : Nat} (h : P.roundBound text.length ≤ rounds) :
    P.deriveWithin rounds text = some (P.derive text) := by
  unfold deriveWithin derive
  match hread : P.readInput text.toList with
  | .error c => rfl
  | .ok w =>
    have hlength : (w ++ P.padding).length = text.length + P.k := by
      rw [List.length_append, length_of_readInput hread, String.length_toList, padding,
        List.length_replicate]
    have hheight : (P.initial (w ++ P.padding)).stack.length = P.k + 1 := by
      simp [initial, padding, Word.toForm]
    have hgrown : (P.initial (w ++ P.padding)).stack.length ≤ P.k + 1 + P.table.growth := by
      rw [hheight]
      exact Nat.le_add_right _ _
    have hstart := Table.weight_add_roundsBehind_le ∅ (text.length + P.k) hgrown
    have hbound : P.table.roundsBehind (P.k + 1) (text.length + P.k + 1) + 1 ≤ rounds := h
    obtain ⟨n, rfl⟩ : ∃ n, rounds = n + 1 := ⟨rounds - 1, by omega⟩
    refine Table.runWithin_eq_run Table.growsFrom_length ?_
    have hunread : (P.initial (w ++ P.padding)).unread.length = text.length + P.k := hlength
    rw [hunread]
    omega

/-- **A derivation ends**, whatever the grammar, the productions in the table and the text: run for a
number of rounds that the length of the text bounds, or for more, the machine has come to its end,
which is what the text is derived to. -/
theorem derive_halts (P : Parser) (text : String) (more : Nat) :
    P.deriveWithin (P.roundBound text.length + more) text = some (P.derive text) :=
  deriveWithin_eq_derive (Nat.le_add_right _ more)

open Sample in
example :
    (⟨leftRecursive, (leftRecursive.tabulate 0).value⟩ : Parser).deriveWithin 2 "b" = none ∧
    (⟨leftRecursive, (leftRecursive.tabulate 0).value⟩ : Parser).deriveWithin 3 "b" =
      some ⟨[.expanded S [] ⟨S, [.nonterminal A]⟩,
        .expanded A [] ⟨A, [.nonterminal A, .terminal b]⟩, .leftRecursion A 0], none⟩ ∧
    (⟨leftRecursive, (leftRecursive.tabulate 0).value⟩ : Parser).roundBound 1 = 163 :=
  ⟨rfl, rfl, rfl⟩

end Parser

end TopDown
