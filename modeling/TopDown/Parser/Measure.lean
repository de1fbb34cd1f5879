import TopDown.Parser.Move

/-!
# The machine halts

A symbol on the stack can still expand the nonterminals that are not being expanded at its height or
below. With `m` the length of the longest right side in the table and `f` such nonterminals, the
symbol weighs `(m + 1) ^ f`; an expansion replaces it by at most `m` symbols with fewer nonterminals
left and leaves the rest of the stack as it was.

* `Table.symbolWeight`, `Table.weight`;
* **`Table.weight_expanded_lt`**: an expansion that the guard admits makes the stack lighter.
-/

namespace TopDown

namespace Table

variable (t : Table)

/-- All productions of the table. -/
def productions : List Production := t.rows.entries.flatMap (·.2.entries.map Prod.snd)

/-- The length of the longest right side. -/
def width : Nat := (t.productions.map (·.right.length)).foldr max 0

/-- How many nonterminals with a row are not being expanded at a height or below. -/
def freeAt (e : Expanded) (height : Nat) : Nat :=
  t.rows.keys.toList.countP fun a => ((e.retain height).get? a).isNone

/-- The weight of a symbol that can still expand `free` nonterminals. -/
def symbolWeight (free : Nat) : Nat := Nat.pow (t.width + 1) free

/-- The weight of a stack. -/
def weight (e : Expanded) : Form → Nat
  | [] => 0
  | _ :: stack => t.symbolWeight (t.freeAt e stack.length) + weight e stack

variable {t}

theorem symbolWeight_pos (free : Nat) : 0 < t.symbolWeight free := Nat.pow_pos (Nat.succ_pos _)

theorem symbolWeight_succ (free : Nat) :
    t.symbolWeight (free + 1) = t.width * t.symbolWeight free + t.symbolWeight free := by
  have hpow : t.symbolWeight (free + 1) = t.symbolWeight free * (t.width + 1) := rfl
  rw [hpow, Nat.mul_comm, Nat.succ_mul]

theorem symbolWeight_mono {m n : Nat} (h : m ≤ n) : t.symbolWeight m ≤ t.symbolWeight n :=
  Nat.pow_le_pow_right (Nat.succ_pos _) h

theorem mem_productions {a : Nonterminal} {w : Word} {p : Production} (h : t.get? a w = some p) :
    p ∈ t.productions := by
  obtain ⟨row, hrow, hp⟩ := Option.bind_eq_some_iff.1 h
  exact List.mem_flatMap.2 ⟨_, OrderedMap.get?_eq_some_iff.1 hrow,
    List.mem_map.2 ⟨_, OrderedMap.get?_eq_some_iff.1 hp, rfl⟩⟩

theorem mem_keys {a : Nonterminal} {w : Word} {p : Production} (h : t.get? a w = some p) :
    a ∈ t.rows.keys := by
  obtain ⟨row, hrow, -⟩ := Option.bind_eq_some_iff.1 h
  exact OrderedMap.mem_keys.2 ⟨row, OrderedMap.get?_eq_some_iff.1 hrow⟩

theorem length_right_le_width {p : Production} (h : p ∈ t.productions) :
    p.right.length ≤ t.width :=
  Production.length_right_le_foldr_max h

/-- A nonterminal with a row that joins the expanded ones is one less to expand. -/
theorem freeAt_expand_lt {a : Nonterminal} {e : Expanded} {height n : Nat} (ha : a ∈ t.rows.keys)
    (hfree : ∀ m ≤ height, e.get? a ≠ some m) (hn : height ≤ n) :
    t.freeAt (e.expand a height) n < t.freeAt e height := by
  refine countP_lt_countP (a := a) (fun b hb => ?_) ha ?_ ?_
  · rw [Option.isNone_iff_eq_none, Option.eq_none_iff_forall_ne_some] at hb ⊢
    intro m hm
    obtain ⟨hm, hle⟩ := Expanded.get?_retain.1 hm
    by_cases hba : b = a
    · exact hfree m hle (hba ▸ hm)
    · exact hb m (Expanded.get?_retain.2 ⟨Expanded.get?_expand.2 (.inr ⟨hba, hm, hle⟩), by omega⟩)
  · rw [Expanded.get?_retain.2 ⟨Expanded.get?_expand.2 (.inl ⟨rfl, rfl⟩), hn⟩]
    simp
  · rw [Option.isNone_iff_eq_none, Option.eq_none_iff_forall_ne_some]
    intro m hm
    obtain ⟨hm, hle⟩ := Expanded.get?_retain.1 hm
    exact hfree m hle hm

/-- Below its height an expansion changes nothing. -/
theorem freeAt_expand_below {a : Nonterminal} {e : Expanded} {height n : Nat}
    (hfree : ∀ m ≤ height, e.get? a ≠ some m) (hn : n < height) :
    t.freeAt (e.expand a height) n = t.freeAt e n := by
  have hsame : ∀ b, ((e.expand a height).retain n).get? b =
      (e.retain n).get? b := by
    intro b
    ext m
    rw [Expanded.get?_retain, Expanded.get?_retain, Expanded.get?_expand]
    constructor
    · rintro ⟨⟨-, rfl⟩ | ⟨-, hm, -⟩, hle⟩
      · omega
      · exact ⟨hm, hle⟩
    · rintro ⟨hm, hle⟩
      refine ⟨.inr ⟨fun hba => hfree m (by omega) (hba ▸ hm), hm, by omega⟩, hle⟩
  simp only [freeAt, hsame]

theorem weight_expand_below {a : Nonterminal} {e : Expanded} {height : Nat} {stack : Form}
    (hfree : ∀ m ≤ height, e.get? a ≠ some m) (hle : stack.length ≤ height) :
    t.weight (e.expand a height) stack = t.weight e stack := by
  induction stack with
  | nil => rfl
  | cons x stack ih =>
    rw [List.length_cons] at hle
    rw [weight, weight, freeAt_expand_below hfree (by omega), ih (by omega)]

/-- Symbols on top of a stack weigh at most what they weigh with `free` nonterminals to expand. -/
theorem weight_append_le {e : Expanded} {free : Nat} {above stack : Form}
    (h : ∀ n, stack.length ≤ n → t.freeAt e n ≤ free) :
    t.weight e (above ++ stack) ≤ above.length * t.symbolWeight free + t.weight e stack := by
  induction above with
  | nil => simp
  | cons x above ih =>
    have htop : t.symbolWeight (t.freeAt e (above ++ stack).length) ≤ t.symbolWeight free :=
      symbolWeight_mono (h _ (by simp))
    rw [List.cons_append, weight, List.length_cons, Nat.succ_mul]
    omega

/-- **An expansion makes the stack lighter.** -/
theorem weight_expanded_lt {a : Nonterminal} {w : Word} {p : Production} {e : Expanded}
    {stack : Form} (hp : t.get? a w = some p)
    (hfree : ∀ m ≤ stack.length, e.get? a ≠ some m) :
    t.weight (e.expand a stack.length) (p.right ++ stack) <
      t.weight e (.nonterminal a :: stack) := by
  obtain ⟨free, hfree'⟩ : ∃ free, t.freeAt e stack.length = free + 1 :=
    Nat.exists_eq_succ_of_ne_zero
      (Nat.ne_of_gt (Nat.zero_lt_of_lt (freeAt_expand_lt (mem_keys hp) hfree (Nat.le_refl _))))
  have habove : t.weight (e.expand a stack.length) (p.right ++ stack) ≤
      p.right.length * t.symbolWeight free + t.weight (e.expand a stack.length) stack := by
    refine weight_append_le fun n hn => ?_
    have hlt := freeAt_expand_lt (mem_keys hp) hfree hn
    omega
  have hmul : p.right.length * t.symbolWeight free ≤ t.width * t.symbolWeight free :=
    Nat.mul_le_mul_right _ (length_right_le_width (mem_productions hp))
  have hpos : 0 < t.symbolWeight free := symbolWeight_pos free
  rw [weight_expand_below hfree (Nat.le_refl _)] at habove
  rw [weight, hfree', symbolWeight_succ]
  omega

end Table

end TopDown
