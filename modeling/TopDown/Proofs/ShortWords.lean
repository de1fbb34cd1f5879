import TopDown.Proofs.Concatenation
import TopDown.Proofs.Recursion
import TopDown.Proofs.Samples
import TopDown.Proofs.SoundLookahead

/-!
# Words shorter than the lookahead

A word of fewer than `k` terminals that begins a form need not be all that the form can become. It is
where the whole form was read; but the rest of a form is dropped behind a nonterminal whose right
side is not empty, and a word stops short where every way to go on meets an open nonterminal again.

* `Production.leftOut`: what is dropped when a production is chosen for a nonterminal;
* `Grammar.Stuck`, `firstWithin_eq_empty_iff`: where nothing is found;
* `Grammar.StopsBehind`, **`mem_firstWithin_iff_stopsBehind`**: how the short words are read;
* `StopsBehind.derives`: what is read, with what is left and what was dropped behind it, is derived;
* **`Grammar.first_short`**, and `Grammar.short_words_nested`: words of two terminals that begin a form
  from which no word of fewer than three is derived.
-/

namespace TopDown

/-- What is dropped when the production is chosen for a nonterminal with a rest of a form behind it. -/
def Production.leftOut (p : Production) (rest : Form) : Form := if p.isLambda then [] else rest

namespace WordSet

theorem unionOf_eq_empty_iff {α : Type} {l : List α} {f : α → WordSet} :
    unionOf l f = ∅ ↔ ∀ a ∈ l, f a = ∅ := by
  constructor
  · intro h a ha
    ext u
    refine ⟨fun hu => ?_, nofun⟩
    rw [← h]
    exact mem_unionOf.2 ⟨a, ha, hu⟩
  · intro h
    ext u
    rw [mem_unionOf]
    refine ⟨fun ⟨a, ha, hu⟩ => ?_, nofun⟩
    rwa [h a ha] at hu

end WordSet

namespace Grammar

variable {g : Grammar} {opened : Opened} {k : Nat} {a : Nonterminal} {w rest dropped : Form} {u : Word}

/-! ## Where reading is stuck -/

variable (g) in
/-- Every way to read on comes to a nonterminal that is open, or to one without productions. -/
inductive Stuck : Opened → Form → Prop
  | cycle {opened : Opened} {a : Nonterminal} {w : Form} : a ∈ opened →
      Stuck opened (.nonterminal a :: w)
  | alternatives {opened : Opened} {a : Nonterminal} {w : Form} : a ∉ opened →
      (∀ p ∈ g.productionsOf a, Stuck (opened.insert a) (p.readOn w)) →
      Stuck opened (.nonterminal a :: w)

theorem Stuck.ne_nil (h : g.Stuck opened w) : w ≠ [] := by
  cases h <;> exact List.cons_ne_nil _ _

/-- Nothing begins a form just where reading it is stuck. -/
theorem firstWithin_eq_empty_iff (hk : 1 ≤ k) :
    g.firstWithin opened k w = ∅ ↔ g.Stuck opened w := by
  induction opened, k, w using Grammar.firstWithin.induct g with
  | case1 opened w => omega
  | case2 opened k =>
    rw [firstWithin]
    exact ⟨fun h => absurd h (by decide), fun h => absurd rfl h.ne_nil⟩
  | case3 opened k t w ih =>
    rw [firstWithin, WordSet.concat_eq_empty_iff]
    constructor
    · intro h
      exact absurd (h.1 ▸ OrderedSet.mem_singleton.2 rfl) (OrderedSet.not_mem_empty [t])
    · intro h
      cases h
  | case4 opened k a w ha =>
    rw [firstWithin_nonterminal, if_pos ha]
    exact ⟨fun _ => .cycle ha, fun _ => rfl⟩
  | case5 opened k a w ha ihRest ihRight =>
    have hread : ∀ p ∈ g.productionsOf a,
        (g.firstWithin (opened.insert a) (k + 1) (p.readOn w) = ∅ ↔
          g.Stuck (opened.insert a) (p.readOn w)) := by
      intro p hp
      rw [Production.readOn]
      split
      · exact ihRest hk
      · exact ihRight p hp hk
    rw [firstWithin_of_not_mem ha, WordSet.unionOf_eq_empty_iff]
    constructor
    · intro h
      exact .alternatives ha fun p hp => (hread p hp).1 (h p hp)
    · intro h p hp
      cases h with
      | cycle hmem => exact absurd hmem ha
      | alternatives _ h => exact (hread p hp).2 (h p hp)

/-! ## How short words are read -/

variable (g) in
/-- Reading a form stops behind a word: at the end, or behind a terminal with a part `rest` of the form
left at which reading is stuck. Of what stood behind the nonterminals on the way, `dropped` has been
left out. -/
inductive StopsBehind : Opened → Form → Word → Form → Form → Prop
  | nil {opened : Opened} : StopsBehind opened [] [] [] []
  | stuck {opened : Opened} {t : Terminal} {w : Form} : g.Stuck opened w →
      StopsBehind opened (.terminal t :: w) [t] w []
  | terminal {opened : Opened} {t : Terminal} {w rest dropped : Form} {u : Word} :
      StopsBehind opened w u rest dropped →
      StopsBehind opened (.terminal t :: w) (t :: u) rest dropped
  | nonterminal {opened : Opened} {a : Nonterminal} {p : Production} {w rest dropped : Form}
      {u : Word} : a ∉ opened → p ∈ g.productionsOf a →
      StopsBehind (opened.insert a) (p.readOn w) u rest dropped →
      StopsBehind opened (.nonterminal a :: w) u rest (dropped ++ p.leftOut w)

/-- **The short words that begin a form are those behind which reading it stops.** -/
theorem mem_firstWithin_iff_stopsBehind (hu : u.length < k) :
    u ∈ g.firstWithin opened k w ↔ ∃ rest dropped, g.StopsBehind opened w u rest dropped := by
  induction opened, k, w using Grammar.firstWithin.induct g generalizing u with
  | case1 opened w => omega
  | case2 opened k =>
    rw [firstWithin, OrderedSet.mem_singleton]
    constructor
    · rintro rfl
      exact ⟨[], [], .nil⟩
    · rintro ⟨_, _, ⟨⟩⟩
      rfl
  | case3 opened k t w ih =>
    rw [firstWithin, WordSet.mem_concat_singleton]
    constructor
    · rintro (⟨hempty, rfl⟩ | ⟨v, hv, rfl⟩)
      · have hk : 1 ≤ k := Nat.le_of_lt_succ hu
        exact ⟨w, [], .stuck ((firstWithin_eq_empty_iff hk).1 hempty)⟩
      · obtain ⟨rest, dropped, h⟩ := (ih (Nat.lt_of_succ_lt_succ hu)).1 hv
        exact ⟨rest, dropped, .terminal h⟩
    · rintro ⟨rest, dropped, h⟩
      cases h with
      | stuck h =>
        have hk : 1 ≤ k := Nat.le_of_lt_succ hu
        exact .inl ⟨(firstWithin_eq_empty_iff hk).2 h, rfl⟩
      | @terminal _ _ _ _ _ v h =>
        exact .inr ⟨v, (ih (Nat.lt_of_succ_lt_succ hu)).2 ⟨rest, dropped, h⟩, rfl⟩
  | case4 opened k a w ha =>
    rw [firstWithin_nonterminal, if_pos ha]
    constructor
    · intro h
      exact absurd h (OrderedSet.not_mem_empty u)
    · rintro ⟨_, _, h⟩
      cases h with
      | nonterminal hnot _ _ => exact absurd ha hnot
  | case5 opened k a w ha ihRest ihRight =>
    have hread : ∀ p ∈ g.productionsOf a,
        (u ∈ g.firstWithin (opened.insert a) (k + 1) (p.readOn w) ↔
          ∃ rest dropped, g.StopsBehind (opened.insert a) (p.readOn w) u rest dropped) := by
      intro p hp
      rw [Production.readOn]
      split
      · exact ihRest hu
      · exact ihRight p hp hu
    rw [firstWithin_of_not_mem ha, WordSet.mem_unionOf]
    constructor
    · rintro ⟨p, hp, h⟩
      obtain ⟨rest, dropped, h⟩ := (hread p hp).1 h
      exact ⟨rest, dropped ++ p.leftOut w, .nonterminal ha hp h⟩
    · rintro ⟨_, _, h⟩
      cases h with
      | @nonterminal _ _ p _ _ _ _ _ hp h => exact ⟨p, hp, (hread p hp).2 ⟨_, _, h⟩⟩

/-- What is read in place of a nonterminal and what is left out are derived from it together. -/
theorem derives_readOn {p : Production} (hp : p ∈ g.productionsOf a) :
    g.Derives (.nonterminal a :: w) (p.readOn w ++ p.leftOut w) := by
  have hstep : g.Derives (.nonterminal a :: w) (p.right ++ w) := .of_mem_productionsOf hp
  unfold Production.readOn Production.leftOut
  split
  · rename_i hl
    have hright : p.right = [] := List.isEmpty_iff.1 hl
    rw [hright] at hstep
    simpa using hstep
  · exact hstep

/-- The word, what is left behind it and what has been left out are derived from the form. -/
theorem StopsBehind.derives (h : g.StopsBehind opened w u rest dropped) :
    g.Derives w (Word.toForm u ++ (rest ++ dropped)) := by
  induction h with
  | nil => exact .refl []
  | stuck _ =>
    rw [List.append_nil]
    exact .refl _
  | @terminal _ t _ _ _ _ _ ih => exact ih.append_left [.terminal t]
  | @nonterminal _ _ p w _ _ _ _ hp _ ih =>
    have hread := (derives_readOn (w := w) hp).trans (ih.append_right (p.leftOut w))
    simpa using hread

/-! ## The law of short words -/

variable (g) in
/-- **The law of short words.** The words of fewer than `k` terminals that begin a form are those behind
which reading it stops, and what is read is derived together with what is left of the form and what
was dropped on the way. So there is one only if a word of fewer than `k` terminals is derived from
the form, or reading stopped in front of a part of the form at which it was stuck, or the form behind
some nonterminal was dropped. -/
theorem first_short {k : Nat} {w : Form} {u : Word} (hu : u.length < k) :
    (u ∈ g.first k w ↔ ∃ rest dropped, g.StopsBehind ∅ w u rest dropped) ∧
    (∀ rest dropped, g.StopsBehind ∅ w u rest dropped →
      g.Derives w (Word.toForm u ++ (rest ++ dropped))) ∧
    (u ∈ g.first k w →
      (∃ v : Word, v.length < k ∧ g.Derives w (Word.toForm v)) ∨
      ∃ rest dropped, g.StopsBehind ∅ w u rest dropped ∧ (rest ≠ [] ∨ dropped ≠ [])) := by
  have hiff : u ∈ g.first k w ↔ ∃ rest dropped, g.StopsBehind ∅ w u rest dropped := by
    rw [first_eq_firstWithin]
    exact mem_firstWithin_iff_stopsBehind hu
  refine ⟨hiff, fun _ _ h => h.derives, fun hmem => ?_⟩
  obtain ⟨rest, dropped, h⟩ := hiff.1 hmem
  by_cases hread : rest = [] ∧ dropped = []
  · have hd := h.derives
    rw [hread.1, hread.2, List.append_nil, List.append_nil] at hd
    exact .inl ⟨u, hu, hd⟩
  · exact .inr ⟨rest, dropped, h, Classical.not_and_iff_not_or_not.1 hread⟩

open Sample in
theorem first_short_nested :
    let w : Form := [.terminal Sample.a, .nonterminal S, .terminal b]
    [Sample.a, c].length < 3 ∧ [Sample.a, c] ∈ nested.first 3 w ∧
      nested.StopsBehind ∅ w [Sample.a, c] [] [.terminal b] ∧
      nested.Derives w [.terminal Sample.a, .terminal c, .terminal b] := by
  intro w
  have hlength : [Sample.a, c].length < 3 := by decide
  have hstops : nested.StopsBehind ∅ w [Sample.a, c] [] [.terminal b] := by
    have hleaf : (⟨S, [.terminal c]⟩ : Production) ∈ nested.productionsOf S := by decide
    exact .terminal (.nonterminal (by decide) hleaf (.terminal .nil))
  obtain ⟨hiff, hderives, -⟩ := nested.first_short (w := w) hlength
  exact ⟨hlength, hiff.2 ⟨_, _, hstops⟩, hstops, hderives _ _ hstops⟩

open Sample in
/-- From `aSb`, by `S -> aSb | c`, no word of fewer than three terminals is derived, but two words of
two terminals begin it: `aa`, behind which `S` is open, and `ac`, behind which `b` is dropped. So a
short word does not tell that a short word is derived. -/
theorem short_words_nested :
    let w : Form := [.terminal Sample.a, .nonterminal S, .terminal b]
    (∀ s ∈ w, s.DeclaredIn nested.nonterminals nested.terminals) ∧
      nested.first 3 w = .ofList [[Sample.a, Sample.a], [Sample.a, c]] ∧
      ¬ ∀ u ∈ nested.first 3 w, u.length < 3 →
        ∃ v : Word, v.length < 3 ∧ nested.Derives w (Word.toForm v) := by
  intro w
  have hfirst : nested.first 3 w = .ofList [[Sample.a, Sample.a], [Sample.a, c]] := by decide
  refine ⟨by decide, hfirst, fun hlaw => ?_⟩
  have hmem : [Sample.a, c] ∈ nested.first 3 w := by
    rw [hfirst]
    decide
  obtain ⟨v, hv, hd⟩ := hlaw _ hmem (by decide)
  -- no production of the grammar shortens a form
  have hright : ∀ p ∈ nested.productions, 1 ≤ p.right.length := by decide
  have hlength : ∀ y, nested.Derives w y → 3 ≤ y.length := by
    intro y hy
    induction hy with
    | refl => decide
    | tail _ hstep ih =>
      obtain @⟨p, l, r, hp⟩ := hstep
      have hp := hright p hp
      simp only [List.length_append, List.length_cons] at ih ⊢
      omega
  have hle := hlength _ hd
  rw [Word.length_toForm] at hle
  omega

end Grammar

end TopDown
