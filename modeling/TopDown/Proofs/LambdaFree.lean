import TopDown.Proofs.Language

/-!
# One terminal of lookahead without empty right sides

Where no right side is empty, a form begins with what its first symbol begins with. The terminals
that a symbol can begin with are its left corners; a nonterminal that comes up inside itself on the
way adds none, so the walk that does not open it again finds them all. The lookahead then consists
of the left corners of the right sides, and a parser that it serves accepts the whole language.

* `Grammar.Corner`, `corner_nonterminal_iff`: no way to a left corner needs a nonterminal twice;
* `mem_firstWithin_one_iff`, **`first_one_exact`**: the words of one terminal that begin a form;
* `mem_lookAhead_one_iff`, `separates_one_iff`;
* **`ll1_correct`**.
-/

namespace TopDown

namespace Grammar

variable {g : Grammar} {opened : Opened} {t : Terminal} {x : Symbol} {w : Form}

/-- No right side is empty. -/
def LambdaFree (g : Grammar) : Prop := ∀ p ∈ g.productions, p.right ≠ []

theorem LambdaFree.exists_cons {a : Nonterminal} {p : Production} (h : g.LambdaFree)
    (hp : p ∈ g.productionsOf a) : ∃ x w, p.right = x :: w :=
  List.exists_cons_of_ne_nil (h p (g.mem_productionsOf.1 hp).1)

theorem LambdaFree.isLambda_eq_false {a : Nonterminal} {p : Production} (h : g.LambdaFree)
    (hp : p ∈ g.productionsOf a) : ¬ p.isLambda = true := fun hl =>
  h p (g.mem_productionsOf.1 hp).1 (List.isEmpty_iff.1 hl)

/-! ## Left corners -/

/-- The symbol can begin with a terminal, by first symbols of right sides and without the
nonterminals that are open. -/
inductive Corner (g : Grammar) (opened : Opened) (t : Terminal) : Symbol → Prop
  | terminal : Corner g opened t (.terminal t)
  | nonterminal {a : Nonterminal} {p : Production} {x : Symbol} {w : Form} : a ∉ opened →
      p ∈ g.productionsOf a → p.right = x :: w → Corner g opened t x →
      Corner g opened t (.nonterminal a)

theorem Corner.of_insert {a : Nonterminal} (h : g.Corner (opened.insert a) t x) :
    g.Corner opened t x := by
  induction h with
  | terminal => exact .terminal
  | @nonterminal b p y w hb hp hright _ ih =>
    have hnot : b ∉ opened := fun hmem => hb (OrderedSet.mem_insert.2 (.inr hmem))
    exact .nonterminal hnot hp hright ih

/-- A way to a left corner avoids `a`, or its part behind the last `a` does. -/
theorem Corner.insert_or {a : Nonterminal} (h : g.Corner opened t x) :
    g.Corner (opened.insert a) t x ∨
      ∃ p ∈ g.productionsOf a, ∃ y w, p.right = y :: w ∧ g.Corner (opened.insert a) t y := by
  induction h with
  | terminal => exact .inl .terminal
  | @nonterminal b p y w hb hp hright _ ih =>
    rcases ih with ih | ih
    · by_cases hba : b = a
      · exact .inr ⟨p, hba ▸ hp, y, w, hright, ih⟩
      · have hnot : b ∉ opened.insert a := by
          intro hmem
          rcases OrderedSet.mem_insert.1 hmem with h | h
          · exact hba h
          · exact hb h
        exact .inl (.nonterminal hnot hp hright ih)
    · exact .inr ih

/-- **A way to a left corner never needs a nonterminal twice.** -/
theorem corner_nonterminal_iff {a : Nonterminal} :
    g.Corner opened t (.nonterminal a) ↔ a ∉ opened ∧
      ∃ p ∈ g.productionsOf a, ∃ y w, p.right = y :: w ∧ g.Corner (opened.insert a) t y := by
  constructor
  · intro h
    have ha : a ∉ opened := by cases h; assumption
    refine ⟨ha, ?_⟩
    rcases h.insert_or (a := a) with h | h
    · cases h with
      | nonterminal hnot _ _ _ => exact absurd (OrderedSet.mem_insert.2 (.inl rfl)) hnot
    · exact h
  · intro h
    obtain ⟨ha, p, hp, y, w, hright, h⟩ := h
    exact .nonterminal ha hp hright h.of_insert

theorem corner_terminal_iff {s : Terminal} : g.Corner opened t (.terminal s) ↔ t = s := by
  constructor
  · intro h
    cases h with
    | terminal => rfl
  · intro h
    subst h
    exact .terminal

/-- The left corners of the first symbol are the terminals that derived forms begin with. -/
theorem corner_iff_derives (h : g.LambdaFree) :
    g.Corner ∅ t x ↔ ∃ y, g.Derives (x :: w) (.terminal t :: y) := by
  constructor
  · intro hc
    induction hc generalizing w with
    | terminal => exact ⟨w, .refl _⟩
    | @nonterminal a p y v _ hp hright _ ih =>
      obtain ⟨z, hz⟩ := ih (w := v ++ w)
      have hstep := Derives.of_mem_productionsOf (x := w) hp
      rw [hright] at hstep
      exact ⟨z, hstep.trans hz⟩
  · intro hsome
    obtain ⟨y, hd⟩ := hsome
    have key : ∀ z, g.Derives z (.terminal t :: y) → ∃ x w, z = x :: w ∧ g.Corner ∅ t x := by
      intro z hz
      induction hz using Relation.ReflTransGen.head_induction_on with
      | refl => exact ⟨_, y, rfl, .terminal⟩
      | head hstep _ ih =>
        obtain ⟨l, r, hp⟩ := hstep
        obtain ⟨x, w, hxw, hc⟩ := ih
        cases l with
        | nil =>
          obtain ⟨s, v, hright⟩ := List.exists_cons_of_ne_nil (h _ hp)
          rw [hright] at hxw
          cases hxw
          refine ⟨_, r, rfl, .nonterminal nofun (g.mem_productionsOf.2 ⟨hp, rfl⟩) hright hc⟩
        | cons s l =>
          cases hxw
          exact ⟨_, _, rfl, hc⟩
    obtain ⟨_, _, hxw, hc⟩ := key _ hd
    cases hxw
    exact hc

/-! ## Words of one terminal -/

/-- **The walk finds the left corners of the first symbol, and nothing else.** -/
theorem mem_firstWithin_one_iff (h : g.LambdaFree) {u : Word} :
    u ∈ g.firstWithin opened 1 (x :: w) ↔ ∃ t, u = [t] ∧ g.Corner opened t x := by
  induction hn : g.unopened opened using Nat.strong_induction_on generalizing opened x w with
  | _ n ih =>
    cases x with
    | terminal s =>
      rw [firstWithin, firstWithin, WordSet.concat_empty, OrderedSet.mem_singleton]
      simp only [corner_terminal_iff]
      constructor
      · intro hu
        exact ⟨s, hu, rfl⟩
      · intro hu
        obtain ⟨t, rfl, rfl⟩ := hu
        rfl
    | nonterminal a =>
      simp only [corner_nonterminal_iff]
      rw [firstWithin_nonterminal]
      split
      · rename_i ha
        refine ⟨fun hu => absurd hu (OrderedSet.not_mem_empty u), fun hc => ?_⟩
        obtain ⟨-, -, hnot, -⟩ := hc
        exact absurd ha hnot
      · rename_i ha
        have hright : ∀ p ∈ g.productionsOf a,
            (u ∈ if p.isLambda then g.firstWithin (opened.insert a) 1 w
              else g.firstWithin (opened.insert a) 1 p.right) ↔
            ∃ t, u = [t] ∧ ∃ y v, p.right = y :: v ∧ g.Corner (opened.insert a) t y := by
          intro p hp
          obtain ⟨y, v, hyv⟩ := h.exists_cons hp
          have hlt := unopened_insert_lt (g.mem_nonterminals_of_productionsOf hp) ha
          rw [if_neg (h.isLambda_eq_false hp), hyv, ih _ (hn ▸ hlt) rfl]
          constructor
          · intro hc
            obtain ⟨t, hu, hc⟩ := hc
            exact ⟨t, hu, y, v, rfl, hc⟩
          · rintro ⟨t, hu, _, _, ⟨⟩, hc⟩
            exact ⟨t, hu, hc⟩
        rw [WordSet.mem_unionOf]
        constructor
        · intro hu
          obtain ⟨p, hp, hu⟩ := hu
          obtain ⟨t, hut, hc⟩ := (hright p hp).1 hu
          exact ⟨t, hut, ha, p, hp, hc⟩
        · intro hc
          obtain ⟨t, hut, -, p, hp, hc⟩ := hc
          exact ⟨p, hp, (hright p hp).2 ⟨t, hut, hc⟩⟩

/-- The words of one terminal that begin a form are those of the forms derived from it. -/
theorem mem_first_one_iff (h : g.LambdaFree) {u : Word} :
    u ∈ g.first 1 (x :: w) ↔ ∃ t y, u = [t] ∧ g.Derives (x :: w) (.terminal t :: y) := by
  simp only [first_eq_firstWithin, mem_firstWithin_one_iff h, corner_iff_derives h (w := w)]
  exact exists_congr fun t => exists_and_left.symm

/-- **Without empty right sides the words of one terminal are exact**: the terminals with which forms
derived from a form begin, also where nonterminals are left recursive. -/
theorem first_one_exact (hright : ∀ p ∈ g.productions, p.right ≠ []) (hw : w ≠ []) (u : Word) :
    u ∈ g.first 1 w ↔ ∃ t y, u = [t] ∧ g.Derives w (.terminal t :: y) := by
  obtain ⟨x, v, rfl⟩ := List.exists_cons_of_ne_nil hw
  exact mem_first_one_iff hright

open Sample in
theorem first_one_exact_mutuallyLeftRecursive :
    (∀ p ∈ mutuallyLeftRecursive.productions, p.right ≠ []) ∧
      [Symbol.nonterminal A, .terminal b] ≠ [] ∧
      (∃ y, mutuallyLeftRecursive.Derives [.nonterminal A, .terminal b] (.terminal c :: y)) ∧
      (∃ y, mutuallyLeftRecursive.Derives [.nonterminal A, .terminal b] (.terminal d :: y)) ∧
      ¬ ∃ y, mutuallyLeftRecursive.Derives [.nonterminal A, .terminal b] (.terminal a :: y) := by
  have hright : ∀ p ∈ mutuallyLeftRecursive.productions, p.right ≠ [] := by decide
  have hw : [Symbol.nonterminal A, .terminal b] ≠ [] := by decide
  have hword : mutuallyLeftRecursive.first 1 [.nonterminal A, .terminal b] = .ofList [[c], [d]] := by
    decide
  have hexact := first_one_exact hright hw
  rw [hword] at hexact
  refine ⟨hright, hw, ?_, ?_, fun ⟨y, hy⟩ => ?_⟩
  · obtain ⟨_, y, ⟨⟩, hy⟩ := (hexact [c]).1 (by decide)
    exact ⟨y, hy⟩
  · obtain ⟨_, y, ⟨⟩, hy⟩ := (hexact [d]).1 (by decide)
    exact ⟨y, hy⟩
  · exact absurd ((hexact [a]).2 ⟨a, y, rfl, hy⟩) (by decide)

/-- The lookahead of a production, in front of whatever follows its left side. -/
theorem mem_lookAhead_one_iff (h : g.LambdaFree) {a : Nonterminal} {p : Production}
    (hp : p ∈ g.productionsOf a) (hfollow : g.follow 1 a ≠ ∅) {u : Word} :
    u ∈ g.lookAhead 1 p ↔ ∃ t y, u = [t] ∧ g.Derives p.right (.terminal t :: y) := by
  obtain ⟨x, w, hright⟩ := h.exists_cons hp
  obtain ⟨f, hf⟩ := WordSet.exists_mem_of_ne_empty hfollow
  -- only the first symbol of the right side counts, not the word that follows
  have hfirst : ∀ v : Word, u ∈ g.first 1 (x :: w ++ Word.toForm v) ↔ u ∈ g.first 1 (x :: w) := by
    intro v
    rw [List.cons_append, first_eq_firstWithin, first_eq_firstWithin, mem_firstWithin_one_iff h,
      mem_firstWithin_one_iff h]
  rw [lookAhead_of_pos p (Nat.le_refl 1), mem_firstBefore, (g.mem_productionsOf.1 hp).2, hright]
  simp only [hfirst, ← mem_first_one_iff h]
  exact ⟨fun ⟨_, _, hu⟩ => hu, fun hu => ⟨f, hf, hu⟩⟩

/-- One terminal tells the alternatives apart if no two of them derive forms that begin alike. -/
theorem separates_one_iff (h : g.LambdaFree) (hfollow : ∀ a ∈ g.nonterminals, g.follow 1 a ≠ ∅) :
    g.Separates 1 ↔ ∀ a ∈ g.nonterminals, ∀ p ∈ g.productionsOf a, ∀ q ∈ g.productionsOf a,
      p ≠ q → ¬ ∃ t y z, g.Derives p.right (.terminal t :: y) ∧
        g.Derives q.right (.terminal t :: z) := by
  refine forall₂_congr fun a ha => forall₂_congr fun p hp => forall₂_congr fun q hq =>
    forall_congr' fun _ => ?_
  simp only [mem_lookAhead_one_iff h hp (hfollow a ha), mem_lookAhead_one_iff h hq (hfollow a ha)]
  constructor
  · intro hno hsome
    obtain ⟨t, y, z, hy, hz⟩ := hsome
    exact hno [t] ⟨t, y, rfl, hy⟩ ⟨t, z, rfl, hz⟩
  · rintro hno _ ⟨t, y, rfl, hy⟩ ⟨_, z, ⟨⟩, hz⟩
    exact hno ⟨t, y, z, hy, hz⟩

/-! ## The parser -/

theorem LambdaFree.ne_nil_of_derives {x y : Form} (h : g.LambdaFree) (hx : x ≠ [])
    (hd : g.Derives x y) : y ≠ [] := by
  induction hd with
  | refl => exact hx
  | tail _ hstep _ =>
    obtain ⟨l, r, hp⟩ := hstep
    intro hnil
    obtain ⟨-, hnil⟩ := List.append_eq_nil_iff.1 hnil
    obtain ⟨hright, -⟩ := List.append_eq_nil_iff.1 hnil
    exact h _ hp hright

/-- In front of what a right side consumes stands one of the terminals that it begins with. -/
theorem take_one_mem_lookAhead (h : g.LambdaFree) {a : Nonterminal} {p : Production} {u v : Word}
    {ds : List Production} (hp : p ∈ g.productionsOf a) (hfollow : g.follow 1 a ≠ ∅)
    (hu : Consumes g.selection p.right u ds v) : u.take 1 ∈ g.lookAhead 1 p := by
  obtain ⟨r, rfl, hr⟩ := hu.derives fun _ _ _ hq => hq
  have hright : p.right ≠ [] := h p (g.mem_productionsOf.1 hp).1
  cases r with
  | nil => exact absurd rfl (h.ne_nil_of_derives hright hr)
  | cons t r => exact (mem_lookAhead_one_iff h hp hfollow).2 ⟨t, _, rfl, hr⟩

/-- **Without empty right sides one terminal of lookahead is exact**: the search succeeds with it iff
no two alternatives of a nonterminal derive forms that begin with the same terminal, and the parser
then accepts the whole language of the grammar. -/
theorem ll1_correct (hright : ∀ p ∈ g.productions, p.right ≠ [])
    (hfollow : ∀ a ∈ g.nonterminals, g.follow 1 a ≠ ∅) :
    ((∃ k, (g.findLookahead (some 1)).value = .ok k) ↔
      ∀ a ∈ g.nonterminals, ∀ p ∈ g.productionsOf a, ∀ q ∈ g.productionsOf a, p ≠ q →
        ¬ ∃ t y z, g.Derives p.right (.terminal t :: y) ∧ g.Derives q.right (.terminal t :: z)) ∧
    ((∃ k, (g.findLookahead (some 1)).value = .ok k) →
      ∃ P, (g.toParser (some 1)).value = .ok P ∧ ∀ text, P.accepts text = true ↔
        ∃ w : Word, text.toList = w.map Terminal.char ∧ (∀ x ∈ w, x ≠ .endMark) ∧
          g.Derives [.nonterminal g.start] (Word.toForm w)) := by
  refine ⟨(findLookahead_isOk_iff (Nat.le_refl 1)).trans (separates_one_iff hright hfollow), ?_⟩
  intro hfound
  obtain ⟨k, hk⟩ := hfound
  have hwindow : ∀ a p u ds v, p ∈ g.productionsOf a → Consumes g.selection p.right u ds v →
      u.take k ∈ g.lookAhead k p := by
    intro a p u ds v hp hu
    have ha : a ∈ g.nonterminals := g.mem_nonterminals_of_productionsOf hp
    rcases Nat.le_one_iff_eq_zero_or_eq_one.1 (findLookahead_le hk) with rfl | rfl
    · rw [lookAhead, if_pos rfl, List.take_zero]
      exact OrderedSet.mem_singleton.2 rfl
    · exact take_one_mem_lookAhead hright hp (hfollow a ha) hu
  refine ⟨_, toParser_of_findLookahead hk, fun text => ?_⟩
  exact accepts_iff_derives (separates_of_findLookahead hk) hwindow

open Sample in
theorem ll1_correct_nested :
    (∀ p ∈ nested.productions, p.right ≠ []) ∧ (∀ a ∈ nested.nonterminals, nested.follow 1 a ≠ ∅) ∧
      (∃ k, (nested.findLookahead (some 1)).value = .ok k) ∧
      (¬ ∃ t y z, nested.Derives [.terminal a, .nonterminal S, .terminal b] (.terminal t :: y) ∧
        nested.Derives [.terminal c] (.terminal t :: z)) ∧
      ∃ P, (nested.toParser (some 1)).value = .ok P ∧ P.accepts "acb" = true := by
  have hright : ∀ p ∈ nested.productions, p.right ≠ [] := by decide
  have hfollow : ∀ a ∈ nested.nonterminals, nested.follow 1 a ≠ ∅ := by
    have : ∀ a ∈ nested.nonterminals.toList, nested.follow 1 a ≠ ∅ := by decide
    exact this
  have hfound : ∃ k, (nested.findLookahead (some 1)).value = .ok k := ⟨1, by decide +kernel⟩
  obtain ⟨hseparated, haccepts⟩ := ll1_correct hright hfollow
  refine ⟨hright, hfollow, hfound, ?_, ?_⟩
  · exact hseparated.1 hfound S (by decide) ⟨S, [.terminal a, .nonterminal S, .terminal b]⟩
      (by decide) ⟨S, [.terminal c]⟩ (by decide) (by decide)
  · obtain ⟨P, hP, haccepts⟩ := haccepts hfound
    refine ⟨P, hP, (haccepts "acb").2 ⟨[a, c, b], rfl, by decide, ?_⟩⟩
    have houter : nested.Derives [.nonterminal S] [.terminal a, .nonterminal S, .terminal b] :=
      .of_mem_productionsOf (x := []) (p := ⟨S, [.terminal a, .nonterminal S, .terminal b]⟩)
        (by decide)
    have hinner : nested.Derives [.nonterminal S, .terminal b] [.terminal c, .terminal b] :=
      .of_mem_productionsOf (x := [.terminal b]) (p := ⟨S, [.terminal c]⟩) (by decide)
    exact houter.trans (hinner.append_left [.terminal a])

end Grammar

end TopDown
