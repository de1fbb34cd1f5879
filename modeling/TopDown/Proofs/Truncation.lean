import TopDown.Lookahead.Follow
import TopDown.Proofs.Samples

/-!
# Truncation of the lookahead

Looking at fewer terminals shows the beginnings of what more terminals show. The words for `j` are
those for `k` cut to length `j`, for all `1 ≤ j ≤ k`, in spite of the empty set that counts as a
unit, the rests of forms that are dropped and the nonterminals that are not opened again.

* `WordSet.truncate`, and how it passes through the ways to make a set of words;
* `firstWithin_append_congr`: of a word behind a form only the first `k` terminals count;
* `firstWithin_truncate`, `followWithin_truncate`, `lookAhead_truncate`;
* `exists_common_of_le`: a common lookahead word leaves one at every shorter length;
* **`lookahead_coherent`**.
-/

namespace TopDown

namespace WordSet

/-- The words of a set, cut to their first `j` terminals. -/
def truncate (j : Nat) (s : WordSet) : WordSet := .ofList (s.toList.map (·.take j))

variable {j : Nat} {s : WordSet} {u w : Word}

@[simp] theorem mem_truncate : u ∈ s.truncate j ↔ ∃ v ∈ s, v.take j = u := OrderedSet.mem_image

@[simp] theorem truncate_empty : (∅ : WordSet).truncate j = ∅ := rfl

theorem truncate_singleton : ({u} : WordSet).truncate j = {u.take j} := rfl

theorem truncate_union {t : WordSet} : (s ∪ t).truncate j = s.truncate j ∪ t.truncate j :=
  OrderedSet.image_union

theorem truncate_unionOf {α : Type} {l : List α} {f : α → WordSet} :
    (unionOf l f).truncate j = unionOf l fun a => (f a).truncate j := image_unionOf

theorem exists_mem_of_ne_empty (h : s ≠ ∅) : ∃ u, u ∈ s := by
  refine Classical.byContradiction fun hnone => h ?_
  ext u
  exact ⟨fun hu => absurd ⟨u, hu⟩ hnone, nofun⟩

/-- Behind a word, truncation reaches the set only with what the word leaves of it. -/
theorem truncate_concat_singleton :
    (concat {u} s).truncate (u.length + j) = concat {u} (s.truncate j) := by
  have halone : u.take (u.length + j) = u := List.take_of_length_le (by omega)
  have hfront : ∀ v : Word, (u ++ v).take (u.length + j) = u ++ v.take j := fun v =>
    List.take_length_add_append j
  exact image_concat_singleton halone hfront

/-- Words cut to nothing add nothing to the word in front of them. -/
theorem concat_singleton_truncate_zero : concat {u} (s.truncate 0) = {u} := by
  by_cases hs : s = ∅
  · subst hs
    exact concat_empty _
  · have hzero : s.truncate 0 = {[]} := by
      ext w
      rw [mem_truncate, OrderedSet.mem_singleton]
      constructor
      · intro h
        obtain ⟨v, -, hw⟩ := h
        rw [← hw, List.take_zero]
      · intro hw
        obtain ⟨v, hv⟩ := exists_mem_of_ne_empty hs
        exact ⟨v, hv, by rw [hw, List.take_zero]⟩
    rw [hzero]
    exact congrArg (fun v => ({v} : WordSet)) (List.append_nil u)

end WordSet

namespace Grammar

variable {g : Grammar} {opened : Opened} {j k : Nat}

/-! ## The words that begin a form -/

theorem firstWithin_toForm (u : Word) :
    g.firstWithin opened (k + 1) (Word.toForm u) = {u.take (k + 1)} := by
  induction u generalizing k with
  | nil => rw [Word.toForm, List.map_nil, firstWithin, List.take_nil]
  | cons t u ih =>
    rw [Word.toForm, List.map_cons, firstWithin, List.take_succ_cons]
    cases k with
    | zero => rw [firstWithin, WordSet.concat_empty, List.take_zero]
    | succ k =>
      rw [← Word.toForm, ih]
      rfl

/-- **Of a word behind a form, only its first `k` terminals count.** -/
theorem firstWithin_append_congr {u v : Word} (w : Form) (h : u.take k = v.take k) :
    g.firstWithin opened k (w ++ Word.toForm u) = g.firstWithin opened k (w ++ Word.toForm v) := by
  induction opened, k, w using Grammar.firstWithin.induct g with
  | case1 opened w => rw [firstWithin, firstWithin]
  | case2 opened k =>
    rw [List.nil_append, List.nil_append, firstWithin_toForm, firstWithin_toForm, h]
  | case3 opened k t w ih =>
    have hk : u.take k = v.take k := by
      simpa [List.take_take] using congrArg (List.take k) h
    rw [List.cons_append, List.cons_append, firstWithin, firstWithin, ih hk]
  | case4 opened k a w ha =>
    rw [List.cons_append, List.cons_append, firstWithin_nonterminal, firstWithin_nonterminal,
      if_pos ha, if_pos ha]
  | case5 opened k a w ha ihRest ihRight =>
    rw [List.cons_append, List.cons_append, firstWithin_nonterminal, firstWithin_nonterminal,
      if_neg ha, if_neg ha]
    refine WordSet.unionOf_congr fun p hp => ?_
    split
    · exact ihRest h
    · rfl

/-- The words that begin a form for `j` are those for `k`, cut to length `j`. -/
theorem firstWithin_truncate (w : Form) (hj : 1 ≤ j) (hk : j ≤ k) :
    g.firstWithin opened j w = (g.firstWithin opened k w).truncate j := by
  obtain ⟨j, rfl⟩ : ∃ i, j = i + 1 := ⟨j - 1, by omega⟩
  induction opened, k, w using Grammar.firstWithin.induct g generalizing j with
  | case1 opened w => omega
  | case2 opened k => rw [firstWithin, firstWithin, WordSet.truncate_singleton, List.take_nil]
  | case3 opened k t w ih =>
    rw [firstWithin, firstWithin, Nat.add_comm j 1,
      show 1 + j = [t].length + j from rfl, WordSet.truncate_concat_singleton]
    cases j with
    | zero =>
      -- with nothing left to look at there is no word, where truncation leaves the empty one
      rw [firstWithin, WordSet.concat_empty, WordSet.concat_singleton_truncate_zero]
    | succ j => rw [ih j (by omega) (by omega)]
  | case4 opened k a w ha =>
    rw [firstWithin_nonterminal, firstWithin_nonterminal, if_pos ha, if_pos ha,
      WordSet.truncate_empty]
  | case5 opened k a w ha ihRest ihRight =>
    rw [firstWithin_nonterminal, firstWithin_nonterminal, if_neg ha, if_neg ha,
      WordSet.truncate_unionOf]
    refine WordSet.unionOf_congr fun p hp => ?_
    split
    · exact ihRest j hj hk
    · exact ihRight p hp j hj hk

theorem first_append_congr {u v : Word} (w : Form) (h : u.take k = v.take k) :
    g.first k (w ++ Word.toForm u) = g.first k (w ++ Word.toForm v) := by
  rw [first_eq_firstWithin, first_eq_firstWithin, firstWithin_append_congr w h]

theorem first_truncate (w : Form) (hj : 1 ≤ j) (hk : j ≤ k) :
    g.first j w = (g.first k w).truncate j := by
  rw [first_eq_firstWithin, first_eq_firstWithin, firstWithin_truncate w hj hk]

/-! ## The words that follow a nonterminal -/

theorem mem_firstBefore {w : Form} {outer : WordSet} {u : Word} :
    u ∈ g.firstBefore k w outer ↔ ∃ f ∈ outer, u ∈ g.first k (w ++ Word.toForm f) := by
  rw [firstBefore, OrderedSet.mem_flatMap]

theorem endOfInput_truncate (a : Nonterminal) (hk : j ≤ k) :
    g.endOfInput j a = (g.endOfInput k a).truncate j := by
  unfold endOfInput
  split
  · rw [WordSet.truncate_singleton, List.take_replicate, Nat.min_eq_left hk]
  · rfl

theorem firstBefore_truncate (w : Form) (outer : WordSet) (hj : 1 ≤ j) (hk : j ≤ k) :
    g.firstBefore j w (outer.truncate j) = (g.firstBefore k w outer).truncate j := by
  -- cutting a word behind the form to length `j` is not seen by the words for `j`
  have hcut : ∀ f : Word, g.first j (w ++ Word.toForm (f.take j)) =
      (g.first k (w ++ Word.toForm f)).truncate j := by
    intro f
    have htwice : (f.take j).take j = f.take j := by rw [List.take_take, Nat.min_self]
    rw [first_append_congr w htwice, first_truncate _ hj hk]
  exact OrderedSet.flatMap_image fun f _ => hcut f

/-- The words that follow a nonterminal for `j` are those for `k`, cut to length `j`. -/
theorem followWithin_truncate (a : Nonterminal) (hj : 1 ≤ j) (hk : j ≤ k) :
    g.followWithin opened j a = (g.followWithin opened k a).truncate j := by
  induction opened, a using Grammar.followWithin.induct g with
  | case1 opened a ha =>
    rw [followWithin_eq, followWithin_eq, if_pos ha, if_pos ha, endOfInput_truncate a hk]
  | case2 opened a ha ih =>
    rw [followWithin_eq, followWithin_eq, if_neg ha, if_neg ha, WordSet.truncate_union,
      WordSet.truncate_unionOf, endOfInput_truncate a hk]
    congr 1
    refine WordSet.unionOf_congr fun p hp => ?_
    split
    · rfl
    · rw [ih p hp ‹_›, firstBefore_truncate _ _ hj hk]

theorem follow_truncate (a : Nonterminal) (hj : 1 ≤ j) (hk : j ≤ k) :
    g.follow j a = (g.follow k a).truncate j := by
  rw [follow_eq_followWithin, follow_eq_followWithin, followWithin_truncate a hj hk]

/-! ## The lookahead -/

theorem lookAhead_of_pos (p : Production) (hk : 1 ≤ k) :
    g.lookAhead k p = g.firstBefore k p.right (g.follow k p.left) := by
  rw [lookAhead, if_neg (by omega)]

theorem lookAhead_truncate (p : Production) (hj : 1 ≤ j) (hk : j ≤ k) :
    g.lookAhead j p = (g.lookAhead k p).truncate j := by
  rw [lookAhead_of_pos p hj, lookAhead_of_pos p (Nat.le_trans hj hk), follow_truncate _ hj hk,
    firstBefore_truncate _ _ hj hk]

/-- A common lookahead word leaves one at every shorter length. -/
theorem exists_common_of_le {p q : Production} (hj : 1 ≤ j) (hk : j ≤ k)
    (h : ∃ u, u ∈ g.lookAhead k p ∧ u ∈ g.lookAhead k q) :
    ∃ u, u ∈ g.lookAhead j p ∧ u ∈ g.lookAhead j q := by
  obtain ⟨u, hp, hq⟩ := h
  have hp' : u.take j ∈ (g.lookAhead k p).truncate j := WordSet.mem_truncate.2 ⟨u, hp, rfl⟩
  have hq' : u.take j ∈ (g.lookAhead k q).truncate j := WordSet.mem_truncate.2 ⟨u, hq, rfl⟩
  rw [lookAhead_truncate p hj hk, lookAhead_truncate q hj hk]
  exact ⟨u.take j, hp', hq'⟩

variable (g) in
/-- **The lookahead for `j` is the lookahead for `k` cut to length `j`**: for the words that begin a
form, for those that follow a nonterminal and for those that select a production. So two productions
that share a lookahead word of length `k` share one of every length down to 1. -/
theorem lookahead_coherent (hj : 1 ≤ j) (hk : j ≤ k) :
    (∀ w, g.first j w = (g.first k w).truncate j) ∧
      (∀ a, g.follow j a = (g.follow k a).truncate j) ∧
      (∀ p, g.lookAhead j p = (g.lookAhead k p).truncate j) ∧
      ∀ p q, (∃ u, u ∈ g.lookAhead k p ∧ u ∈ g.lookAhead k q) →
        ∃ u, u ∈ g.lookAhead j p ∧ u ∈ g.lookAhead j q :=
  ⟨fun w => first_truncate w hj hk, fun a => follow_truncate a hj hk,
    fun p => lookAhead_truncate p hj hk, fun _ _ => exists_common_of_le hj hk⟩

open Sample in
theorem lookahead_coherent_lists :
    1 ≤ 2 ∧ 2 ≤ 3 ∧
      (∀ w, lists.first 2 w = (lists.first 3 w).truncate 2) ∧
      lists.follow 3 A = .ofList [[b, x], [b, y]] ∧
      lists.follow 2 A = (lists.follow 3 A).truncate 2 ∧
      lists.lookAhead 3 ⟨S, [.terminal d]⟩ = {[d, .endMark, .endMark]} ∧
      lists.lookAhead 2 ⟨S, [.terminal d]⟩ =
        (lists.lookAhead 3 ⟨S, [.terminal d]⟩).truncate 2 := by
  obtain ⟨hfirst, hfollow, hlookAhead, -⟩ :=
    lists.lookahead_coherent (show 1 ≤ 2 by decide) (show 2 ≤ 3 by decide)
  exact ⟨by decide, by decide, hfirst, by decide, hfollow A, by decide, hlookAhead _⟩

end Grammar

end TopDown
