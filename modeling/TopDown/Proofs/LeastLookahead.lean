import Mathlib.Data.List.Pairwise
import Mathlib.Order.Bounds.Basic
import TopDown.Search
import TopDown.Proofs.Samples
import TopDown.Proofs.Truncation

/-!
# The search finds the least lookahead

The search raises `k` in the middle of a pass and compares the pairs that are left at the new `k`.
No lookahead is skipped: a conflict at `k` is one at every shorter length, so below the current `k`
no length tells all alternatives apart.

* `Grammar.Separates`: a length tells the alternatives of every nonterminal apart;
* `pairs_pairwise_iff`, `separates_iff`: a pass over the pairs of alternatives decides it;
* `searchFrom_cases`, what one round of the search does, and from it `searchFrom_eq_some` and
  `searchFrom_eq_none`, what the whole search finds;
* `findLookahead_eq_ok_iff`, `findLookahead_eq_error_iff`, `findLookahead_mono`;
* **`findLookahead_isLeast`**.
-/

namespace TopDown

/-! ## Pairs -/

/-- The pairs of a list are its sublists of length two. -/
theorem mem_pairs {α : Type} {a b : α} {l : List α} : (a, b) ∈ pairs l ↔ [a, b].Sublist l := by
  induction l with
  | nil => simp [pairs]
  | cons c l ih =>
    rw [pairs, List.mem_append, List.mem_map, ih]
    constructor
    · intro h
      rcases h with ⟨d, hd, h⟩ | h
      · cases h
        exact (List.singleton_sublist.2 hd).cons_cons _
      · exact h.cons _
    · intro h
      cases h with
      | cons _ h => exact .inr h
      | cons_cons _ h => exact .inl ⟨b, List.singleton_sublist.1 h, rfl⟩

theorem pairs_pairwise_iff {α : Type} {R : α → α → Prop} {l : List α} :
    (∀ c ∈ pairs l, R c.1 c.2) ↔ l.Pairwise R := by
  rw [List.pairwise_iff_forall_sublist]
  constructor
  · intro h a b hab
    exact h (a, b) (mem_pairs.2 hab)
  · intro h c hc
    exact h (mem_pairs.1 hc)

namespace Grammar

variable (g : Grammar)

/-- Lookahead `k` tells the alternatives of every nonterminal apart: no word of the lookahead
selects two of them. -/
def Separates (k : Nat) : Prop :=
  ∀ a ∈ g.nonterminals, ∀ p ∈ g.productionsOf a, ∀ q ∈ g.productionsOf a, p ≠ q →
    ∀ u ∈ g.lookAhead k p, u ∉ g.lookAhead k q

variable {g} {j k : Nat}

/-- **A longer lookahead tells apart what a shorter one does.** -/
theorem Separates.mono (h : g.Separates j) (hj : 1 ≤ j) (hk : j ≤ k) : g.Separates k := by
  intro a ha p hp q hq hpq u hup huq
  have hcommon : ∃ v, v ∈ g.lookAhead j p ∧ v ∈ g.lookAhead j q :=
    exists_common_of_le hj hk ⟨u, hup, huq⟩
  obtain ⟨v, hvp, hvq⟩ := hcommon
  exact h a ha p hp q hq hpq v hvp hvq

theorem isDeterministic_iff :
    g.isDeterministic = true ↔ ∀ a ∈ g.nonterminals, (g.productionsOf a).length = 1 := by
  unfold isDeterministic
  simp only [List.all_eq_true, beq_iff_eq, OrderedSet.mem_toList]

/-- With one production for every nonterminal there is nothing to tell apart. -/
theorem separates_of_isDeterministic (h : g.isDeterministic = true) : g.Separates k := by
  intro a ha p hp q hq hpq
  have hone : (g.productionsOf a).length = 1 := isDeterministic_iff.1 h a ha
  obtain ⟨r, hr⟩ := List.length_eq_one_iff.1 hone
  rw [hr, List.mem_singleton] at hp hq
  exact absurd (hp.trans hq.symm) hpq

/-! ## A pass over the pairs -/

theorem conflict_eq_false_iff {c : Alternatives} :
    g.conflict k c = false ↔ ∀ u ∈ g.lookAhead k c.1, u ∉ g.lookAhead k c.2 := by
  rw [conflict, Bool.not_eq_false', OrderedSet.disjoint_iff]

theorem nodup_productionsOf (a : Nonterminal) : (g.productionsOf a).Nodup :=
  g.nodup.sublist List.filter_sublist

/-- The pairs of alternatives decide what a lookahead tells apart. -/
theorem separates_iff : g.Separates k ↔ ∀ c ∈ g.alternatives, g.conflict k c = false := by
  unfold alternatives
  simp only [conflict_eq_false_iff, List.mem_flatMap, OrderedSet.mem_toList]
  constructor
  · intro h c hc
    obtain ⟨a, ha, hc⟩ := hc
    have hsub : [c.1, c.2].Sublist (g.productionsOf a) := mem_pairs.1 hc
    have hne : c.1 ≠ c.2 := by simpa using (nodup_productionsOf a).sublist hsub
    exact h a ha c.1 (hsub.subset (by simp)) c.2 (hsub.subset (by simp)) hne
  · intro h a ha
    have hpairs : (g.productionsOf a).Pairwise fun p q =>
        ∀ u ∈ g.lookAhead k p, u ∉ g.lookAhead k q :=
      pairs_pairwise_iff.1 fun c hc => h c ⟨a, ha, hc⟩
    -- of two alternatives either may be the one declared first
    have hsymm : Std.Symm fun p q => ∀ u ∈ g.lookAhead k p, u ∉ g.lookAhead k q :=
      ⟨fun _ _ hpq u huq hup => hpq u hup huq⟩
    intro p hp q hq hpq
    exact hpairs.forall hp hq hpq

theorem nextConflict?_eq_none_iff {todo : List Alternatives} :
    g.nextConflict? k todo = none ↔ ∀ c ∈ todo, g.conflict k c = false := by
  induction todo with
  | nil => simp [nextConflict?]
  | cons c todo ih =>
    rw [nextConflict?, List.forall_mem_cons]
    split
    · rename_i hc; simp [hc]
    · rename_i hc; simp [hc, ih]

theorem nextConflict?_eq_some {todo rest : List Alternatives} {c : Alternatives}
    (h : g.nextConflict? k todo = some (c, rest)) :
    c ∈ todo ∧ g.conflict k c = true ∧ rest ⊆ todo := by
  induction todo with
  | nil => cases h
  | cons d todo ih =>
    rw [nextConflict?] at h
    split at h
    · rename_i hd
      cases h
      exact ⟨List.mem_cons_self, hd, List.subset_cons_self _ _⟩
    · obtain ⟨hc, hconflict, hrest⟩ := ih h
      exact ⟨List.mem_cons_of_mem _ hc, hconflict,
        List.Subset.trans hrest (List.subset_cons_self _ _)⟩

/-! ## The search -/

/-- What one round of the search does: it ends at a lookahead that tells all alternatives apart, or
it goes on behind a pair in conflict at the next length, as far as there is room. -/
theorem searchFrom_cases {room : Nat} {todo : List Alternatives} {clean : Bool}
    (htodo : todo ⊆ g.alternatives) (hclean : clean = true → todo = g.alternatives) :
    (g.Separates k ∧ g.searchFrom room k todo clean = ⟨[.foundLookahead k], some k⟩) ∨
      ∃ c ∈ g.alternatives, ∃ rest ⊆ g.alternatives, g.conflict k c = true ∧
        g.searchFrom room k todo clean = (do
          Logged.tell (.sharedLookahead c.1 c.2 k)
          match room with
          | 0 => return none
          | room + 1 => g.searchFrom room (k + 1) rest false) := by
  have hagain : (if clean then [] else g.alternatives) ⊆ g.alternatives := by
    split
    · exact List.nil_subset _
    · exact List.Subset.refl _
  rw [searchFrom]
  match hnext : g.nextConflict? k todo <|> g.nextConflict? k (if clean then [] else g.alternatives)
    with
  | none =>
    rw [Option.orElse_eq_orElse, Option.orElse_eq_or, Option.or_eq_none_iff] at hnext
    obtain ⟨hnow, hthen⟩ := hnext
    rw [nextConflict?_eq_none_iff] at hnow hthen
    refine .inl ⟨separates_iff.2 ?_, rfl⟩
    cases clean with
    | true => exact hclean rfl ▸ hnow
    | false => exact hthen
  | some ((p, q), rest) =>
    rw [Option.orElse_eq_orElse, Option.orElse_eq_or, Option.or_eq_some_iff] at hnext
    refine .inr ⟨(p, q), ?_⟩
    rcases hnext with h | ⟨-, h⟩
    · obtain ⟨hc, hconflict, hrest⟩ := nextConflict?_eq_some h
      exact ⟨htodo hc, rest, List.Subset.trans hrest htodo, hconflict, rfl⟩
    · obtain ⟨hc, hconflict, hrest⟩ := nextConflict?_eq_some h
      exact ⟨hagain hc, rest, List.Subset.trans hrest hagain, hconflict, rfl⟩

theorem not_separates_of_conflict {c : Alternatives} (hc : c ∈ g.alternatives)
    (h : g.conflict k c = true) : ¬ g.Separates k := fun hsep => by
  rw [separates_iff.1 hsep c hc] at h
  cases h

/-- A search that ends well has met a conflict at every length that it passed. -/
theorem searchFrom_eq_some {room n : Nat} {todo : List Alternatives} {clean : Bool}
    (htodo : todo ⊆ g.alternatives) (hclean : clean = true → todo = g.alternatives)
    (h : (g.searchFrom room k todo clean).value = some n) :
    k ≤ n ∧ n ≤ k + room ∧ g.Separates n ∧ ∀ j, k ≤ j → j < n → ¬ g.Separates j := by
  induction room generalizing k todo clean with
  | zero =>
    rcases searchFrom_cases htodo hclean with ⟨hsep, heq⟩ | ⟨c, -, rest, -, -, heq⟩
    · rw [heq] at h
      cases h
      exact ⟨Nat.le_refl _, Nat.le_refl _, hsep, fun j hj hlt => by omega⟩
    · rw [heq] at h
      cases h
  | succ room ih =>
    rcases searchFrom_cases htodo hclean with ⟨hsep, heq⟩ | ⟨c, hc, rest, hrest, hconflict, heq⟩
    · rw [heq] at h
      cases h
      exact ⟨Nat.le_refl _, Nat.le_add_right _ _, hsep, fun j hj hlt => by omega⟩
    · rw [heq] at h
      obtain ⟨hle, hroom, hsep, hleast⟩ := ih hrest Bool.noConfusion h
      refine ⟨by omega, by omega, hsep, fun j hj hlt => ?_⟩
      rcases Nat.eq_or_lt_of_le hj with rfl | hj
      · exact not_separates_of_conflict hc hconflict
      · exact hleast j hj hlt

/-- A search that runs out of room has met a conflict at its last length. -/
theorem searchFrom_eq_none {room : Nat} {todo : List Alternatives} {clean : Bool}
    (htodo : todo ⊆ g.alternatives) (hclean : clean = true → todo = g.alternatives)
    (h : (g.searchFrom room k todo clean).value = none) : ¬ g.Separates (k + room) := by
  induction room generalizing k todo clean with
  | zero =>
    rcases searchFrom_cases htodo hclean with ⟨-, heq⟩ | ⟨c, hc, rest, -, hconflict, -⟩
    · rw [heq] at h
      cases h
    · exact not_separates_of_conflict hc hconflict
  | succ room ih =>
    rcases searchFrom_cases htodo hclean with ⟨-, heq⟩ | ⟨c, -, rest, hrest, -, heq⟩
    · rw [heq] at h
      cases h
    · rw [heq] at h
      have hlast : ¬ g.Separates (k + 1 + room) := ih hrest Bool.noConfusion h
      rwa [show k + (room + 1) = k + 1 + room by omega]

/-! ## The lookahead that is found -/

theorem findLookahead_of_isDeterministic (h : g.isDeterministic = true) (bound : Option Nat) :
    (g.findLookahead bound).value = .ok 0 := by
  unfold findLookahead
  rw [if_pos h]
  rfl

/-- Without a bound the search goes as far as the largest bound. -/
theorem findLookahead_eq_getD (bound : Option Nat) :
    g.findLookahead bound = g.findLookahead (some (bound.getD unbounded)) := by
  cases bound <;> rfl

theorem findLookahead_succ (h : ¬ g.isDeterministic = true) (room : Nat) :
    (g.findLookahead (some (room + 1))).value =
      (g.searchFrom room 1 g.alternatives true).value.elim (.error (.notLlk (room + 1))) .ok := by
  unfold findLookahead
  rw [if_neg h]
  rfl

/-- How the search within a bound ends, where some nonterminal has not exactly one production. -/
theorem findLookahead_cases (h : ¬ g.isDeterministic = true) (bound : Nat) :
    (∃ k, (g.findLookahead (some bound)).value = .ok k ∧
      IsLeast {k | 1 ≤ k ∧ g.Separates k} k ∧ k ≤ bound) ∨
    (g.findLookahead (some bound)).value = .error (.notLlk bound) ∧
      ∀ k, 1 ≤ k → k ≤ bound → ¬ g.Separates k := by
  cases bound with
  | zero =>
    refine .inr ⟨?_, fun k hk hle => by omega⟩
    rw [findLookahead, if_neg h]
    rfl
  | succ room =>
    rw [findLookahead_succ h]
    match hvalue : (g.searchFrom room 1 g.alternatives true).value with
    | some k =>
      obtain ⟨hpos, hle, hsep, hleast⟩ :=
        searchFrom_eq_some (List.Subset.refl _) (fun _ => rfl) hvalue
      have hlower : ∀ j, 1 ≤ j ∧ g.Separates j → k ≤ j := by
        intro j hj
        by_cases hlt : j < k
        · exact absurd hj.2 (hleast j hj.1 hlt)
        · omega
      exact .inl ⟨k, rfl, ⟨⟨hpos, hsep⟩, hlower⟩, by omega⟩
    | none =>
      have hlast : ¬ g.Separates (1 + room) :=
        searchFrom_eq_none (List.Subset.refl _) (fun _ => rfl) hvalue
      refine .inr ⟨rfl, fun k hk hle hsep => ?_⟩
      exact hlast (hsep.mono hk (by omega))

theorem findLookahead_eq_ok_iff (h : ¬ g.isDeterministic = true) {bound : Nat} :
    (g.findLookahead (some bound)).value = .ok k ↔
      IsLeast {k | 1 ≤ k ∧ g.Separates k} k ∧ k ≤ bound := by
  rcases findLookahead_cases h bound with ⟨n, hn, hleast, hle⟩ | ⟨he, hnone⟩
  · rw [hn, Except.ok.injEq]
    constructor
    · intro hnk
      exact ⟨hnk ▸ hleast, hnk ▸ hle⟩
    · intro hk
      exact hleast.unique hk.1
  · rw [he]
    constructor
    · intro hk
      cases hk
    · intro hk
      obtain ⟨⟨⟨hpos, hsep⟩, -⟩, hle⟩ := hk
      exact absurd hsep (hnone k hpos hle)

theorem findLookahead_eq_error_iff (h : ¬ g.isDeterministic = true) {bound : Nat} :
    (g.findLookahead (some bound)).value = .error (.notLlk bound) ↔
      ¬ ∃ k, IsLeast {k | 1 ≤ k ∧ g.Separates k} k ∧ k ≤ bound := by
  simp only [← findLookahead_eq_ok_iff h]
  rcases findLookahead_cases h bound with ⟨n, hn, -, -⟩ | ⟨he, -⟩
  · rw [hn]
    constructor
    · intro he
      cases he
    · intro hno
      exact absurd ⟨n, rfl⟩ hno
  · rw [he]
    constructor
    · intro _ hsome
      obtain ⟨k, hk⟩ := hsome
      cases hk
    · intro _
      rfl

/-- What the search finds depends on the lengths that tell all alternatives apart, and on whether
there are alternatives. -/
theorem findLookahead_congr {g g' : Grammar}
    (hdet : g'.isDeterministic = true ↔ g.isDeterministic = true)
    (hsep : ∀ k, 1 ≤ k → (g'.Separates k ↔ g.Separates k)) (bound : Option Nat) :
    (g'.findLookahead bound).value = (g.findLookahead bound).value := by
  rw [findLookahead_eq_getD, findLookahead_eq_getD (g := g)]
  generalize bound.getD unbounded = n
  have hset : {k | 1 ≤ k ∧ g'.Separates k} = {k | 1 ≤ k ∧ g.Separates k} :=
    Set.ext fun k => and_congr_right (hsep k)
  by_cases h : g.isDeterministic = true
  · rw [findLookahead_of_isDeterministic h, findLookahead_of_isDeterministic (hdet.2 h)]
  · rcases findLookahead_cases h n with ⟨k, hk, hleast, hle⟩ | ⟨he, hnone⟩
    · rw [hk, findLookahead_eq_ok_iff (mt hdet.1 h), hset]
      exact ⟨hleast, hle⟩
    · rw [he, findLookahead_eq_error_iff (mt hdet.1 h), hset]
      rintro ⟨k, hleast, hle⟩
      exact hnone k hleast.1.1 hle hleast.1.2

/-- What the search finds tells all alternatives apart. -/
theorem separates_of_findLookahead {bound : Option Nat}
    (h : (g.findLookahead bound).value = .ok k) : g.Separates k := by
  by_cases hdet : g.isDeterministic = true
  · exact separates_of_isDeterministic hdet
  · rw [findLookahead_eq_getD, findLookahead_eq_ok_iff hdet] at h
    obtain ⟨⟨⟨-, hsep⟩, -⟩, -⟩ := h
    exact hsep

/-- What is found is within the bound. -/
theorem findLookahead_le {bound : Nat} (h : (g.findLookahead (some bound)).value = .ok k) :
    k ≤ bound := by
  by_cases hdet : g.isDeterministic = true
  · rw [findLookahead_of_isDeterministic hdet] at h
    cases h
    exact Nat.zero_le _
  · rw [findLookahead_eq_ok_iff hdet] at h
    exact h.2

/-- A larger bound changes nothing once a lookahead is found. -/
theorem findLookahead_mono {bound bound' : Nat}
    (h : (g.findLookahead (some bound)).value = .ok k) (hle : k ≤ bound') :
    (g.findLookahead (some bound')).value = .ok k := by
  by_cases hdet : g.isDeterministic = true
  · rw [findLookahead_of_isDeterministic hdet] at h ⊢
    exact h
  · rw [findLookahead_eq_ok_iff hdet] at h ⊢
    exact ⟨h.1, hle⟩

/-- The search succeeds within a bound iff the bound tells all alternatives apart. -/
theorem findLookahead_isOk_iff {bound : Nat} (hbound : 1 ≤ bound) :
    (∃ k, (g.findLookahead (some bound)).value = .ok k) ↔ g.Separates bound := by
  by_cases hdet : g.isDeterministic = true
  · exact ⟨fun _ => separates_of_isDeterministic hdet,
      fun _ => ⟨0, findLookahead_of_isDeterministic hdet _⟩⟩
  · rcases findLookahead_cases hdet bound with ⟨k, hk, hleast, hle⟩ | ⟨he, hnone⟩
    · have hsep : g.Separates bound := hleast.1.2.mono hleast.1.1 hle
      exact ⟨fun _ => hsep, fun _ => ⟨k, hk⟩⟩
    · have hnot : ¬ g.Separates bound := hnone bound hbound (Nat.le_refl _)
      rw [he]
      exact ⟨nofun, fun hsep => absurd hsep hnot⟩

variable (g) in
/-- **The search finds the least lookahead.** With one production for every nonterminal it is 0.
Otherwise it is the least `k` from 1 on that tells all alternatives apart, if that is within the
bound, and an error that names the bound if there is none. A larger bound changes nothing once a
lookahead is found. -/
theorem findLookahead_isLeast (bound : Nat) :
    ((∀ a ∈ g.nonterminals, (g.productionsOf a).length = 1) →
      (g.findLookahead (some bound)).value = .ok 0) ∧
    ((¬ ∀ a ∈ g.nonterminals, (g.productionsOf a).length = 1) →
      (∀ k, (g.findLookahead (some bound)).value = .ok k ↔
        IsLeast {k | 1 ≤ k ∧ g.Separates k} k ∧ k ≤ bound) ∧
      ((g.findLookahead (some bound)).value = .error (.notLlk bound) ↔
        ¬ ∃ k, IsLeast {k | 1 ≤ k ∧ g.Separates k} k ∧ k ≤ bound)) ∧
    ∀ k bound', (g.findLookahead (some bound)).value = .ok k → k ≤ bound' →
      (g.findLookahead (some bound')).value = .ok k := by
  rw [← isDeterministic_iff]
  refine ⟨fun h => ?_, fun h => ⟨fun k => ?_, ?_⟩, fun k bound' hk hle => ?_⟩
  · exact findLookahead_of_isDeterministic h _
  · exact findLookahead_eq_ok_iff h
  · exact findLookahead_eq_error_iff h
  · exact findLookahead_mono hk hle

open Sample in
theorem findLookahead_isLeast_samples :
    (∀ a ∈ chain.nonterminals, (chain.productionsOf a).length = 1) ∧
      (chain.findLookahead (some 0)).value = .ok 0 ∧
    (¬ ∀ a ∈ sharedPrefix.nonterminals, (sharedPrefix.productionsOf a).length = 1) ∧
      IsLeast {k | 1 ≤ k ∧ sharedPrefix.Separates k} 3 ∧
      (sharedPrefix.findLookahead (some 2)).value = .error (.notLlk 2) ∧
    3 ≤ 5 ∧ (sharedPrefix.findLookahead (some 5)).value = .ok 3 := by
  have hchain : ∀ a ∈ chain.nonterminals, (chain.productionsOf a).length = 1 :=
    isDeterministic_iff.1 (by decide)
  have hshared : ¬ ∀ a ∈ sharedPrefix.nonterminals, (sharedPrefix.productionsOf a).length = 1 :=
    fun h => absurd (isDeterministic_iff.2 h) (by decide)
  have hfound : (sharedPrefix.findLookahead (some 3)).value = .ok 3 := by decide +kernel
  have hleast := (((sharedPrefix.findLookahead_isLeast 3).2.1 hshared).1 3).1 hfound
  refine ⟨hchain, (chain.findLookahead_isLeast 0).1 hchain, hshared, hleast.1, ?_, by decide,
    (sharedPrefix.findLookahead_isLeast 3).2.2 3 5 hfound (by decide)⟩
  refine ((sharedPrefix.findLookahead_isLeast 2).2.1 hshared).2.2 ?_
  intro hsome
  obtain ⟨k, hk, hle⟩ := hsome
  have hthree : k = 3 := hk.unique hleast.1
  omega

end Grammar

end TopDown
