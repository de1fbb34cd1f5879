import TopDown.Proofs.LeastLookahead

/-!
# What the search says on its way

The search says of every length that it passes why it does: it names two alternatives that share a
lookahead word of that length. So the log certifies that no shorter lookahead would do.

* `Grammar.SharesLookahead`, what is said of two productions, and `sharesLookahead_of_conflict`;
* `conflictMessages`: a message for each of a list of conflicts, at one length after the other;
* `Grammar.searchFrom_log`: what the search says from some length on, by induction on the room that
  is left; `level_of_mem_log_findLookahead`;
* **`Grammar.findLookahead_certified`**.
-/

namespace TopDown

/-- The messages about pairs in conflict, the first at length `k`, each other one at the next. -/
def conflictMessages (k : Nat) (conflicts : List Alternatives) : List Event :=
  (conflicts.zipIdx k).map fun c => .sharedLookahead c.1.1 c.1.2 c.2

theorem conflictMessages_cons (k : Nat) (c : Alternatives) (conflicts : List Alternatives) :
    conflictMessages k (c :: conflicts) =
      .sharedLookahead c.1 c.2 k :: conflictMessages (k + 1) conflicts := rfl

theorem level_of_mem_conflictMessages {k : Nat} {conflicts : List Alternatives} {e : Event}
    (he : e ∈ conflictMessages k conflicts) : e.level = .debug := by
  obtain ⟨c, -, rfl⟩ := List.mem_map.1 he
  rfl

namespace Grammar

variable {g : Grammar} {k : Nat} {todo : List Alternatives} {clean : Bool}

variable (g) in
/-- Two productions of one nonterminal, `p` declared before `q`, share a lookahead word of length
`k`. -/
structure SharesLookahead (k : Nat) (p q : Production) : Prop where
  left : p.left = q.left
  order : [p, q].Sublist g.productions
  shared : ∃ u, u ∈ g.lookAhead k p ∧ u ∈ g.lookAhead k q

/-- A pair in conflict shares a lookahead word. -/
theorem sharesLookahead_of_conflict {c : Alternatives} (hc : c ∈ g.alternatives)
    (h : g.conflict k c = true) : g.SharesLookahead k c.1 c.2 := by
  obtain ⟨a, -, hpair⟩ := List.mem_flatMap.1 hc
  have hsub : [c.1, c.2].Sublist (g.productionsOf a) := mem_pairs.1 hpair
  have hleft : ∀ p ∈ [c.1, c.2], p.left = a := fun p hp =>
    (g.mem_productionsOf.1 (hsub.subset hp)).2
  refine ⟨?_, hsub.trans List.filter_sublist, ?_⟩
  · rw [hleft c.1 (by simp), hleft c.2 (by simp)]
  · by_contra hnone
    have hno : g.conflict k c = false := conflict_eq_false_iff.2 fun u hp hq => hnone ⟨u, hp, hq⟩
    rw [h] at hno
    cases hno

/-- **What the search says from length `k` on.** It names a pair in conflict at every length that it
passes, and what it finds behind them, unless it runs out of room. -/
theorem searchFrom_log (room k : Nat) (htodo : todo ⊆ g.alternatives)
    (hclean : clean = true → todo = g.alternatives) :
    ∃ conflicts : List Alternatives,
      (∀ c ∈ conflicts.zipIdx k, g.SharesLookahead c.2 c.1.1 c.1.2) ∧
      (g.searchFrom room k todo clean = ⟨conflictMessages k conflicts ++
          [.foundLookahead (k + conflicts.length)], some (k + conflicts.length)⟩ ∨
        conflicts.length = room + 1 ∧
          g.searchFrom room k todo clean = ⟨conflictMessages k conflicts, none⟩) := by
  induction room generalizing k todo clean with
  | zero =>
    rcases searchFrom_cases htodo hclean with ⟨-, heq⟩ | ⟨c, hc, rest, -, hconflict, heq⟩
    · exact ⟨[], nofun, .inl heq⟩
    · refine ⟨[c], ?_, .inr ⟨rfl, heq⟩⟩
      simpa using sharesLookahead_of_conflict hc hconflict
  | succ room ih =>
    rcases searchFrom_cases htodo hclean with ⟨-, heq⟩ | ⟨c, hc, rest, hrest, hconflict, heq⟩
    · exact ⟨[], nofun, .inl heq⟩
    · -- behind the pair in conflict the search goes on at the next length
      have hunclean : false = true → rest = g.alternatives := nofun
      obtain ⟨conflicts, hshares, hend⟩ := ih (k + 1) hrest hunclean
      refine ⟨c :: conflicts, ?_, ?_⟩
      · rw [List.zipIdx_cons, List.forall_mem_cons]
        exact ⟨sharesLookahead_of_conflict hc hconflict, hshares⟩
      · have hk : k + (c :: conflicts).length = k + 1 + conflicts.length := by
          rw [List.length_cons]
          omega
        rw [heq, hk, conflictMessages_cons]
        dsimp only
        rcases hend with hfound | ⟨hlength, hnone⟩
        · rw [hfound]
          exact .inl rfl
        · rw [hnone]
          exact .inr ⟨by rw [List.length_cons, hlength], rfl⟩

/-! ## The whole search -/

theorem log_findLookahead_of_isDeterministic (h : g.isDeterministic = true) (bound : Option Nat) :
    (g.findLookahead bound).log = [] := by
  unfold findLookahead
  rw [if_pos h]
  rfl

theorem findLookahead_zero (h : ¬ g.isDeterministic = true) :
    g.findLookahead (some 0) = ⟨[], .error (.notLlk 0)⟩ := by
  unfold findLookahead
  rw [if_neg h]
  rfl

/-- Within a bound the search says what it says from length 1 on. -/
theorem log_findLookahead_succ (h : ¬ g.isDeterministic = true) (room : Nat) :
    (g.findLookahead (some (room + 1))).log = (g.searchFrom room 1 g.alternatives true).log := by
  unfold findLookahead
  rw [if_neg h]
  exact List.append_nil _

/-- The search warns of nothing. -/
theorem level_of_mem_log_findLookahead {bound : Option Nat} {e : Event}
    (he : e ∈ (g.findLookahead bound).log) : e.level = .debug := by
  rw [findLookahead_eq_getD] at he
  by_cases hdet : g.isDeterministic = true
  · rw [log_findLookahead_of_isDeterministic hdet] at he
    cases he
  · generalize bound.getD unbounded = n at he
    cases n with
    | zero =>
      rw [findLookahead_zero hdet] at he
      cases he
    | succ room =>
      obtain ⟨conflicts, -, hend⟩ :=
        searchFrom_log room 1 (List.Subset.refl g.alternatives) fun _ => rfl
      rw [log_findLookahead_succ hdet] at he
      rcases hend with heq | ⟨-, heq⟩
      · rw [heq, List.mem_append, List.mem_singleton] at he
        rcases he with he | rfl
        · exact level_of_mem_conflictMessages he
        · rfl
      · rw [heq] at he
        exact level_of_mem_conflictMessages he

variable (g) in
/-- **The log certifies what the search finds.** It names conflicts at the lengths 1, 2, 3 and so
on, each length once: two productions of one nonterminal in order of declaration that share a
lookahead word of that length. If `n + 1` is found there are `n` conflicts, and the message that it
is found stands behind them. If there is no lookahead within the bound there are as many conflicts as
the bound says, and no other message. Where no lookahead is needed nothing is said. -/
theorem findLookahead_certified (bound : Nat) :
    (∀ e ∈ (g.findLookahead (some bound)).log, e.level = .debug) ∧
    ∃ conflicts : List Alternatives,
      (∀ p q k, ((p, q), k) ∈ conflicts.zipIdx 1 → g.SharesLookahead k p q) ∧
      (((g.findLookahead (some bound)).value = .ok 0 ∧ conflicts = [] ∧
          (g.findLookahead (some bound)).log = []) ∨
        (∃ k, 1 ≤ k ∧ (g.findLookahead (some bound)).value = .ok k ∧ conflicts.length = k - 1 ∧
          (g.findLookahead (some bound)).log =
            conflictMessages 1 conflicts ++ [.foundLookahead k]) ∨
        ((g.findLookahead (some bound)).value = .error (.notLlk bound) ∧
          conflicts.length = bound ∧
          (g.findLookahead (some bound)).log = conflictMessages 1 conflicts)) := by
  refine ⟨fun e => level_of_mem_log_findLookahead, ?_⟩
  by_cases hdet : g.isDeterministic = true
  · exact ⟨[], nofun, .inl ⟨findLookahead_of_isDeterministic hdet _, rfl,
      log_findLookahead_of_isDeterministic hdet _⟩⟩
  · cases bound with
    | zero =>
      rw [findLookahead_zero hdet]
      exact ⟨[], nofun, .inr (.inr ⟨rfl, rfl, rfl⟩)⟩
    | succ room =>
      obtain ⟨conflicts, hshares, hend⟩ :=
        searchFrom_log room 1 (List.Subset.refl g.alternatives) fun _ => rfl
      refine ⟨conflicts, fun p q k hc => hshares _ hc, .inr ?_⟩
      rw [findLookahead_succ hdet, log_findLookahead_succ hdet]
      rcases hend with heq | ⟨hlength, heq⟩
      · rw [heq]
        exact .inl ⟨1 + conflicts.length, by omega, rfl, by omega, rfl⟩
      · rw [heq]
        exact .inr ⟨rfl, hlength, rfl⟩

end Grammar

end TopDown
