import TopDown.Proofs.SearchLog
import TopDown.Proofs.Takeovers

/-!
# What the table holds

* `Grammar.get?_tabulate_eq_some`: an entry is an alternative with the word in its lookahead;
* **`Grammar.get?_tabulate_of_separates`**: where the lookahead tells all alternatives apart, every
  lookahead word of an alternative selects it;
* `Grammar.takeovers_of_separates`, `Grammar.log_tabulate_of_separates`: there no word is taken over,
  and the log tells of the finished table only;
* **`Grammar.analyze_exact`**: the table for the lookahead that the search finds holds all lookahead
  words of all alternatives, and no others.
-/

namespace TopDown

namespace Grammar

variable {g : Grammar} {k : Nat} {a : Nonterminal} {w : Word} {p : Production}

/-- An entry is an alternative with the word in its lookahead. -/
theorem get?_tabulate_eq_some (h : (g.tabulate k).value.get? a w = some p) :
    p ∈ g.productionsOf a ∧ w ∈ g.lookAhead k p := by
  rw [get?_tabulate] at h
  exact mem_of_lastWith h

/-- **Where the lookahead tells all alternatives apart, every lookahead word of an alternative
selects it.** -/
theorem get?_tabulate_of_separates (hsep : g.Separates k) (hp : p ∈ g.productionsOf a)
    (hw : w ∈ g.lookAhead k p) : (g.tabulate k).value.get? a w = some p := by
  have ha : a ∈ g.nonterminals := g.mem_nonterminals_of_productionsOf hp
  obtain ⟨q, hq⟩ := exists_lastWith hp hw
  obtain ⟨hqa, hwq⟩ := mem_of_lastWith hq
  rw [get?_tabulate, hq]
  by_cases hpq : p = q
  · rw [hpq]
  · exact absurd hwq (hsep a ha p hp q hqa hpq w hw)

/-- There an entry is an alternative with the word in its lookahead, and nothing else. -/
theorem get?_tabulate_eq_some_iff (hsep : g.Separates k) :
    (g.tabulate k).value.get? a w = some p ↔ p ∈ g.productionsOf a ∧ w ∈ g.lookAhead k p :=
  ⟨get?_tabulate_eq_some, fun hp => get?_tabulate_of_separates hsep hp.1 hp.2⟩

/-! ## The log -/

/-- Where the lookahead tells all alternatives apart, no word is taken over. -/
theorem takeovers_of_separates (hsep : g.Separates k) : g.takeovers k = [] := by
  refine List.eq_nil_iff_forall_not_mem.2 fun e he => ?_
  obtain ⟨a, ha, he⟩ := List.mem_flatMap.1 he
  obtain ⟨w, p, q, -, hsub, hwp, hwq⟩ := exists_of_mem_takeoversIn he
  have hpq : q ≠ p := by simpa using (nodup_productionsOf a).sublist hsub
  exact hsep a ha p (hsub.subset (by simp)) q (hsub.subset (by simp)) hpq.symm w hwp hwq

/-- There the log tells of the finished table only. -/
theorem log_tabulate_of_separates (hsep : g.Separates k) :
    (g.tabulate k).log = [.tabulated k (g.tabulate k).value.size] := by
  rw [log_tabulate, takeovers_of_separates hsep, List.nil_append]

/-! ## The analysis -/

/-- Where the search succeeds, its lookahead is tabulated. -/
theorem analyze_of_findLookahead {bound : Option Nat}
    (h : (g.findLookahead bound).value = .ok k) :
    g.analyze bound =
      ⟨(g.findLookahead bound).log ++ (g.tabulate k).log, .ok (g.tabulate k).value⟩ := by
  unfold analyze
  simp only [bind, h, pure, List.append_nil]

/-- The analysis gives the table for the lookahead that the search finds. -/
theorem analyze_eq_ok {bound : Option Nat} {t : Table} (h : (g.analyze bound).value = .ok t) :
    (g.findLookahead bound).value = .ok t.k ∧ t = (g.tabulate t.k).value := by
  match hk : (g.findLookahead bound).value with
  | .ok k =>
    rw [analyze_of_findLookahead hk, Except.ok.injEq] at h
    subst h
    exact ⟨rfl, rfl⟩
  | .error _ =>
    unfold analyze at h
    rw [Logged.value_bind, hk] at h
    cases h

variable (g) in
/-- **The table holds every lookahead word of every alternative.** Where the analysis succeeds, a
nonterminal and a word select a production iff it is an alternative of the nonterminal and the word
is in its lookahead, every nonterminal has a row, and beyond what the search says the log tells of
the finished table only: no entry takes a word over from another. -/
theorem analyze_exact {bound : Option Nat} {t : Table} (h : (g.analyze bound).value = .ok t) :
    (g.findLookahead bound).value = .ok t.k ∧
      (∀ a w p, t.get? a w = some p ↔ p ∈ g.productionsOf a ∧ w ∈ g.lookAhead t.k p) ∧
      t.rows.keys = g.nonterminals ∧
      (g.analyze bound).log = (g.findLookahead bound).log ++ [.tabulated t.k t.size] ∧
      ∀ e ∈ (g.analyze bound).log, e.level ≠ .warn := by
  obtain ⟨hk, ht⟩ := analyze_eq_ok h
  have hsep : g.Separates t.k := separates_of_findLookahead hk
  have hlog : (g.analyze bound).log = (g.findLookahead bound).log ++ [.tabulated t.k t.size] := by
    rw [analyze_of_findLookahead hk, log_tabulate_of_separates hsep, ← ht]
  refine ⟨hk, fun a w p => ?_, ?_, hlog, fun e he => ?_⟩
  · rw [ht]
    exact get?_tabulate_eq_some_iff hsep
  · rw [ht, keys_tabulate]
  · rw [hlog, List.mem_append, List.mem_singleton] at he
    rcases he with he | rfl
    · rw [level_of_mem_log_findLookahead he]
      decide
    · exact nofun

open Sample in
theorem analyze_exact_samples :
    ((chain.analyze none).value = .ok (chain.tabulate 0).value ∧
      (chain.tabulate 0).value.get? A [] = some ⟨A, [.terminal b]⟩) ∧
    (lists.analyze (some 4)).value = .ok (lists.tabulate 1).value ∧
      (lists.tabulate 1).value.get? A [b] = some ⟨A, []⟩ ∧
      (lists.tabulate 1).value.rows.keys = lists.nonterminals ∧
      ∀ e ∈ (lists.analyze (some 4)).log, e.level ≠ .warn := by
  have hchain : (chain.analyze none).value = .ok (chain.tabulate 0).value := by
    rw [analyze_of_findLookahead (findLookahead_of_isDeterministic (by decide) none)]
  have hfound : (lists.findLookahead (some 4)).value = .ok 1 := by decide +kernel
  have hlists : (lists.analyze (some 4)).value = .ok (lists.tabulate 1).value := by
    rw [analyze_of_findLookahead hfound]
  obtain ⟨-, hentry, -, -, -⟩ := chain.analyze_exact hchain
  obtain ⟨-, hentries, hkeys, -, hlog⟩ := lists.analyze_exact hlists
  exact ⟨⟨hchain, (hentry A [] _).2 (by decide)⟩, hlists, (hentries A [b] _).2 (by decide +kernel),
    hkeys, hlog⟩

end Grammar

end TopDown
