import Mathlib.Data.List.Induction
import Mathlib.Data.List.Nodup
import TopDown.Proofs.LeastLookahead

/-!
# What becomes of a declaration

A declaration is checked from the front: the sentence symbol, then one production after the other,
each from its left side to the end of its right side. The first thing that is not declared is the
error. If there is none, the grammar has every production once, where it was listed first.

* `Production.Fault`, the first thing wrong with a production, and `Production.fault?_eq_some_iff`;
* `Grammar.declare_eq_error_iff`: the first faulty production of a list decides the error;
* `eraseDups_concat`, `pairwise_idxOf_eraseDups`: keeping first occurrences keeps their order;
* `Grammar.perm_flatMap_productionsOf`: the alternatives of all nonterminals are the productions;
* **`Grammar.declare_exact`**.
-/

namespace TopDown

variable {nts : OrderedSet Nonterminal} {ts : OrderedSet Terminal} {p : Production}
  {e : GrammarError}

/-! ## The first fault -/

/-- The first thing wrong with a production: its left side, or else the leftmost symbol of its right
side that is not declared. -/
inductive Production.Fault (nts : OrderedSet Nonterminal) (ts : OrderedSet Terminal)
    (p : Production) : GrammarError → Prop
  | left : p.left ∉ nts → Fault nts ts p (.undeclaredNonterminal p)
  | right {x y : Form} {s : Symbol} : p.left ∈ nts → p.right = x ++ s :: y →
      (∀ r ∈ x, r.DeclaredIn nts ts) → ¬ s.DeclaredIn nts ts →
      Fault nts ts p (.undeclaredSymbol p s)

theorem Production.fault?_eq_some_iff : p.fault? nts ts = some e ↔ p.Fault nts ts e := by
  unfold fault?
  by_cases hleft : p.left ∈ nts
  · rw [if_pos hleft, Option.map_eq_some_iff]
    constructor
    · rintro ⟨s, hs, rfl⟩
      obtain ⟨hnot, x, y, hright, hbefore⟩ := List.find?_eq_some_iff_append.1 hs
      refine .right hleft hright (fun r hr => ?_) (by simpa using hnot)
      simpa using hbefore r hr
    · intro h
      cases h with
      | left hnot => exact absurd hleft hnot
      | @right x y s _ hright hbefore hnot =>
        refine ⟨s, List.find?_eq_some_iff_append.2 ⟨by simpa using hnot, x, y, hright, ?_⟩, rfl⟩
        intro r hr
        simpa using hbefore r hr
  · rw [if_neg hleft, Option.some.injEq]
    constructor
    · intro he
      exact he ▸ .left hleft
    · intro h
      cases h with
      | left _ => rfl
      | right hmem _ _ _ => exact absurd hmem hleft

/-- A production with a fault is not declared. -/
theorem Production.Fault.not_declaredIn (h : p.Fault nts ts e) : ¬ p.DeclaredIn nts ts := by
  rw [← Production.fault?_eq_none_iff, Production.fault?_eq_some_iff.2 h]
  exact nofun

/-! ## First occurrences -/

section FirstOccurrences

variable {α : Type} [DecidableEq α] {l : List α}

theorem eraseDups_concat (l : List α) (a : α) :
    (l ++ [a]).eraseDups = l.eraseDups ++ if a ∈ l then [] else [a] := by
  rw [List.eraseDups_append]
  by_cases ha : a ∈ l
  · simp [List.removeAll, ha]
  · simp [List.removeAll, ha, List.eraseDups_cons]

/-- What is kept stands in the order of its first occurrences, each before the next. -/
theorem pairwise_idxOf_eraseDups (l : List α) :
    l.eraseDups.Pairwise fun a b => l.idxOf a < l.idxOf b := by
  induction l using List.reverseRecOn with
  | nil => exact .nil
  | append_singleton l c ih =>
    have hkept : ∀ a ∈ l.eraseDups, (l ++ [c]).idxOf a = l.idxOf a := fun a ha =>
      List.idxOf_append_of_mem (List.mem_eraseDups.1 ha)
    have hbefore : l.eraseDups.Pairwise fun a b => (l ++ [c]).idxOf a < (l ++ [c]).idxOf b := by
      refine ih.imp_of_mem fun {a b} ha hb hab => ?_
      rw [hkept a ha, hkept b hb]
      exact hab
    rw [eraseDups_concat]
    by_cases hc : c ∈ l
    · rw [if_pos hc, List.append_nil]
      exact hbefore
    · rw [if_neg hc, List.pairwise_append]
      refine ⟨hbefore, List.pairwise_singleton _ _, fun a ha b hb => ?_⟩
      -- what is new stands behind all that was there
      obtain rfl := List.mem_singleton.1 hb
      rw [hkept a ha, List.idxOf_append_of_notMem hc]
      have := List.idxOf_lt_length_of_mem (List.mem_eraseDups.1 ha)
      omega

end FirstOccurrences

namespace Grammar

variable {g : Grammar} {nonterminals : List Nonterminal} {terminals : List Terminal}
  {start : Nonterminal} {productions : List Production}

/-! ## The alternatives of all nonterminals -/

/-- **The alternatives of the nonterminals are the productions**, each of them once. -/
theorem perm_flatMap_productionsOf (g : Grammar) :
    (g.nonterminals.toList.flatMap g.productionsOf).Perm g.productions := by
  have hnodup : (g.nonterminals.toList.flatMap g.productionsOf).Nodup := by
    rw [List.nodup_flatMap]
    refine ⟨fun a _ => nodup_productionsOf a, ?_⟩
    refine g.nonterminals.sorted.imp fun {a b} hab p hpa hpb => ?_
    have ha : p.left = a := (g.mem_productionsOf.1 hpa).2
    have hb : p.left = b := (g.mem_productionsOf.1 hpb).2
    exact CanonicalOrder.ne_of_lt hab (ha.symm.trans hb)
  refine (List.perm_ext_iff_of_nodup hnodup g.nodup).2 fun p => ?_
  rw [List.mem_flatMap]
  constructor
  · rintro ⟨a, -, hp⟩
    exact (g.mem_productionsOf.1 hp).1
  · intro hp
    exact ⟨p.left, (g.declared p hp).1, g.mem_productionsOf.2 ⟨hp, rfl⟩⟩

/-- A nonterminal that is not declared has no alternatives. -/
theorem productionsOf_eq_nil {a : Nonterminal} (ha : a ∉ g.nonterminals) :
    g.productionsOf a = [] :=
  List.eq_nil_iff_forall_not_mem.2 fun _ hp => ha (g.mem_nonterminals_of_productionsOf hp)

/-! ## The declaration -/

/-- **The first faulty production decides the error**, unless the sentence symbol is missing. -/
theorem declare_eq_error_iff : declare nonterminals terminals start productions = .error e ↔
    start ∉ nonterminals ∧ e = .missingSentenceSymbol start ∨
      start ∈ nonterminals ∧ ∃ before p behind, productions = before ++ p :: behind ∧
        (∀ q ∈ before, q.DeclaredIn (.ofList nonterminals) (.ofList terminals)) ∧
        p.Fault (.ofList nonterminals) (.ofList terminals) e := by
  by_cases hstart : start ∈ nonterminals
  · have hmem : start ∈ OrderedSet.ofList nonterminals := OrderedSet.mem_ofList.2 hstart
    have hfirst : declare nonterminals terminals start productions = .error e ↔
        productions.findSome? (Production.fault? (.ofList nonterminals) (.ofList terminals)) =
          some e := by
      unfold declare
      simp only [dif_pos hmem]
      split
      · rename_i e' he'
        rw [he', Except.error.injEq, Option.some.injEq]
      · rename_i hnone
        constructor
        · intro hok
          cases hok
        · intro he
          rw [hnone] at he
          cases he
    rw [hfirst, List.findSome?_eq_some_iff]
    simp only [Production.fault?_eq_none_iff, Production.fault?_eq_some_iff, hstart,
      not_true_eq_false, false_and, false_or, true_and]
    constructor
    · rintro ⟨before, p, behind, hsplit, hfault, hbefore⟩
      exact ⟨before, p, behind, hsplit, hbefore, hfault⟩
    · rintro ⟨before, p, behind, hsplit, hbefore, hfault⟩
      exact ⟨before, p, behind, hsplit, hfault, hbefore⟩
  · rw [declare_of_not_mem hstart, Except.error.injEq]
    simp [hstart, eq_comm]

/-- Where everything is declared there is a grammar. -/
theorem exists_declare_eq_ok (hstart : start ∈ nonterminals)
    (h : ∀ p ∈ productions, p.DeclaredIn (.ofList nonterminals) (.ofList terminals)) :
    ∃ g, declare nonterminals terminals start productions = .ok g := by
  match hg : declare nonterminals terminals start productions with
  | .ok g => exact ⟨g, rfl⟩
  | .error e =>
    rcases declare_eq_error_iff.1 hg with ⟨hnot, -⟩ | ⟨-, before, p, behind, rfl, -, hfault⟩
    · exact absurd hstart hnot
    · exact absurd (h p (by simp)) hfault.not_declaredIn

/-- **What becomes of a declaration.** Without its sentence symbol that is the error; otherwise the
first production that is not declared makes the error, by its left side or else by the leftmost
symbol of its right side that is not declared. If there is neither, there is a grammar with these
declarations. It has every production once, in the order of the first occurrences, and each
nonterminal has as its alternatives the productions with that left side, in the same order: all of
them together are the productions, and one that is not declared has none. -/
theorem declare_exact (nonterminals : List Nonterminal) (terminals : List Terminal)
    (start : Nonterminal) (productions : List Production) :
    (∀ e, declare nonterminals terminals start productions = .error e ↔
      start ∉ nonterminals ∧ e = .missingSentenceSymbol start ∨
        start ∈ nonterminals ∧ ∃ before p behind, productions = before ++ p :: behind ∧
          (∀ q ∈ before, q.DeclaredIn (.ofList nonterminals) (.ofList terminals)) ∧
          p.Fault (.ofList nonterminals) (.ofList terminals) e) ∧
    ((∃ g, declare nonterminals terminals start productions = .ok g) ↔
      start ∈ nonterminals ∧
        ∀ p ∈ productions, p.DeclaredIn (.ofList nonterminals) (.ofList terminals)) ∧
    ∀ g, declare nonterminals terminals start productions = .ok g →
      (g.nonterminals = .ofList nonterminals ∧ g.terminals = .ofList terminals ∧
        g.start = start) ∧
      (∀ p, p ∈ g.productions ↔ p ∈ productions) ∧
      (g.productions.Pairwise fun p q => productions.idxOf p < productions.idxOf q) ∧
      (∀ a, (g.productionsOf a).Sublist g.productions ∧
        ∀ p, p ∈ g.productionsOf a ↔ p ∈ productions ∧ p.left = a) ∧
      (∀ a, a ∉ nonterminals → g.productionsOf a = []) ∧
      (g.nonterminals.toList.flatMap g.productionsOf).Perm g.productions ∧
      ∀ p ∈ g.productions, p.DeclaredIn (.ofList nonterminals) (.ofList terminals) := by
  refine ⟨fun e => declare_eq_error_iff, ⟨?_, fun h => exists_declare_eq_ok h.1 h.2⟩, ?_⟩
  · rintro ⟨g, hg⟩
    obtain ⟨hnts, hts, hstart, hps⟩ := declare_eq_ok_iff.1 hg
    refine ⟨OrderedSet.mem_ofList.1 (hnts ▸ hstart ▸ g.start_mem), fun p hp => ?_⟩
    exact hnts ▸ hts ▸ g.declared p (hps ▸ List.mem_eraseDups.2 hp)
  · intro g hg
    obtain ⟨hnts, hts, hstart, hps⟩ := declare_eq_ok_iff.1 hg
    have hmem : ∀ p, p ∈ g.productions ↔ p ∈ productions := fun p => by
      rw [hps, List.mem_eraseDups]
    refine ⟨⟨hnts, hts, hstart⟩, hmem, ?_, fun a => ⟨List.filter_sublist, fun p => ?_⟩,
      fun a ha => productionsOf_eq_nil ?_, g.perm_flatMap_productionsOf, fun p hp => ?_⟩
    · rw [hps]
      exact pairwise_idxOf_eraseDups productions
    · rw [g.mem_productionsOf, hmem]
    · rwa [hnts, OrderedSet.mem_ofList]
    · exact hnts ▸ hts ▸ g.declared p hp

open Sample in
theorem declare_exact_samples :
    declare [A] [a] S [⟨B, []⟩] = .error (.missingSentenceSymbol S) ∧
    declare [S] [a] S [⟨S, [.terminal a]⟩, ⟨S, [.terminal a, .nonterminal B, .terminal b]⟩, ⟨A, []⟩] =
      .error (.undeclaredSymbol ⟨S, [.terminal a, .nonterminal B, .terminal b]⟩ (.nonterminal B)) ∧
    ∃ g, declare [S, A, S] [a] S [⟨S, [.terminal a, .nonterminal S]⟩, ⟨S, []⟩,
        ⟨S, [.terminal a, .nonterminal S]⟩] = .ok g ∧
      ⟨S, []⟩ ∈ g.productionsOf S ∧ g.productionsOf A = [] ∧ g.productionsOf B = [] ∧
      (g.nonterminals.toList.flatMap g.productionsOf).Perm g.productions := by
  obtain ⟨hmissing, -, -⟩ := declare_exact [A] [a] S [⟨B, []⟩]
  obtain ⟨hfaulty, -, -⟩ := declare_exact [S] [a] S [⟨S, [.terminal a]⟩,
    ⟨S, [.terminal a, .nonterminal B, .terminal b]⟩, ⟨A, []⟩]
  obtain ⟨-, hdeclared, hgrammar⟩ := declare_exact [S, A, S] [a] S
    [⟨S, [.terminal a, .nonterminal S]⟩, ⟨S, []⟩, ⟨S, [.terminal a, .nonterminal S]⟩]
  obtain ⟨g, hg⟩ := hdeclared.2 ⟨by decide, by decide⟩
  obtain ⟨-, -, -, hgroups, hnone, hperm, -⟩ := hgrammar g hg
  refine ⟨(hmissing _).2 (.inl ⟨by decide, rfl⟩), (hfaulty _).2 (.inr ⟨by decide, ?_⟩), g, hg, ?_, ?_,
    hnone B (by decide), hperm⟩
  · refine ⟨[⟨S, [.terminal a]⟩], _, [⟨A, []⟩], rfl, by decide, ?_⟩
    exact .right (x := [.terminal a]) (y := [.terminal b]) (by decide) rfl (by decide) (by decide)
  · exact ((hgroups S).2 _).2 ⟨by decide, rfl⟩
  · have hleft : ∀ p ∈ [⟨S, [.terminal a, .nonterminal S]⟩, ⟨S, []⟩,
        (⟨S, [.terminal a, .nonterminal S]⟩ : Production)], p.left ≠ A := by decide
    refine List.eq_nil_iff_forall_not_mem.2 fun p hp => ?_
    obtain ⟨hmem, hpA⟩ := ((hgroups A).2 p).1 hp
    exact hleft p hmem hpA

end Grammar

end TopDown
