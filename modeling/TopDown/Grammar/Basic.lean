import TopDown.Ordered.Set
import TopDown.Grammar.Error

/-!
# Grammars

A grammar declares its nonterminals and terminals, names a sentence symbol among them and lists its
productions without repetition; every symbol of a production is declared.

* `Grammar`, and `Grammar.declare`, which checks the declarations and says what is wrong first: the
  sentence symbol, then the first faulty production, its left side before its right side;
* `Grammar.productionsOf`: the alternatives of a nonterminal, in order of declaration.
-/

namespace TopDown

/-- The nonterminal `S`, the sentence symbol unless another is named. -/
def Nonterminal.sentence : Nonterminal := ⟨'S', by decide⟩

/-- The symbol is one of the declared nonterminals and terminals. -/
def Symbol.DeclaredIn (nts : OrderedSet Nonterminal) (ts : OrderedSet Terminal) : Symbol → Prop
  | nonterminal a => a ∈ nts
  | terminal t => t ∈ ts

instance (nts : OrderedSet Nonterminal) (ts : OrderedSet Terminal) :
    DecidablePred (Symbol.DeclaredIn nts ts)
  | .nonterminal a => inferInstanceAs (Decidable (a ∈ nts))
  | .terminal t => inferInstanceAs (Decidable (t ∈ ts))

/-- Both sides of the production are declared. -/
def Production.DeclaredIn (nts : OrderedSet Nonterminal) (ts : OrderedSet Terminal)
    (p : Production) : Prop :=
  p.left ∈ nts ∧ ∀ s ∈ p.right, s.DeclaredIn nts ts

instance (nts : OrderedSet Nonterminal) (ts : OrderedSet Terminal) :
    DecidablePred (Production.DeclaredIn nts ts) :=
  fun p => inferInstanceAs (Decidable (p.left ∈ nts ∧ ∀ s ∈ p.right, s.DeclaredIn nts ts))

/-- The first thing wrong with the declaration of a production. -/
def Production.fault? (nts : OrderedSet Nonterminal) (ts : OrderedSet Terminal)
    (p : Production) : Option GrammarError :=
  if p.left ∈ nts then (p.right.find? (¬ ·.DeclaredIn nts ts)).map (.undeclaredSymbol p)
  else some (.undeclaredNonterminal p)

theorem Production.fault?_eq_none_iff {nts : OrderedSet Nonterminal} {ts : OrderedSet Terminal}
    {p : Production} : p.fault? nts ts = none ↔ p.DeclaredIn nts ts := by
  unfold fault? DeclaredIn
  split
  · rename_i h
    simp [h]
  · rename_i h
    simp [h]

/-- A context-free grammar. -/
@[ext] structure Grammar where
  nonterminals : OrderedSet Nonterminal
  terminals : OrderedSet Terminal
  start : Nonterminal
  productions : List Production
  start_mem : start ∈ nonterminals
  nodup : productions.Nodup
  declared : ∀ p ∈ productions, p.DeclaredIn nonterminals terminals

/-- Keeping the first occurrences leaves no repetition. -/
theorem nodup_eraseDups {α : Type} [DecidableEq α] : ∀ l : List α, l.eraseDups.Nodup
  | [] => List.nodup_nil
  | a :: l => by
    rw [List.eraseDups_cons]
    refine List.nodup_cons.2 ⟨fun h => ?_, nodup_eraseDups (l.filter fun b => !b == a)⟩
    have := (List.mem_filter.1 (List.mem_eraseDups.1 h)).2
    simp at this
termination_by l => l.length
decreasing_by exact Nat.lt_succ_of_le (List.length_filter_le _ _)

theorem eraseDups_eq_self {α : Type} [DecidableEq α] {l : List α} (h : l.Nodup) :
    l.eraseDups = l := by
  induction l with
  | nil => rfl
  | cons a l ih =>
    obtain ⟨ha, hl⟩ := List.nodup_cons.1 h
    have hfilter : l.filter (fun b => !b == a) = l := by
      refine List.filter_eq_self.2 fun b hb => ?_
      have hne : b ≠ a := fun e => ha (e ▸ hb)
      simp [hne]
    rw [List.eraseDups_cons, hfilter, ih hl]

namespace Grammar

/-- The grammar of the given declarations, or the first fault in them. A production that is listed
again counts once, where it stands first. -/
def declare (nonterminals : List Nonterminal) (terminals : List Terminal) (start : Nonterminal)
    (productions : List Production) : Except GrammarError Grammar :=
  let nts := OrderedSet.ofList nonterminals
  let ts := OrderedSet.ofList terminals
  if start_mem : start ∈ nts then
    match fault : productions.findSome? (Production.fault? nts ts) with
    | some e => .error e
    | none => .ok {
        nonterminals := nts
        terminals := ts
        start := start
        productions := productions.eraseDups
        start_mem := start_mem
        nodup := nodup_eraseDups productions
        declared := fun p hp => Production.fault?_eq_none_iff.1
          (List.findSome?_eq_none_iff.1 fault p (List.mem_eraseDups.1 hp)) }
  else .error (.missingSentenceSymbol start)

theorem declare_of_not_mem {nonterminals : List Nonterminal} {terminals : List Terminal}
    {start : Nonterminal} {productions : List Production} (h : start ∉ nonterminals) :
    declare nonterminals terminals start productions = .error (.missingSentenceSymbol start) :=
  dif_neg fun hmem => h (OrderedSet.mem_ofList.1 hmem)

/-- What is declared is the grammar with these parts, if there is one. -/
theorem declare_eq_ok_iff {nonterminals : List Nonterminal} {terminals : List Terminal}
    {start : Nonterminal} {productions : List Production} {g : Grammar} :
    declare nonterminals terminals start productions = .ok g ↔
      g.nonterminals = .ofList nonterminals ∧ g.terminals = .ofList terminals ∧
        g.start = start ∧ g.productions = productions.eraseDups := by
  unfold declare
  dsimp only
  constructor
  · intro h
    split at h
    · split at h
      · cases h
      · cases h
        exact ⟨rfl, rfl, rfl, rfl⟩
    · cases h
  · rintro ⟨hnts, hts, hstart, hps⟩
    have hmem : start ∈ OrderedSet.ofList nonterminals := hnts ▸ hstart ▸ g.start_mem
    have hdeclared : ∀ p ∈ productions,
        p.fault? (.ofList nonterminals) (.ofList terminals) = none := by
      intro p hp
      have hpg : p ∈ g.productions := hps ▸ List.mem_eraseDups.2 hp
      exact Production.fault?_eq_none_iff.2 (hnts ▸ hts ▸ g.declared p hpg)
    have hnone := List.findSome?_eq_none_iff.2 hdeclared
    rw [dif_pos hmem]
    split
    · rename_i e he
      rw [hnone] at he
      cases he
    · exact congrArg Except.ok (Grammar.ext hnts.symm hts.symm hstart.symm hps.symm)

variable (g : Grammar)

/-- The productions of a nonterminal, in order of declaration. -/
def productionsOf (a : Nonterminal) : List Production := g.productions.filter (·.left = a)

theorem mem_productionsOf {a : Nonterminal} {p : Production} :
    p ∈ g.productionsOf a ↔ p ∈ g.productions ∧ p.left = a := by
  simp [productionsOf]

/-- A nonterminal with productions is declared. -/
theorem mem_nonterminals_of_productionsOf {a : Nonterminal} {p : Production}
    (h : p ∈ g.productionsOf a) : a ∈ g.nonterminals := by
  obtain ⟨hp, rfl⟩ := g.mem_productionsOf.1 h
  exact (g.declared p hp).1

end Grammar

end TopDown
