import TopDown.Proofs.Language
import TopDown.Proofs.Rounds

/-!
# Grammars without alternatives

Where every nonterminal has exactly one production there is nothing to be told apart, so the parser
looks at nothing. Derivations differ in the order of their steps only: whatever is derived from a
form goes on to the word that the form derives, by fewer productions. So there is one word at most,
and there is none iff some nonterminal on the way comes up inside itself.

* `Rewrites.consumes`, `Derives.consumes`: one step, and any number of steps, on the way to a word;
* `Derives.word_unique`: at most one word;
* `Grammar.Reaches`, `Grammar.LeadsTo`, `Grammar.Recursive`: what a nonterminal comes up in;
* `LeadsTo.not_consumes`, `exists_word_of_reaches`, `recursive_iff`: where there is no word;
* **`ll0_correct`**: the parser of such a grammar.
-/

namespace TopDown

variable {x y : Form} {u v w w' : Word} {a b c : Nonterminal} {p q : Production}
  {ds : List Production}

/-- A nonterminal in a stack consumes a part of the input by some of the productions. -/
theorem Consumes.exists_of_nonterminal {sel : Selection}
    (h : Consumes sel (x ++ .nonterminal a :: y) u ds v) :
    ∃ u' es v', Consumes sel [.nonterminal a] u' es v' ∧ es.length ≤ ds.length := by
  obtain ⟨ds₁, u', ds₂, rfl, -, hrest⟩ := h.exists_of_append
  obtain ⟨es, v', es', rfl, hes, -⟩ := Consumes.exists_of_append (x := [.nonterminal a]) hrest
  rw [List.length_append, List.length_append]
  exact ⟨u', es, v', hes, by omega⟩

namespace Grammar

variable {g : Grammar}

/-- The only production of a nonterminal. -/
theorem eq_of_mem_productionsOf (h : g.isDeterministic = true) (hp : p ∈ g.productionsOf a)
    (hq : q ∈ g.productionsOf a) : p = q := by
  obtain ⟨r, hr⟩ := List.length_eq_one_iff.1
    (isDeterministic_iff.1 h a (g.mem_nonterminals_of_productionsOf hp))
  rw [hr, List.mem_singleton] at hp hq
  exact hp.trans hq.symm

/-! ## On the way to a word -/

/-- **A step anywhere in a stack saves a production**, and the stack consumes the same. -/
theorem Rewrites.consumes (h : g.isDeterministic = true) (hxy : g.Rewrites x y)
    (hx : Consumes g.selection x u ds v) :
    ∃ es, Consumes g.selection y u es v ∧ es.length < ds.length := by
  obtain @⟨p, l, r, hp⟩ := hxy
  obtain ⟨ds₁, u', ds₂, rfl, hl, hrest⟩ := hx.exists_of_append
  obtain ⟨q, es, rfl, hq, hright⟩ := Consumes.nonterminal_iff.1 hrest
  -- the production of the step is the one that the stack is going to take there
  obtain rfl : p = q := eq_of_mem_productionsOf h (g.mem_productionsOf.2 ⟨hp, rfl⟩) hq
  refine ⟨ds₁ ++ es, hl.append hright, ?_⟩
  rw [List.length_append, List.length_append, List.length_cons]
  omega

theorem Derives.consumes (h : g.isDeterministic = true) (hxy : g.Derives x y)
    (hx : Consumes g.selection x u ds v) :
    ∃ es, Consumes g.selection y u es v ∧ es.length ≤ ds.length := by
  induction hxy with
  | refl => exact ⟨ds, hx, Nat.le_refl _⟩
  | tail _ hstep ih =>
    obtain ⟨es, hes, hle⟩ := ih
    obtain ⟨fs, hfs, hlt⟩ := hstep.consumes h hes
    exact ⟨fs, hfs, by omega⟩

/-- **At most one word is derived.** -/
theorem Derives.word_unique (h : g.isDeterministic = true) (hw : g.Derives x (Word.toForm w))
    (hw' : g.Derives x (Word.toForm w')) : w = w' := by
  obtain ⟨ds, hds⟩ := hw.exists_consumes []
  obtain ⟨es, hes, -⟩ := hw'.consumes h hds
  obtain ⟨-, hsame⟩ := Consumes.toForm_iff.1 hes
  rwa [List.append_nil, List.append_nil] at hsame

/-! ## Recursion -/

variable (g) in
/-- Some form derived from `a` holds `b`. -/
def Reaches (a b : Nonterminal) : Prop :=
  ∃ x y, g.Derives [.nonterminal a] (x ++ .nonterminal b :: y)

variable (g) in
/-- Some form derived from `a` by one step at least holds `b`. -/
def LeadsTo (a b : Nonterminal) : Prop :=
  ∃ x y, Relation.TransGen g.Rewrites [.nonterminal a] (x ++ .nonterminal b :: y)

variable (g) in
/-- A nonterminal that the sentence symbol reaches leads to itself. -/
def Recursive : Prop := ∃ a, g.Reaches g.start a ∧ g.LeadsTo a a

/-- What a nonterminal reaches, it reaches within any form. -/
theorem Reaches.inside (h : g.Reaches a b) (x y : Form) :
    ∃ x' y', g.Derives (x ++ .nonterminal a :: y) (x' ++ .nonterminal b :: y') := by
  obtain ⟨x', y', h⟩ := h
  have hinside : g.Derives (x ++ .nonterminal a :: y) (x ++ (x' ++ .nonterminal b :: y' ++ y)) :=
    (h.append_right y).append_left x
  rw [List.append_assoc, List.cons_append, ← List.append_assoc] at hinside
  exact ⟨x ++ x', y' ++ y, hinside⟩

theorem Reaches.trans (hab : g.Reaches a b) (hbc : g.Reaches b c) : g.Reaches a c := by
  obtain ⟨x, y, hab⟩ := hab
  obtain ⟨x', y', hbc⟩ := hbc.inside x y
  exact ⟨x', y', Derives.trans hab hbc⟩

theorem LeadsTo.trans_reaches (hab : g.LeadsTo a b) (hbc : g.Reaches b c) : g.LeadsTo a c := by
  obtain ⟨x, y, hab⟩ := hab
  obtain ⟨x', y', hbc⟩ := hbc.inside x y
  exact ⟨x', y', hab.trans_left hbc⟩

theorem LeadsTo.reaches (h : g.LeadsTo a b) : g.Reaches a b := by
  obtain ⟨x, y, h⟩ := h
  exact ⟨x, y, h.to_reflTransGen⟩

/-- A nonterminal leads to those on its right sides. -/
theorem leadsTo_of_mem_right (hp : p ∈ g.productionsOf a) (hb : .nonterminal b ∈ p.right) :
    g.LeadsTo a b := by
  obtain ⟨hmem, rfl⟩ := g.mem_productionsOf.1 hp
  obtain ⟨x, y, hright⟩ := List.append_of_mem hb
  have hstep : g.Rewrites [.nonterminal p.left] ([] ++ (p.right ++ [])) := .intro [] [] hmem
  rw [List.nil_append, List.append_nil, hright] at hstep
  exact ⟨x, y, .single hstep⟩

/-! ## Words that are never derived -/

theorem Reaches.consumes (h : g.isDeterministic = true) (hab : g.Reaches a b)
    (ha : Consumes g.selection [.nonterminal a] u ds v) :
    ∃ u' es v', Consumes g.selection [.nonterminal b] u' es v' := by
  obtain ⟨x, y, hxy⟩ := hab
  obtain ⟨es, hes, -⟩ := hxy.consumes h ha
  obtain ⟨u', fs, v', hfs, -⟩ := hes.exists_of_nonterminal
  exact ⟨u', fs, v', hfs⟩

/-- **A nonterminal that leads to itself consumes nothing**, not even the empty word. -/
theorem LeadsTo.not_consumes (h : g.isDeterministic = true) (ha : g.LeadsTo a a) :
    ¬ Consumes g.selection [.nonterminal a] u ds v := by
  induction hn : ds.length using Nat.strong_induction_on generalizing u ds v with
  | _ n ih =>
    intro hds
    obtain ⟨x, y, hxy⟩ := ha
    obtain ⟨z, hstep, hz⟩ := Relation.TransGen.head'_iff.1 hxy
    obtain ⟨es, hes, hlt⟩ := hstep.consumes h hds
    obtain ⟨fs, hfs, hle⟩ := Derives.consumes h hz hes
    -- where it comes up again, the nonterminal consumes something by fewer productions
    obtain ⟨u', gs, v', hgs, hle'⟩ := hfs.exists_of_nonterminal
    exact ih gs.length (by omega) rfl hgs

theorem Recursive.not_derives (h : g.isDeterministic = true) (hrec : g.Recursive) :
    ¬ g.Derives [.nonterminal g.start] (Word.toForm w) := by
  intro hw
  obtain ⟨a, hreaches, hleads⟩ := hrec
  obtain ⟨ds, hds⟩ := hw.exists_consumes []
  obtain ⟨u, es, v, hes⟩ := hreaches.consumes h hds
  exact hleads.not_consumes h hes

/-! ## Words that are derived -/

/-- A form derives a word if each of its symbols does. -/
theorem exists_word_of_forall_mem (h : ∀ s ∈ x, ∃ w, g.Derives [s] (Word.toForm w)) :
    ∃ w, g.Derives x (Word.toForm w) := by
  induction x with
  | nil => exact ⟨[], .refl _⟩
  | cons s x ih =>
    rw [List.forall_mem_cons] at h
    obtain ⟨u, hu⟩ := h.1
    obtain ⟨v, hv⟩ := ih h.2
    have hboth : g.Derives (s :: x) (Word.toForm u ++ Word.toForm v) :=
      Derives.trans (hu.append_right x) (hv.append_left (Word.toForm u))
    rw [← Word.toForm_append] at hboth
    exact ⟨u ++ v, hboth⟩

/-- Where nothing that the sentence symbol reaches leads to itself, whatever it reaches derives a
word: the way to a nonterminal never goes through it before. -/
theorem exists_word_of_reaches (h : g.isDeterministic = true) (hrec : ¬ g.Recursive)
    {opened : Opened} (ha : a ∈ g.nonterminals) (hreaches : g.Reaches g.start a)
    (hopened : ∀ b ∈ opened, g.LeadsTo b a) :
    ∃ w, g.Derives [.nonterminal a] (Word.toForm w) := by
  induction hn : g.unopened opened using Nat.strong_induction_on generalizing a opened with
  | _ n ih =>
    have hnot : a ∉ opened := fun hmem => hrec ⟨a, hreaches, hopened a hmem⟩
    obtain ⟨p, hsingle⟩ := List.length_eq_one_iff.1 (isDeterministic_iff.1 h a ha)
    have hp : p ∈ g.productionsOf a := hsingle ▸ List.mem_singleton.2 rfl
    have hright : ∃ w, g.Derives p.right (Word.toForm w) := by
      refine exists_word_of_forall_mem fun s hs => ?_
      cases s with
      | terminal t => exact ⟨[t], .refl _⟩
      | nonterminal b =>
        have hab : g.LeadsTo a b := leadsTo_of_mem_right hp hs
        have hb : b ∈ g.nonterminals := (g.declared p (g.mem_productionsOf.1 hp).1).2 _ hs
        have hlt : g.unopened (opened.insert a) < n := hn ▸ unopened_insert_lt ha hnot
        refine ih _ hlt hb (hreaches.trans hab.reaches) (fun c hc => ?_) rfl
        rcases OrderedSet.mem_insert.1 hc with rfl | hc
        · exact hab
        · exact (hopened c hc).trans_reaches hab.reaches
    obtain ⟨w, hw⟩ := hright
    have hstep : g.Derives [.nonterminal a] (p.right ++ []) := .of_mem_productionsOf hp
    rw [List.append_nil] at hstep
    exact ⟨w, hstep.trans hw⟩

/-- **No word is derived iff some nonterminal on the way leads to itself.** -/
theorem recursive_iff (h : g.isDeterministic = true) :
    g.Recursive ↔ ¬ ∃ w, g.Derives [.nonterminal g.start] (Word.toForm w) := by
  constructor
  · intro hrec hword
    obtain ⟨w, hw⟩ := hword
    exact hrec.not_derives h hw
  · intro hnone
    by_contra hrec
    have hopened : ∀ b ∈ (∅ : Opened), g.LeadsTo b g.start := nofun
    exact hnone (exists_word_of_reaches h hrec g.start_mem ⟨[], [], .refl _⟩ hopened)

/-! ## The parser -/

/-- **Without alternatives no lookahead is exact.** Where every nonterminal has exactly one
production, there is a parser without lookahead within any bound, and it accepts the words of the
grammar: one at most, and none where some nonterminal on the way leads to itself, though the parser
still comes to an end. -/
theorem ll0_correct (h : ∀ a ∈ g.nonterminals, (g.productionsOf a).length = 1)
    (bound : Option Nat) :
    ∃ P, (g.toParser bound).value = .ok P ∧ P.k = 0 ∧
      (∀ text, P.accepts text = true ↔
        ∃ w : Word, text.toList = w.map Terminal.char ∧ (∀ x ∈ w, x ≠ .endMark) ∧
          g.Derives [.nonterminal g.start] (Word.toForm w)) ∧
      (∀ text text', P.accepts text = true → P.accepts text' = true → text = text') ∧
      (g.Recursive ↔ ¬ ∃ w, g.Derives [.nonterminal g.start] (Word.toForm w)) ∧
      (g.Recursive → ∀ text, (P.derive text).value = none ∧
        P.deriveWithin (P.roundBound text.length) text = some (P.derive text)) := by
  have hdet : g.isDeterministic = true := isDeterministic_iff.2 h
  have haccepts : ∀ text, (⟨g, (g.tabulate 0).value⟩ : Parser).accepts text = true ↔
      ∃ w : Word, text.toList = w.map Terminal.char ∧ (∀ x ∈ w, x ≠ .endMark) ∧
        g.Derives [.nonterminal g.start] (Word.toForm w) := by
    intro text
    refine accepts_iff_derives (separates_of_isDeterministic hdet) fun a p u ds v _ _ => ?_
    rw [lookAhead, if_pos rfl, List.take_zero]
    exact OrderedSet.mem_singleton.2 rfl
  refine ⟨_, toParser_of_findLookahead (findLookahead_of_isDeterministic hdet bound), rfl,
    haccepts, fun text text' htext htext' => ?_, recursive_iff hdet, fun hrec text => ⟨?_, ?_⟩⟩
  · obtain ⟨w, hw, -, hderives⟩ := (haccepts text).1 htext
    obtain ⟨w', hw', -, hderives'⟩ := (haccepts text').1 htext'
    obtain rfl : w = w' := hderives.word_unique hdet hderives'
    exact String.toList_injective (hw.trans hw'.symm)
  · rw [← Option.not_isSome_iff_eq_none]
    intro hsome
    obtain ⟨w, -, -, hderives⟩ := (haccepts text).1 hsome
    exact hrec.not_derives hdet hderives
  · exact Parser.deriveWithin_eq_derive (Nat.le_refl _)

open Sample in
theorem ll0_correct_samples :
    (∀ a ∈ chain.nonterminals, (chain.productionsOf a).length = 1) ∧
      (∃ P, (chain.toParser (some 0)).value = .ok P ∧ P.k = 0 ∧ P.accepts "ab" = true ∧
        ∀ text, P.accepts text = true → text = "ab") ∧
    (∀ a ∈ leftRecursive.nonterminals, (leftRecursive.productionsOf a).length = 1) ∧
      leftRecursive.Recursive ∧
      ∃ P, (leftRecursive.toParser none).value = .ok P ∧ P.k = 0 ∧
        (P.derive "b").value = none ∧
        P.deriveWithin (P.roundBound 1) "b" = some (P.derive "b") := by
  have hchain : ∀ a ∈ chain.nonterminals, (chain.productionsOf a).length = 1 :=
    isDeterministic_iff.1 (by decide)
  have hleft : ∀ a ∈ leftRecursive.nonterminals, (leftRecursive.productionsOf a).length = 1 :=
    isDeterministic_iff.1 (by decide)
  have hword : chain.Derives [.nonterminal S] (Word.toForm [Sample.a, Sample.b]) := by
    have hfirst : chain.Derives [.nonterminal S] [.terminal Sample.a, .nonterminal A] :=
      .of_mem_productionsOf (x := []) (p := ⟨S, [.terminal Sample.a, .nonterminal A]⟩) (by decide)
    have hsecond : chain.Derives [.nonterminal A] [.terminal Sample.b] :=
      .of_mem_productionsOf (x := []) (p := ⟨A, [.terminal Sample.b]⟩) (by decide)
    exact hfirst.trans (hsecond.append_left [.terminal Sample.a])
  have hrecursive : leftRecursive.Recursive := by
    have hstart : leftRecursive.LeadsTo S A :=
      leadsTo_of_mem_right (p := ⟨S, [.nonterminal A]⟩) (by decide) (by decide)
    have hself : leftRecursive.LeadsTo A A :=
      leadsTo_of_mem_right (p := ⟨A, [.nonterminal A, .terminal Sample.b]⟩) (by decide) (by decide)
    exact ⟨A, hstart.reaches, hself⟩
  obtain ⟨P, hP, hk, haccepts, hunique, -, -⟩ := ll0_correct hchain (some 0)
  obtain ⟨Q, hQ, hk', -, -, -, hnone⟩ := ll0_correct hleft none
  have hab : P.accepts "ab" = true := (haccepts "ab").2 ⟨_, rfl, by decide, hword⟩
  exact ⟨hchain, ⟨P, hP, hk, hab, fun text htext => hunique text "ab" htext hab⟩, hleft, hrecursive,
    Q, hQ, hk', hnone hrecursive "b"⟩

end Grammar

end TopDown
