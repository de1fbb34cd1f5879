import Mathlib.Data.List.Perm.Subperm
import TopDown.Proofs.Language
import TopDown.Proofs.SoundLookahead

/-!
# What stands beside a grammar

A grammar may be extended by further nonterminals with productions for them, which may use all
symbols, and by further terminals, in any order of declaration. Nothing in the grammar as it was
leads to what is added, so the analysis stays the same: what is added mentions the old nonterminals,
but nothing follows it, and so nothing follows them there.

* `Grammar.Extends`; `Grammar.Extends.productionsOf`: the alternatives stay as they are;
* `firstWithin_extend`, `followWithin_extend`, `lookAhead_extend`; `follow_added`, `lookAhead_added`;
* `separates_extend`, `findLookahead_extend`, `selection_extend`: the search and the table;
* `Parser.derive_extend`: the texts, also those in the terminals that are added;
* **`extension_conservative`**.
-/

namespace TopDown

namespace Grammar

/-- The grammar has all that `g` has, with the same sentence symbol, and besides productions of
nonterminals that `g` does not declare. -/
structure Extends (g' g : Grammar) : Prop where
  nonterminals : ∀ a ∈ g.nonterminals, a ∈ g'.nonterminals
  terminals : ∀ t ∈ g.terminals, t ∈ g'.terminals
  start : g'.start = g.start
  sublist : g.productions.Sublist g'.productions
  added : ∀ p ∈ g'.productions, p ∉ g.productions → p.left ∉ g.nonterminals

/-- All nonterminals of the form are declared. -/
def Holds (g : Grammar) (w : Form) : Prop := ∀ a, .nonterminal a ∈ w → a ∈ g.nonterminals

variable {g g' : Grammar} {k : Nat} {a : Nonterminal} {p : Production}

theorem holds_right (hp : p ∈ g.productions) : g.Holds p.right := fun _ ha =>
  (g.declared p hp).2 _ ha

theorem Holds.append {v w : Form} (hv : g.Holds v) (hw : g.Holds w) : g.Holds (v ++ w) := by
  intro a ha
  rcases List.mem_append.1 ha with ha | ha
  · exact hv a ha
  · exact hw a ha

theorem Holds.append_toForm {w : Form} (hw : g.Holds w) (u : Word) :
    g.Holds (w ++ Word.toForm u) :=
  hw.append fun a ha => absurd ha (Word.nonterminal_not_mem_toForm a u)

theorem Holds.of_cons {x : Symbol} {w : Form} (h : g.Holds (x :: w)) : g.Holds w :=
  fun a ha => h a (List.mem_cons_of_mem x ha)

theorem holds_after (hp : p ∈ g.productions) (s : Symbol) : g.Holds (p.after s) := fun a ha =>
  holds_right hp a ((p.after_suffix s).subset ha)

namespace Extends

variable (h : g'.Extends g)
include h

/-- What is not declared is no sentence symbol. -/
theorem ne_start (ha : a ∉ g.nonterminals) : a ≠ g'.start := fun e => by
  rw [e, h.start] at ha
  exact ha g.start_mem

/-- The alternatives of a nonterminal stay as they are. -/
theorem productionsOf (ha : a ∈ g.nonterminals) : g'.productionsOf a = g.productionsOf a := by
  have hsub : (g.productionsOf a).Sublist (g'.productionsOf a) := h.sublist.filter _
  refine (hsub.eq_of_length_le ?_).symm
  refine (List.subperm_of_subset (nodup_productionsOf a) fun p hp => ?_).length_le
  obtain ⟨hmem, rfl⟩ := g'.mem_productionsOf.1 hp
  refine g.mem_productionsOf.2 ⟨?_, rfl⟩
  by_contra hnot
  exact h.added p hmem hnot ha

/-- A union over all productions to which those that are added contribute nothing. -/
theorem unionOf_productions {f f' : Production → WordSet}
    (hsame : ∀ p ∈ g.productions, f' p = f p)
    (hadded : ∀ p ∈ g'.productions, p ∉ g.productions → f' p = ∅) :
    WordSet.unionOf g'.productions f' = WordSet.unionOf g.productions f := by
  ext u
  rw [WordSet.mem_unionOf, WordSet.mem_unionOf]
  constructor
  · rintro ⟨p, hp, hu⟩
    by_cases hmem : p ∈ g.productions
    · exact ⟨p, hmem, hsame p hmem ▸ hu⟩
    · rw [hadded p hp hmem] at hu
      exact absurd hu (OrderedSet.not_mem_empty u)
  · rintro ⟨p, hp, hu⟩
    exact ⟨p, h.sublist.subset hp, (hsame p hp).symm ▸ hu⟩

end Extends

/-! ## The lookahead -/

/-- The words that begin a form of the grammar. -/
theorem firstWithin_extend (h : g'.Extends g) (opened : Opened) (k : Nat) {w : Form}
    (hw : g.Holds w) : g'.firstWithin opened k w = g.firstWithin opened k w := by
  induction opened, k, w using Grammar.firstWithin.induct g with
  | case1 opened w => rw [firstWithin, firstWithin]
  | case2 opened k => rw [firstWithin, firstWithin]
  | case3 opened k t w ih => rw [firstWithin, firstWithin, ih hw.of_cons]
  | case4 opened k a w ha =>
    rw [firstWithin_nonterminal, firstWithin_nonterminal, if_pos ha, if_pos ha]
  | case5 opened k a w ha ihRest ihRight =>
    rw [firstWithin_nonterminal, firstWithin_nonterminal, if_neg ha, if_neg ha,
      h.productionsOf (hw a List.mem_cons_self)]
    refine WordSet.unionOf_congr fun p hp => ?_
    rw [ihRest hw.of_cons, ihRight p hp (holds_right (g.mem_productionsOf.1 hp).1)]

theorem first_extend (h : g'.Extends g) (k : Nat) {w : Form} (hw : g.Holds w) :
    g'.first k w = g.first k w := by
  rw [first_eq_firstWithin, first_eq_firstWithin, firstWithin_extend h ∅ k hw]

theorem firstBefore_extend (h : g'.Extends g) (k : Nat) {w : Form} (hw : g.Holds w)
    (outer : WordSet) : g'.firstBefore k w outer = g.firstBefore k w outer := by
  ext u
  rw [mem_firstBefore, mem_firstBefore]
  exact exists_congr fun f => by rw [first_extend h k (hw.append_toForm f)]

theorem firstBefore_empty (w : Form) : g.firstBefore k w ∅ = ∅ := rfl

/-- Nothing follows what is added: it stands in productions of the like only. -/
theorem followWithin_added (h : g'.Extends g) (opened : Opened) (ha : a ∉ g.nonterminals) :
    g'.followWithin opened k a = ∅ := by
  induction opened, a using Grammar.followWithin.induct g' with
  | case1 opened a hopen =>
    rw [followWithin_eq, if_pos hopen, endOfInput, if_neg (h.ne_start ha)]
  | case2 opened a hopen ih =>
    rw [followWithin_eq, if_neg hopen, endOfInput, if_neg (h.ne_start ha)]
    ext u
    refine ⟨fun hu => ?_, fun hu => absurd hu (OrderedSet.not_mem_empty u)⟩
    rcases OrderedSet.mem_union.1 hu with hu | hu
    · exact hu
    · obtain ⟨p, hp, hu⟩ := WordSet.mem_unionOf.1 hu
      split at hu
      · exact hu
      · rename_i hne
        have hleft : p.left ∉ g.nonterminals := by
          refine h.added p hp fun hmem => ha ?_
          exact holds_right hmem a (p.mem_right_of_after fun e => hne (e ▸ rfl))
        rwa [ih p hp hne hleft, firstBefore_empty] at hu

/-- The words that follow a nonterminal of the grammar. -/
theorem followWithin_extend (h : g'.Extends g) (opened : Opened) (ha : a ∈ g.nonterminals) :
    g'.followWithin opened k a = g.followWithin opened k a := by
  induction opened, a using Grammar.followWithin.induct g with
  | case1 opened a hopen =>
    rw [followWithin_eq, followWithin_eq, if_pos hopen, if_pos hopen, endOfInput, endOfInput,
      h.start]
  | case2 opened a hopen ih =>
    rw [followWithin_eq, followWithin_eq, if_neg hopen, if_neg hopen, endOfInput, endOfInput,
      h.start]
    congr 1
    refine h.unionOf_productions (fun p hp => ?_) fun p hp hnot => ?_
    · split
      · rfl
      · rename_i hne
        rw [ih p hp hne (g.declared p hp).1, firstBefore_extend h k (holds_after hp _)]
    · split
      · rfl
      · rw [followWithin_added h _ (h.added p hp hnot), firstBefore_empty]

theorem follow_extend (h : g'.Extends g) (k : Nat) (ha : a ∈ g.nonterminals) :
    g'.follow k a = g.follow k a := by
  rw [follow_eq_followWithin, follow_eq_followWithin, followWithin_extend h ∅ ha]

theorem follow_added (h : g'.Extends g) (k : Nat) (ha : a ∉ g.nonterminals) :
    g'.follow k a = ∅ := by
  rw [follow_eq_followWithin, followWithin_added h ∅ ha]

theorem lookAhead_extend (h : g'.Extends g) (k : Nat) (hp : p ∈ g.productions) :
    g'.lookAhead k p = g.lookAhead k p := by
  unfold lookAhead
  rw [follow_extend h k (g.declared p hp).1, firstBefore_extend h k (holds_right hp)]

theorem lookAhead_added (h : g'.Extends g) (hk : 1 ≤ k) (hleft : p.left ∉ g.nonterminals) :
    g'.lookAhead k p = ∅ :=
  lookAhead_eq_empty hk (follow_added h k hleft)

/-! ## The search and the table -/

/-- What is added is told apart by having no lookahead words at all. -/
theorem separates_extend (h : g'.Extends g) (hk : 1 ≤ k) : g'.Separates k ↔ g.Separates k := by
  constructor
  · intro hsep a ha p hp q hq hpq u hup
    have hlook : ∀ r ∈ g.productionsOf a, g'.lookAhead k r = g.lookAhead k r := fun r hr =>
      lookAhead_extend h k (g.mem_productionsOf.1 hr).1
    rw [← hlook q hq]
    rw [← hlook p hp] at hup
    rw [← h.productionsOf ha] at hp hq
    exact hsep a (h.nonterminals a ha) p hp q hq hpq u hup
  · intro hsep a _ p hp q hq hpq u hup
    by_cases ha : a ∈ g.nonterminals
    · rw [h.productionsOf ha] at hp hq
      rw [lookAhead_extend h k (g.mem_productionsOf.1 hp).1] at hup
      rw [lookAhead_extend h k (g.mem_productionsOf.1 hq).1]
      exact hsep a ha p hp q hq hpq u hup
    · obtain ⟨-, rfl⟩ := g'.mem_productionsOf.1 hp
      rw [lookAhead_added h hk ha] at hup
      exact absurd hup (OrderedSet.not_mem_empty u)

/-- Alternatives do not become fewer. -/
theorem isDeterministic_of_extend (h : g'.Extends g) (hdet : g'.isDeterministic = true) :
    g.isDeterministic = true := by
  rw [isDeterministic_iff] at hdet ⊢
  intro a ha
  rw [← h.productionsOf ha]
  exact hdet a (h.nonterminals a ha)

/-- **The length of the lookahead stays the same**, if it was searched for. -/
theorem findLookahead_extend (h : g'.Extends g) (hg : ¬ g.isDeterministic = true)
    (bound : Option Nat) : (g'.findLookahead bound).value = (g.findLookahead bound).value :=
  findLookahead_congr (iff_of_false (fun hdet => hg (isDeterministic_of_extend h hdet)) hg)
    (fun _ hk => separates_extend h hk) bound

/-- What was searched for is at least one terminal long. -/
theorem one_le_of_findLookahead (hg : ¬ g.isDeterministic = true) {bound : Option Nat}
    (hk : (g.findLookahead bound).value = .ok k) : 1 ≤ k := by
  rw [findLookahead_eq_getD, findLookahead_eq_ok_iff hg] at hk
  exact hk.1.1.1

/-- **The table has the same entries**, and none for what is added. -/
theorem get?_tabulate_extend (h : g'.Extends g) (hk : 1 ≤ k) (hsep : g.Separates k)
    (a : Nonterminal) (w : Word) :
    (g'.tabulate k).value.get? a w = (g.tabulate k).value.get? a w := by
  ext p
  rw [get?_tabulate_eq_some_iff ((separates_extend h hk).2 hsep), get?_tabulate_eq_some_iff hsep]
  by_cases ha : a ∈ g.nonterminals
  · rw [h.productionsOf ha]
    refine and_congr_right fun hp => ?_
    rw [lookAhead_extend h k (g.mem_productionsOf.1 hp).1]
  · refine iff_of_false ?_ fun hp => ha (g.mem_nonterminals_of_productionsOf hp.1)
    rintro ⟨hp, hw⟩
    obtain ⟨-, rfl⟩ := g'.mem_productionsOf.1 hp
    rw [lookAhead_added h hk ha] at hw
    exact OrderedSet.not_mem_empty w hw

theorem selection_extend (h : g'.Extends g) (hk : 1 ≤ k) (hsep : g.Separates k) :
    (g'.tabulate k).value.selection = (g.tabulate k).value.selection := by
  funext a u p
  simp only [Table.selection, k_tabulate, get?_tabulate_extend h hk hsep]

end Grammar

/-! ## The parser -/

/-- **The same texts are accepted**, by the same derivations: a text with a terminal that is added is
read now, but not derived. -/
theorem Parser.derive_extend {g g' : Grammar} {k : Nat} (h : g'.Extends g) (hk : 1 ≤ k)
    (hsep : g.Separates k) (text : String) :
    ((⟨g', (g'.tabulate k).value⟩ : Parser).derive text).value =
      ((⟨g, (g.tabulate k).value⟩ : Parser).derive text).value := by
  ext ds
  rw [derive_eq_some_iff, derive_eq_some_iff]
  refine exists_congr fun w => ?_
  simp only [padding, Parser.k, Grammar.k_tabulate, Grammar.selection_extend h hk hsep, h.start]
  refine and_congr_left fun hds => ?_
  rw [readInput_eq_ok_iff, readInput_eq_ok_iff]
  refine and_congr_right fun _ => forall₂_congr fun x hx => and_congr_left fun _ => ?_
  -- a word that is consumed consists of letters of the grammar as it was
  have hdecl : x ∈ g.terminals :=
    Grammar.mem_terminals_of_derives (Grammar.derives_of_consumes hds) x hx
  exact ⟨fun _ => hdecl, fun _ => h.terminals x hdecl⟩

/-! ## The analysis -/

namespace Grammar

/-- **What nothing leads to does not disturb the analysis.** Let some nonterminal have not exactly
one production, and let a grammar be extended by nonterminals, by productions of theirs and by
terminals, in any order of declaration. What begins a form, follows a nonterminal or selects a
production stays the same, nothing follows or selects what is added, the search gives the same
result for every bound, and all texts are derived as before. -/
theorem extension_conservative {g g' : Grammar} (h : g'.Extends g)
    (hg : ¬ ∀ a ∈ g.nonterminals, (g.productionsOf a).length = 1) :
    (∀ k, 1 ≤ k →
      (∀ w, g.Holds w → g'.first k w = g.first k w) ∧
      (∀ a ∈ g.nonterminals, g'.follow k a = g.follow k a) ∧
      (∀ p ∈ g.productions, g'.lookAhead k p = g.lookAhead k p) ∧
      ∀ a ∈ g'.nonterminals, a ∉ g.nonterminals →
        g'.follow k a = ∅ ∧ ∀ p ∈ g'.productionsOf a, g'.lookAhead k p = ∅) ∧
    (∀ bound, (g'.findLookahead bound).value = (g.findLookahead bound).value) ∧
    ∀ bound P, (g.toParser bound).value = .ok P → ∃ P', (g'.toParser bound).value = .ok P' ∧
      ∀ text, (P'.derive text).value = (P.derive text).value := by
  rw [← isDeterministic_iff] at hg
  refine ⟨fun k hk => ⟨fun w hw => first_extend h k hw, fun a ha => follow_extend h k ha,
    fun p hp => lookAhead_extend h k hp, fun a _ ha => ⟨follow_added h k ha, fun p hp => ?_⟩⟩,
    findLookahead_extend h hg, fun bound P hP => ?_⟩
  · obtain ⟨-, rfl⟩ := g'.mem_productionsOf.1 hp
    exact lookAhead_added h hk ha
  · obtain ⟨k, hk, rfl⟩ := toParser_eq_ok hP
    have hk' : (g'.findLookahead bound).value = .ok k := (findLookahead_extend h hg bound).trans hk
    exact ⟨_, toParser_of_findLookahead hk',
      Parser.derive_extend h (one_le_of_findLookahead hg hk) (separates_of_findLookahead hk)⟩

open Sample in
theorem extension_conservative_nested :
    nestedExtended.Extends nested ∧
    (¬ ∀ a ∈ nested.nonterminals, (nested.productionsOf a).length = 1) ∧
      nestedExtended.follow 2 S = nested.follow 2 S ∧
      nestedExtended.follow 2 A = ∅ ∧
      (nestedExtended.findLookahead (some 4)).value = .ok 1 ∧
      ∃ P, (nestedExtended.toParser (some 4)).value = .ok P ∧
        (P.derive "acd").value =
          ((⟨nested, (nested.tabulate 1).value⟩ : Parser).derive "acd").value := by
  have hextends : nestedExtended.Extends nested :=
    ⟨by decide, by decide, rfl, by decide, by decide⟩
  have hnested : ¬ ∀ a ∈ nested.nonterminals, (nested.productionsOf a).length = 1 := by decide
  have hfound : (nested.findLookahead (some 4)).value = .ok 1 := by decide +kernel
  obtain ⟨hwords, hsearch, htexts⟩ := extension_conservative hextends hnested
  obtain ⟨-, hfollow, -, hadded⟩ := hwords 2 (by decide)
  obtain ⟨P, hP, hderive⟩ := htexts (some 4) _ (toParser_of_findLookahead hfound)
  exact ⟨hextends, hnested, hfollow S (by decide), (hadded A (by decide) (by decide)).1,
    (hsearch (some 4)).trans hfound, P, hP, hderive "acd"⟩

end Grammar

end TopDown
