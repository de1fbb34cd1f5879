import Mathlib.Logic.Equiv.Basic
import TopDown.Proofs.Recognition
import TopDown.Proofs.Renaming

/-!
# What the names and the order of the productions do not matter for

A renaming that carries a grammar to another carries its analysis along: the words that begin a
form, follow a nonterminal or select a production, the table and the derivations of texts; the
length of the lookahead is the same. Nonterminals are opened in the order of the productions, the
search raises `k` in the order of the letters, and a later entry of the table would replace an
earlier one, but none of this shows in a result.

* `WordSet.unionOf_rename`: unions do not depend on an order;
* `firstWithin_rename`, `followWithin_rename`, `lookAhead_rename`;
* `separates_rename`, `findLookahead_rename`, `get?_tabulate_rename`;
* `Consumes.rename`, `Parser.derive_rename`;
* **`analysis_invariant`**.
-/

namespace TopDown

variable {ρ : Renaming} {g g' : Grammar} {k : Nat}

/-- A union over renamed members, in any order, is the renamed union. -/
theorem WordSet.unionOf_rename {α : Type} {r : α → α} {l l' : List α} {f f' : α → WordSet}
    (hl : ∀ a, a ∈ l' ↔ a ∈ l.map r) (hf : ∀ a ∈ l, f' (r a) = ρ.words (f a)) :
    unionOf l' f' = ρ.words (unionOf l f) :=
  calc unionOf l' f' = unionOf (l.map r) f' := unionOf_eq_of_mem_iff hl
    _ = unionOf l fun a => f' (r a) := unionOf_map
    _ = unionOf l fun a => ρ.words (f a) := unionOf_congr hf
    _ = ρ.words (unionOf l f) := image_unionOf.symm

namespace Grammar

/-! ## The lookahead -/

/-- The words that begin a renamed form. -/
theorem firstWithin_rename (h : ρ.Carries g g') (opened : Opened) (k : Nat) (w : Form) :
    g'.firstWithin (opened.image ρ.nonterminal) k (ρ.form w) =
      ρ.words (g.firstWithin opened k w) := by
  induction opened, k, w using Grammar.firstWithin.induct g with
  | case1 opened w =>
    rw [firstWithin, firstWithin]
    rfl
  | case2 opened k =>
    rw [Renaming.form_nil, firstWithin, firstWithin]
    rfl
  | case3 opened k t w ih =>
    rw [Renaming.form_terminal, firstWithin, firstWithin, ih]
    exact (WordSet.image_concat_singleton rfl (ρ.word_append [t])).symm
  | case4 opened k a w ha =>
    have ha' : ρ.nonterminal a ∈ opened.image ρ.nonterminal := ρ.nonterminal_mem_image.2 ha
    rw [Renaming.form_nonterminal, firstWithin_nonterminal, firstWithin_nonterminal, if_pos ha,
      if_pos ha']
    rfl
  | case5 opened k a w ha ihRest ihRight =>
    have ha' : ρ.nonterminal a ∉ opened.image ρ.nonterminal := mt ρ.nonterminal_mem_image.1 ha
    rw [Renaming.form_nonterminal, firstWithin_nonterminal, firstWithin_nonterminal, if_neg ha,
      if_neg ha']
    refine WordSet.unionOf_rename (fun p => h.mem_productionsOf) fun p hp => ?_
    rw [Renaming.production_isLambda, ← OrderedSet.image_insert]
    split
    · exact ihRest
    · exact ihRight p hp

theorem first_rename (h : ρ.Carries g g') (k : Nat) (w : Form) :
    g'.first k (ρ.form w) = ρ.words (g.first k w) := by
  rw [first_eq_firstWithin, first_eq_firstWithin]
  exact firstWithin_rename h ∅ k w

theorem firstBefore_rename (h : ρ.Carries g g') (k : Nat) (w : Form) (outer : WordSet) :
    g'.firstBefore k (ρ.form w) (ρ.words outer) = ρ.words (g.firstBefore k w outer) := by
  refine OrderedSet.flatMap_image fun u _ => ?_
  have hform : ρ.form w ++ Word.toForm (ρ.word u) = ρ.form (w ++ Word.toForm u) := by simp
  rw [hform, first_rename h]
  rfl

theorem endOfInput_rename (h : ρ.Carries g g') (k : Nat) (a : Nonterminal) :
    g'.endOfInput k (ρ.nonterminal a) = ρ.words (g.endOfInput k a) := by
  unfold endOfInput
  rw [h.start]
  by_cases ha : a = g.start
  · rw [if_pos ha, if_pos (congrArg ρ.nonterminal ha), Renaming.words_singleton,
      Renaming.word_replicate]
  · rw [if_neg ha, if_neg fun e => ha (ρ.nonterminal.injective e), Renaming.words_empty]

/-- The words that follow a renamed nonterminal. -/
theorem followWithin_rename (h : ρ.Carries g g') (opened : Opened) (k : Nat) (a : Nonterminal) :
    g'.followWithin (opened.image ρ.nonterminal) k (ρ.nonterminal a) =
      ρ.words (g.followWithin opened k a) := by
  induction opened, a using Grammar.followWithin.induct g with
  | case1 opened a ha =>
    have ha' : ρ.nonterminal a ∈ opened.image ρ.nonterminal := ρ.nonterminal_mem_image.2 ha
    rw [followWithin_eq, followWithin_eq, if_pos ha, if_pos ha', endOfInput_rename h]
  | case2 opened a ha ih =>
    have ha' : ρ.nonterminal a ∉ opened.image ρ.nonterminal := mt ρ.nonterminal_mem_image.1 ha
    rw [followWithin_eq, followWithin_eq, if_neg ha, if_neg ha', Renaming.words_union,
      endOfInput_rename h]
    congr 1
    refine WordSet.unionOf_rename h.mem_productions fun p hp => ?_
    have hnil : (ρ.form (p.after (.nonterminal a))).isEmpty = (p.after (.nonterminal a)).isEmpty :=
      List.isEmpty_map
    rw [Renaming.production_after, hnil, ← OrderedSet.image_insert]
    split
    · rfl
    · rw [Renaming.production_left, ih p hp ‹_›, firstBefore_rename h]

theorem follow_rename (h : ρ.Carries g g') (k : Nat) (a : Nonterminal) :
    g'.follow k (ρ.nonterminal a) = ρ.words (g.follow k a) := by
  rw [follow_eq_followWithin, follow_eq_followWithin]
  exact followWithin_rename h ∅ k a

theorem lookAhead_rename (h : ρ.Carries g g') (k : Nat) (p : Production) :
    g'.lookAhead k (ρ.production p) = ρ.words (g.lookAhead k p) := by
  unfold lookAhead
  split
  · rfl
  · rw [Renaming.production_left, Renaming.production_right, follow_rename h, firstBefore_rename h]

/-! ## The search -/

/-- Renamed alternatives that are told apart were told apart before. -/
theorem Separates.of_rename (h : ρ.Carries g g') (hsep : g'.Separates k) : g.Separates k := by
  intro a ha p hp q hq hpq u hup huq
  have hmem : ∀ r ∈ g.productionsOf a, ρ.production r ∈ g'.productionsOf (ρ.nonterminal a) :=
    fun r hr => h.mem_productionsOf.2 (List.mem_map_of_mem hr)
  have hne : ρ.production p ≠ ρ.production q := fun e => hpq (ρ.production_injective e)
  refine hsep _ (h.mem_nonterminals.2 ha) _ (hmem p hp) _ (hmem q hq) hne (ρ.word u) ?_ ?_
  · rw [lookAhead_rename h]
    exact ρ.word_mem_words.2 hup
  · rw [lookAhead_rename h]
    exact ρ.word_mem_words.2 huq

theorem separates_rename (h : ρ.Carries g g') : g'.Separates k ↔ g.Separates k :=
  ⟨.of_rename h, .of_rename h.symm⟩

theorem length_productionsOf_rename (h : ρ.Carries g g') (a : Nonterminal) :
    (g'.productionsOf (ρ.nonterminal a)).length = (g.productionsOf a).length := by
  have hnodup : ((g.productionsOf a).map ρ.production).Nodup :=
    (nodup_productionsOf a).map fun _ _ => ρ.production_injective
  have hperm : (g'.productionsOf (ρ.nonterminal a)).Perm ((g.productionsOf a).map ρ.production) :=
    (List.perm_ext_iff_of_nodup (nodup_productionsOf _) hnodup).2 fun p => h.mem_productionsOf
  rw [hperm.length_eq, List.length_map]

theorem isDeterministic_of_rename (h : ρ.Carries g g') (hdet : g'.isDeterministic = true) :
    g.isDeterministic = true := by
  rw [isDeterministic_iff] at hdet ⊢
  intro a ha
  rw [← length_productionsOf_rename h a]
  exact hdet _ (h.mem_nonterminals.2 ha)

/-- **The length of the lookahead stays the same.** -/
theorem findLookahead_rename (h : ρ.Carries g g') (bound : Option Nat) :
    (g'.findLookahead bound).value = (g.findLookahead bound).value :=
  findLookahead_congr ⟨isDeterministic_of_rename h, isDeterministic_of_rename h.symm⟩
    (fun _ _ => separates_rename h) bound

/-! ## The table -/

/-- **The entries of the table are renamed**, wherever they stand among the others. -/
theorem get?_tabulate_rename (h : ρ.Carries g g') (hsep : g.Separates k) (a : Nonterminal)
    (w : Word) : (g'.tabulate k).value.get? (ρ.nonterminal a) (ρ.word w) =
      ((g.tabulate k).value.get? a w).map ρ.production := by
  ext p
  rw [get?_tabulate_eq_some_iff ((separates_rename h).2 hsep), Option.map_eq_some_iff,
    h.mem_productionsOf, List.mem_map]
  constructor
  · rintro ⟨⟨q, hq, rfl⟩, hw⟩
    rw [lookAhead_rename h, ρ.word_mem_words] at hw
    exact ⟨q, (get?_tabulate_eq_some_iff hsep).2 ⟨hq, hw⟩, rfl⟩
  · rintro ⟨q, hq, rfl⟩
    obtain ⟨hq, hw⟩ := (get?_tabulate_eq_some_iff hsep).1 hq
    refine ⟨⟨q, hq, rfl⟩, ?_⟩
    rw [lookAhead_rename h, ρ.word_mem_words]
    exact hw

end Grammar

/-! ## The parser -/

/-- A renamed stack consumes the renamed input. -/
theorem Consumes.rename {sel sel' : Selection} {x : Form} {u v : Word} {ds : List Production}
    (hsel : ∀ a u p, sel a u p → sel' (ρ.nonterminal a) (ρ.word u) (ρ.production p))
    (h : Consumes sel x u ds v) :
    Consumes sel' (ρ.form x) (ρ.word u) (ds.map ρ.production) (ρ.word v) := by
  induction h with
  | done => exact .done
  | read _ ih => exact .read ih
  | expand hp _ ih =>
    rw [Renaming.form_append] at ih
    exact .expand (hsel _ _ _ hp) ih

namespace Parser

/-- A renamed text is read as the renamed word. -/
theorem readInput_rename {P P' : Parser} (h : ρ.Carries P.grammar P'.grammar) {text : String}
    {w : Word} (hw : P.readInput text.toList = .ok w) :
    P'.readInput (ρ.text text).toList = .ok (ρ.word w) := by
  obtain ⟨htext, hdecl⟩ := readInput_eq_ok_iff.1 hw
  have hne : ∀ x ∈ w, Symbol.terminal x ≠ .terminal .endMark := fun x hx e =>
    (hdecl x hx).2 (Symbol.terminal.inj e)
  refine readInput_eq_ok_iff.2 ⟨?_, fun y hy => ?_⟩
  · rw [Renaming.text, String.toList_ofList, htext, Renaming.word, List.map_map, List.map_map]
    exact List.map_congr_left fun x hx => ρ.char_char (hne x hx)
  · obtain ⟨x, hx, rfl⟩ := List.mem_map.1 hy
    refine ⟨h.mem_terminals.2 (hdecl x hx).1, fun e => ?_⟩
    exact ρ.symbol_ne_endMark (hne x hx) (congrArg Symbol.terminal e)

theorem derive_eq_some_rename (h : ρ.Carries g g') (hsep : g.Separates k) {text : String}
    {ds : List Production}
    (hds : ((⟨g, (g.tabulate k).value⟩ : Parser).derive text).value = some ds) :
    ((⟨g', (g'.tabulate k).value⟩ : Parser).derive (ρ.text text)).value =
      some (ds.map ρ.production) := by
  obtain ⟨w, hw, hds⟩ := derive_eq_some_iff.1 hds
  have hsel : ∀ a u p, (g.tabulate k).value.selection a u p →
      (g'.tabulate k).value.selection (ρ.nonterminal a) (ρ.word u) (ρ.production p) := by
    intro a u p hp
    have hget : (g.tabulate k).value.get? a (u.take k) = some p := hp
    have hget' := Grammar.get?_tabulate_rename h hsep a (u.take k)
    rw [hget, ρ.word_take] at hget'
    exact hget'
  have hrun := hds.rename hsel
  refine derive_eq_some_iff.2 ⟨ρ.word w, readInput_rename h hw, ?_⟩
  simpa [padding, Parser.k, h.start] using hrun

/-- **The derivation of a renamed text is the renamed derivation**, if there is one. -/
theorem derive_rename (h : ρ.Carries g g') (hsep : g.Separates k) (text : String) :
    ((⟨g', (g'.tabulate k).value⟩ : Parser).derive (ρ.text text)).value =
      ((⟨g, (g.tabulate k).value⟩ : Parser).derive text).value.map (List.map ρ.production) := by
  match hds : ((⟨g, (g.tabulate k).value⟩ : Parser).derive text).value with
  | some ds => exact derive_eq_some_rename h hsep hds
  | none =>
    refine Option.eq_none_iff_forall_ne_some.2 fun ds' hds' => ?_
    -- a derivation of the renamed text would be one of the text, taken back
    have hback := derive_eq_some_rename h.symm ((Grammar.separates_rename h).2 hsep) hds'
    rw [Renaming.symm_text, hds] at hback
    cases hback

end Parser

/-! ## The analysis -/

namespace Grammar

/-- **The analysis does not depend on names and order.** Where a renaming carries a grammar to
another, the words that begin a form, follow a nonterminal or select a production are the renamed
ones, the search gives the same result for every bound, the entries of the table are the renamed
ones and no others, and a text is derived as the renamed text is. -/
theorem analysis_invariant (h : ρ.Carries g g') :
    (∀ k w, g'.first k (ρ.form w) = ρ.words (g.first k w)) ∧
    (∀ k a, g'.follow k (ρ.nonterminal a) = ρ.words (g.follow k a)) ∧
    (∀ k p, g'.lookAhead k (ρ.production p) = ρ.words (g.lookAhead k p)) ∧
    (∀ bound, (g'.findLookahead bound).value = (g.findLookahead bound).value) ∧
    (∀ bound t, (g.analyze bound).value = .ok t → ∃ t', (g'.analyze bound).value = .ok t' ∧
      t'.k = t.k ∧ t'.rows.keys = t.rows.keys.image ρ.nonterminal ∧
      ∀ a w, t'.get? (ρ.nonterminal a) (ρ.word w) = (t.get? a w).map ρ.production) ∧
    ∀ bound P, (g.toParser bound).value = .ok P → ∃ P', (g'.toParser bound).value = .ok P' ∧
      ∀ text, (P'.derive (ρ.text text)).value =
        (P.derive text).value.map (List.map ρ.production) := by
  refine ⟨first_rename h, follow_rename h, lookAhead_rename h, findLookahead_rename h,
    fun bound t ht => ?_, fun bound P hP => ?_⟩
  · obtain ⟨hk, ht⟩ := analyze_eq_ok ht
    have hk' : (g'.findLookahead bound).value = .ok t.k := (findLookahead_rename h bound).trans hk
    refine ⟨(g'.tabulate t.k).value, by rw [analyze_of_findLookahead hk'], rfl, ?_, ?_⟩
    · rw [keys_tabulate, ht, keys_tabulate, h.nonterminals]
    · intro a w
      rw [get?_tabulate_rename h (separates_of_findLookahead hk), ← ht]
  · obtain ⟨k, hk, rfl⟩ := toParser_eq_ok hP
    have hk' : (g'.findLookahead bound).value = .ok k := (findLookahead_rename h bound).trans hk
    exact ⟨_, toParser_of_findLookahead hk',
      Parser.derive_rename h (separates_of_findLookahead hk)⟩

end Grammar

/-- `S` for `A`, `x` for `y`, and the other way round. -/
def Sample.exchange : Renaming where
  nonterminal := Equiv.swap S A
  terminal := Equiv.swap x y
  terminal_endMark := by decide

open Sample in
theorem Grammar.analysis_invariant_lists :
    exchange.Carries lists listsExchanged ∧
      listsExchanged.follow 2 S = exchange.words (lists.follow 2 A) ∧
      (listsExchanged.findLookahead (some 4)).value = .ok 1 ∧
      (∃ t, (listsExchanged.analyze (some 4)).value = .ok t ∧
        t.get? S [b] = ((lists.tabulate 1).value.get? A [b]).map exchange.production) ∧
      ∃ P, (listsExchanged.toParser (some 4)).value = .ok P ∧
        (P.derive "abyxc").value =
          ((⟨lists, (lists.tabulate 1).value⟩ : Parser).derive "abxyc").value.map
            (List.map exchange.production) := by
  have hcarries : exchange.Carries lists listsExchanged :=
    ⟨by decide, by decide, by decide, fun p => List.Perm.mem_iff (by decide)⟩
  have hfound : (lists.findLookahead (some 4)).value = .ok 1 := by decide +kernel
  obtain ⟨-, hfollow, -, hsearch, htable, hderive⟩ := Grammar.analysis_invariant hcarries
  obtain ⟨t, ht, -, -, hget⟩ := htable (some 4) _ (by rw [analyze_of_findLookahead hfound])
  obtain ⟨P, hP, htext⟩ := hderive (some 4) _ (toParser_of_findLookahead hfound)
  exact ⟨hcarries, hfollow 2 A, (hsearch (some 4)).trans hfound, ⟨t, ht, hget A [b]⟩,
    P, hP, htext "abxyc"⟩

end TopDown
