import Mathlib.Algebra.BigOperators.Group.List.Basic
import Mathlib.Algebra.Ring.Nat
import TopDown.Table
import TopDown.Proofs.Declaration

/-!
# Tables in which words are taken over

Where alternatives share lookahead words, the table gives each word to the alternative that is
declared last, and the log tells of each word that changes hands.

* `Row.fill_cons`, one binding, and from it `Row.log_fill_words`, `Row.get?_fill_words`: the words of
  one alternative are bound; `Row.length_log_fill_add_size`;
* `Grammar.lastWith`: the alternative that a word belongs to; `Grammar.takeoversIn`: what is said of
  the alternatives of a nonterminal; `Grammar.fill_alternatives`, by induction on them;
* `Grammar.get?_tabulate`, `Grammar.log_tabulate`: the table and its log;
* **`Grammar.tabulate_exact`**, for any lookahead.
-/

namespace TopDown

namespace Row

variable {row : Row} {p : Production} {words : List Word}

/-- One binding: the word is taken over from the production that it selected before, if any. -/
theorem fill_cons (row : Row) (w : Word) (p : Production) (bindings : List (Word × Production)) :
    fill row ((w, p) :: bindings) =
      ⟨((row.get? w).map (.takenOver w p)).toList ++ (fill (row.insert w p) bindings).log,
        (fill (row.insert w p) bindings).value⟩ := by
  rw [fill]
  cases row.get? w <;> rfl

theorem fill_append (row : Row) (bindings bindings' : List (Word × Production)) :
    fill row (bindings ++ bindings') =
      ⟨(fill row bindings).log ++ (fill (fill row bindings).value bindings').log,
        (fill (fill row bindings).value bindings').value⟩ := by
  induction bindings generalizing row with
  | nil => rfl
  | cons b bindings ih =>
    obtain ⟨w, p⟩ := b
    rw [List.cons_append, fill_cons, fill_cons, ih, List.append_assoc]

/-- The words of a production select it then, and no other word is touched. -/
theorem get?_fill_words (row : Row) (p : Production) (words : List Word) (w : Word) :
    (fill row (words.map (·, p))).value.get? w = if w ∈ words then some p else row.get? w := by
  induction words generalizing row with
  | nil => rfl
  | cons v words ih =>
    rw [List.map_cons, fill_cons, ih, OrderedMap.get?_insert]
    by_cases hw : w ∈ words
    · simp [hw]
    · simp [hw]

/-- The words of a production are taken over from those that had them before. -/
theorem log_fill_words (h : words.Nodup) : (fill row (words.map (·, p))).log =
    words.filterMap fun w => (row.get? w).map (.takenOver w p) := by
  induction words generalizing row with
  | nil => rfl
  | cons w words ih =>
    obtain ⟨hw, hwords⟩ := List.nodup_cons.1 h
    -- who had the other words does not depend on `w`
    have hrest : ∀ v ∈ words, (row.insert w p).get? v = row.get? v := by
      intro v hv
      have hne : v ≠ w := fun e => hw (e ▸ hv)
      rw [OrderedMap.get?_insert, if_neg hne]
    have hlog : (fill (row.insert w p) (words.map (·, p))).log =
        words.filterMap fun v => (row.get? v).map (.takenOver v p) := by
      rw [ih hwords]
      exact List.filterMap_congr fun v hv => by rw [hrest v hv]
    rw [List.map_cons, fill_cons, hlog, List.filterMap_cons]
    cases row.get? w <;> rfl

/-- Each binding makes a new entry or takes a word over. -/
theorem length_log_fill_add_size (row : Row) (bindings : List (Word × Production)) :
    (fill row bindings).log.length + (fill row bindings).value.size =
      row.size + bindings.length := by
  induction bindings generalizing row with
  | nil => exact Nat.zero_add _
  | cons b bindings ih =>
    obtain ⟨w, p⟩ := b
    have hrest := ih (row.insert w p)
    rw [fill_cons, List.length_cons]
    match hw : row.get? w with
    | none =>
      rw [OrderedMap.size_insert_of_get?_eq_none hw] at hrest
      simp only [Option.map_none, Option.toList_none, List.nil_append]
      omega
    | some q =>
      rw [OrderedMap.size_insert_of_get?_eq_some hw] at hrest
      simp only [Option.map_some, Option.toList_some, List.singleton_append, List.length_cons]
      omega

end Row

namespace Grammar

/-! ## The alternative that a word belongs to -/

variable (g : Grammar)

/-- The last of the productions that has the word in its lookahead. -/
def lastWith (k : Nat) (w : Word) (ps : List Production) : Option Production :=
  ps.reverse.find? fun p => w ∈ g.lookAhead k p

variable {g} {k : Nat} {a : Nonterminal} {w : Word} {p : Production} {ps : List Production}

theorem lastWith_eq_some_iff : g.lastWith k w ps = some p ↔
    ∃ earlier later, ps = earlier ++ p :: later ∧ w ∈ g.lookAhead k p ∧
      ∀ q ∈ later, w ∉ g.lookAhead k q := by
  unfold lastWith
  rw [List.find?_eq_some_iff_append, decide_eq_true_iff]
  constructor
  · rintro ⟨hw, later, earlier, hps, hlater⟩
    refine ⟨earlier.reverse, later.reverse, ?_, hw, fun q hq => ?_⟩
    · simpa using List.reverse_eq_iff.1 hps
    · simpa using hlater q (List.mem_reverse.1 hq)
  · rintro ⟨earlier, later, rfl, hw, hlater⟩
    refine ⟨hw, later.reverse, earlier.reverse, by simp, fun q hq => ?_⟩
    simpa using hlater q (List.mem_reverse.1 hq)

theorem mem_of_lastWith (h : g.lastWith k w ps = some p) : p ∈ ps ∧ w ∈ g.lookAhead k p := by
  obtain ⟨earlier, later, rfl, hw, -⟩ := lastWith_eq_some_iff.1 h
  exact ⟨List.mem_append_right _ List.mem_cons_self, hw⟩

theorem exists_lastWith (hp : p ∈ ps) (hw : w ∈ g.lookAhead k p) :
    ∃ q, g.lastWith k w ps = some q := by
  match hq : g.lastWith k w ps with
  | some q => exact ⟨q, rfl⟩
  | none =>
    have := List.find?_eq_none.1 hq p (List.mem_reverse.2 hp)
    simp [hw] at this

theorem lastWith_concat : g.lastWith k w (ps ++ [p]) =
    if w ∈ g.lookAhead k p then some p else g.lastWith k w ps := by
  unfold lastWith
  rw [List.reverse_append, List.reverse_singleton, List.singleton_append, List.find?_cons]
  by_cases hw : w ∈ g.lookAhead k p
  · simp [hw]
  · simp [hw]

/-! ## The alternatives of a nonterminal -/

variable (g) in
/-- What is said of a production that stands behind others: which of its lookahead words it takes
over, and from which of them. -/
def takeoversBy (k : Nat) (earlier : List Production) (p : Production) : List Event :=
  (g.lookAhead k p).toList.filterMap fun w => (g.lastWith k w earlier).map (.takenOver w p)

variable (g) in
/-- What is said of productions in turn, each of which stands behind those in front of it. -/
def takeoversIn (k : Nat) (ps : List Production) : List Event :=
  ps.zipIdx.flatMap fun p => g.takeoversBy k (ps.take p.2) p.1

theorem takeoversIn_concat : g.takeoversIn k (ps ++ [p]) =
    g.takeoversIn k ps ++ g.takeoversBy k ps p := by
  have hfront : (ps.zipIdx.flatMap fun q => g.takeoversBy k ((ps ++ [p]).take q.2) q.1) =
      g.takeoversIn k ps := by
    refine List.flatMap_congr fun q hq => ?_
    have hlt : q.2 ≤ ps.length := Nat.le_of_lt (List.snd_lt_of_mem_zipIdx hq)
    rw [List.take_append_of_le_length hlt]
  rw [takeoversIn, List.zipIdx_append, List.flatMap_append, hfront]
  simp

/-- A word is taken over from an earlier production that has it too. -/
theorem exists_of_mem_takeoversIn {e : Event} (he : e ∈ g.takeoversIn k ps) : ∃ w p q,
    e = .takenOver w p q ∧ [q, p].Sublist ps ∧ w ∈ g.lookAhead k p ∧ w ∈ g.lookAhead k q := by
  induction ps using List.reverseRecOn with
  | nil => cases he
  | append_singleton ps p ih =>
    rw [takeoversIn_concat, List.mem_append] at he
    rcases he with he | he
    · obtain ⟨w, p', q, rfl, hsub, hw⟩ := ih he
      exact ⟨w, p', q, rfl, hsub.trans (List.sublist_append_left ps [p]), hw⟩
    · obtain ⟨w, hwp, he⟩ := List.mem_filterMap.1 he
      obtain ⟨q, hq, rfl⟩ := Option.map_eq_some_iff.1 he
      obtain ⟨hqps, hwq⟩ := mem_of_lastWith hq
      exact ⟨w, p, q, rfl, (List.singleton_sublist.2 hqps).append (List.Sublist.refl [p]), hwp, hwq⟩

variable (g) in
/-- The lookahead words of productions in turn, each with its production. -/
def bindingsOf (k : Nat) (ps : List Production) : List (Word × Production) :=
  ps.flatMap fun p => (g.lookAhead k p).toList.map (·, p)

/-- **The lookahead words of productions are bound in turn**: each word then selects the last
production that has it, and is said to be taken over by each but the first. -/
theorem fill_bindingsOf :
    (∀ w, (Row.fill ∅ (g.bindingsOf k ps)).value.get? w = g.lastWith k w ps) ∧
      (Row.fill ∅ (g.bindingsOf k ps)).log = g.takeoversIn k ps := by
  induction ps using List.reverseRecOn with
  | nil => exact ⟨fun _ => rfl, rfl⟩
  | append_singleton ps p ih =>
    obtain ⟨hget, hlog⟩ := ih
    have hbindings : g.bindingsOf k (ps ++ [p]) =
        g.bindingsOf k ps ++ (g.lookAhead k p).toList.map (·, p) := by
      simp [bindingsOf]
    rw [hbindings, Row.fill_append]
    refine ⟨fun w => ?_, ?_⟩
    · rw [Row.get?_fill_words, hget, lastWith_concat]
      simp only [OrderedSet.mem_toList]
    · rw [hlog, Row.log_fill_words (g.lookAhead k p).nodup, takeoversIn_concat, takeoversBy]
      simp only [hget]

/-! ## The table -/

variable (g) in
/-- What is said of the words that are taken over, by nonterminal and in order of declaration. -/
def takeovers (k : Nat) : List Event :=
  g.nonterminals.toList.flatMap fun a => g.takeoversIn k (g.productionsOf a)

@[simp] theorem k_tabulate : (g.tabulate k).value.k = k := rfl

/-- Every nonterminal has a row. -/
@[simp] theorem keys_tabulate : (g.tabulate k).value.rows.keys = g.nonterminals := by
  refine OrderedSet.eq_of_toList ?_
  simp [tabulate, OrderedMap.keys, OrderedMap.mapValues, OrderedMap.ofSet, Function.comp_def]

/-- A word selects the last alternative that has it. -/
theorem get?_tabulate : (g.tabulate k).value.get? a w = g.lastWith k w (g.productionsOf a) := by
  unfold Table.get? tabulate
  rw [OrderedMap.get?_mapValues, OrderedMap.get?_ofSet]
  by_cases ha : a ∈ g.nonterminals
  · rw [if_pos ha]
    exact fill_bindingsOf.1 w
  · rw [if_neg ha, productionsOf_eq_nil ha]
    rfl

/-- The log tells of the words that are taken over, then of the finished table. -/
theorem log_tabulate : (g.tabulate k).log =
    g.takeovers k ++ [.tabulated k (g.tabulate k).value.size] := by
  have hrows : (OrderedMap.ofSet g.nonterminals (g.row k)).entries.flatMap (·.2.log) =
      g.takeovers k := by
    rw [OrderedMap.ofSet, List.flatMap_map]
    exact List.flatMap_congr fun a _ => fill_bindingsOf.2
  rw [← hrows]
  rfl

theorem level_of_mem_takeovers {e : Event} (he : e ∈ g.takeovers k) : e.level = .warn := by
  obtain ⟨a, -, he⟩ := List.mem_flatMap.1 he
  obtain ⟨w, p, q, rfl, -⟩ := exists_of_mem_takeoversIn he
  rfl

/-- The table has the entries of all rows. -/
theorem size_tabulate : (g.tabulate k).value.size =
    (g.nonterminals.toList.map fun a => (g.row k a).value.size).sum := by
  unfold Table.size tabulate OrderedMap.mapValues OrderedMap.ofSet
  rw [List.sum_eq_foldl]
  simp [List.foldl_map]

/-- Each lookahead word of each production makes an entry or takes one over. -/
theorem length_takeovers_add_size : (g.takeovers k).length + (g.tabulate k).value.size =
    (g.productions.map fun p => (g.lookAhead k p).size).sum := by
  have hrow : ∀ a, (g.takeoversIn k (g.productionsOf a)).length + (g.row k a).value.size =
      ((g.productionsOf a).map fun p => (g.lookAhead k p).size).sum := by
    intro a
    have hbindings : (g.bindings k a).length =
        ((g.productionsOf a).map fun p => (g.lookAhead k p).size).sum := by
      simp [bindings, List.length_flatMap, OrderedSet.size]
    rw [← fill_bindingsOf.2, ← hbindings, ← Nat.zero_add (g.bindings k a).length]
    exact Row.length_log_fill_add_size ∅ (g.bindings k a)
  rw [takeovers, List.length_flatMap, size_tabulate, ← List.sum_map_add]
  simp only [hrow]
  rw [← ((perm_flatMap_productionsOf g).map fun p => (g.lookAhead k p).size).sum_eq,
    List.map_flatMap, List.flatMap_def, List.sum_flatten, List.map_map]
  rfl

variable (g) in
/-- **What the table holds for any lookahead.** Every declared nonterminal has a row and nothing else
has one, and a word selects the last alternative that has it in its lookahead. The log warns of
exactly the words that a production has with one declared before it, by nonterminal, production and
word, and names the production that the word is taken over from, the last of those before; then it
tells of the finished table. Thus there are as many warnings as the lookahead sets have more words
than the table has entries. -/
theorem tabulate_exact (k : Nat) :
    (g.tabulate k).value.rows.keys = g.nonterminals ∧
      (∀ a w p, (g.tabulate k).value.get? a w = some p ↔
        ∃ earlier later, g.productionsOf a = earlier ++ p :: later ∧ w ∈ g.lookAhead k p ∧
          ∀ q ∈ later, w ∉ g.lookAhead k q) ∧
      (g.tabulate k).log.filter (·.level = .warn) = g.takeovers k ∧
      (g.tabulate k).log = g.takeovers k ++ [.tabulated k (g.tabulate k).value.size] ∧
      (g.takeovers k).length + (g.tabulate k).value.size =
        (g.productions.map fun p => (g.lookAhead k p).size).sum := by
  refine ⟨keys_tabulate, fun a w p => ?_, ?_, log_tabulate, length_takeovers_add_size⟩
  · rw [get?_tabulate, lastWith_eq_some_iff]
  · have hwarn : (g.takeovers k).filter (·.level = .warn) = g.takeovers k :=
      List.filter_eq_self.2 fun e he => by simp [level_of_mem_takeovers he]
    rw [log_tabulate, List.filter_append, hwarn]
    exact List.append_nil _

end Grammar

end TopDown
