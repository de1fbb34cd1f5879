import TopDown.Proofs.Derivability
import TopDown.Proofs.Recognition

/-!
# The language of a parser

A parser accepts words of its grammar only. It accepts all of them if in front of whatever a right
side can consume, the next `k` terminals are in the lookahead of its production.

* `Grammar.tabulate_selection`: the table selects productions of the grammar;
* `Grammar.derives_of_consumes`, `Grammar.derives_of_accepts`;
* **`Grammar.accepts_iff_derives`**.
-/

namespace TopDown

namespace Grammar

variable {g : Grammar} {k : Nat} {text : String}

theorem tabulate_selection {a : Nonterminal} {u : Word} {p : Production}
    (h : (g.tabulate k).value.selection a u p) : p ∈ g.productionsOf a :=
  (get?_tabulate_eq_some h).1

/-- What the table consumes in front of anything is derived. -/
theorem derives_of_consumes {x : Form} {w v : Word} {ds : List Production}
    (h : Consumes (g.tabulate k).value.selection x (w ++ v) ds v) :
    g.Derives x (Word.toForm w) := by
  obtain ⟨r, hr, hderives⟩ := h.derives fun _ _ _ => tabulate_selection
  have hwr : w = r := List.append_cancel_right hr
  exact hwr ▸ hderives

theorem accepts_eq_true_iff {P : Parser} : P.accepts text = true ↔ ∃ w ds,
    P.readInput text.toList = .ok w ∧
      Consumes P.table.selection [.nonterminal P.grammar.start] (w ++ P.padding) ds P.padding := by
  rw [Parser.accepts, Option.isSome_iff_exists]
  simp only [Parser.derive_eq_some_iff]
  exact exists_comm

/-- What the table accepts is a word of the grammar. -/
theorem derives_of_accepts (h : (⟨g, (g.tabulate k).value⟩ : Parser).accepts text = true) :
    ∃ w : Word, text.toList = w.map Terminal.char ∧ (∀ x ∈ w, x ≠ .endMark) ∧
      g.Derives [.nonterminal g.start] (Word.toForm w) := by
  obtain ⟨w, ds, hw, hds⟩ := accepts_eq_true_iff.1 h
  obtain ⟨htext, hdecl⟩ := Parser.readInput_eq_ok_iff.1 hw
  exact ⟨w, htext, fun x hx => (hdecl x hx).2, derives_of_consumes hds⟩

/-- The letters of a word of the grammar are declared. -/
theorem mem_terminals_of_derives {w : Word}
    (h : g.Derives [.nonterminal g.start] (Word.toForm w)) : ∀ x ∈ w, x ∈ g.terminals := by
  intro x hx
  have hstart : ∀ s ∈ [Symbol.nonterminal g.start], s.DeclaredIn g.nonterminals g.terminals := by
    intro s hs
    rw [List.mem_singleton.1 hs]
    exact g.start_mem
  exact h.declared hstart (.terminal x) (List.mem_map.2 ⟨x, hx, rfl⟩)

/-- **A parser accepts the words of its grammar** where the lookahead tells all alternatives apart
and the next `k` terminals are always in the lookahead of a production whose right side consumes
what it is put in front of. -/
theorem accepts_iff_derives (hsep : g.Separates k)
    (hwindow : ∀ a p u ds v, p ∈ g.productionsOf a → Consumes g.selection p.right u ds v →
      u.take k ∈ g.lookAhead k p) :
    (⟨g, (g.tabulate k).value⟩ : Parser).accepts text = true ↔
      ∃ w : Word, text.toList = w.map Terminal.char ∧ (∀ x ∈ w, x ≠ .endMark) ∧
        g.Derives [.nonterminal g.start] (Word.toForm w) := by
  refine ⟨derives_of_accepts, ?_⟩
  rintro ⟨w, htext, hletters, hderives⟩
  obtain ⟨ds, hds⟩ := hderives.exists_consumes (List.replicate k .endMark)
  have hdeclared : ∀ x ∈ w, x ∈ g.terminals ∧ x ≠ .endMark := fun x hx =>
    ⟨mem_terminals_of_derives hderives x hx, hletters x hx⟩
  have htable : Consumes (g.tabulate k).value.selection [.nonterminal g.start]
      (w ++ List.replicate k .endMark) ds (List.replicate k .endMark) := by
    refine hds.select fun a u p ds v hp hright => ?_
    exact get?_tabulate_of_separates hsep hp (hwindow a p u ds v hp hright)
  exact accepts_eq_true_iff.2 ⟨w, ds, Parser.readInput_eq_ok_iff.2 ⟨htext, hdeclared⟩, htable⟩

end Grammar

end TopDown
