import TopDown.Proofs.LineGrammar

/-!
# Productions that are printed and read back

The productions of a grammar, printed one a line, are a text again. A production without symbols is
printed with `λ` on its right, which ends the gap behind the arrow but is no letter. The grammar that
is read back has the same productions in the same order; what it declares is what they mention.

* `Production.toList_text`, `Production.writtenIn_text`: what is printed writes the production;
* `Production.trim_text`, `Grammar.contentLines_printed`: the lines are what is printed;
* `Grammar.Collects.self`: a grammar that was read declares what its productions mention;
* **`Grammar.ofText_printed`**.
-/

namespace TopDown

/-! ## A production -/

namespace Production

/-- What is printed behind the letters of the right side. -/
def printedLambda (p : Production) : List Char := if p.right = [] then ['λ'] else []

theorem toList_text (p : Production) : p.text.toList =
    p.left.char :: ([' ', '-', '>', ' '] ++ (p.right.map Symbol.char ++ p.printedLambda)) := by
  have hright : (Form.text p.right).toList = p.right.map Symbol.char ++ p.printedLambda := by
    unfold Form.text printedLambda
    by_cases hnil : p.right = []
    · rw [hnil]
      rfl
    · rw [if_neg hnil, if_neg (by simpa using hnil), Form.chars, String.toList_ofList,
        List.append_nil]
  rw [text, String.toList_append, String.toList_append, hright, Nonterminal.text,
    String.toList_singleton]
  rfl

variable {p : Production}

theorem mem_printedLambda {c : Char} : c ∈ p.printedLambda ↔ p.right = [] ∧ c = 'λ' := by
  unfold printedLambda
  by_cases hnil : p.right = []
  · rw [if_pos hnil, List.mem_singleton]
    exact (and_iff_right hnil).symm
  · rw [if_neg hnil]
    exact iff_of_false List.not_mem_nil fun h => hnil h.1

/-- What is printed writes the production. -/
theorem writtenIn_text (hend : .terminal .endMark ∉ p.right) : p.WrittenIn p.text.toList := by
  have hgap : ∀ c ∈ [' ', '-', '>', ' '], isWordChar c = false := by
    simp only [List.forall_mem_cons]
    exact ⟨rfl, rfl, rfl, rfl, nofun⟩
  refine ⟨hend, [' ', '-', '>', ' '], p.printedLambda, p.toList_text, hgap, ⟨[' '], [' '], rfl⟩,
    fun c hc => ?_, fun _ c hc => ?_⟩
  · obtain ⟨-, rfl⟩ := mem_printedLambda.1 (List.mem_of_head? hc)
    decide
  · obtain ⟨-, rfl⟩ := mem_printedLambda.1 (List.mem_of_head? hc)
    decide

theorem isBlank_left : isBlank p.left.char = false :=
  isBlank_of_isAlpha (Symbol.isAlpha_char (x := .nonterminal p.left) nofun)

/-- No blank is printed behind the arrow. -/
theorem isBlank_right (hend : .terminal .endMark ∉ p.right) :
    ∀ c ∈ p.right.map Symbol.char ++ p.printedLambda, isBlank c = false := by
  intro c hc
  rcases List.mem_append.1 hc with hc | hc
  · obtain ⟨x, hx, rfl⟩ := List.mem_map.1 hc
    exact isBlank_of_isAlpha (Symbol.isAlpha_char fun he => hend (he ▸ hx))
  · obtain ⟨-, rfl⟩ := mem_printedLambda.1 hc
    decide

theorem isBlank_getLast_text (hend : .terminal .endMark ∉ p.right) :
    ∀ c ∈ p.text.toList.getLast?, isBlank c = false := by
  have hne : p.right.map Symbol.char ++ p.printedLambda ≠ [] := by
    intro hnil
    obtain ⟨hright, hlambda⟩ := List.append_eq_nil_iff.1 hnil
    have hmem : 'λ' ∈ p.printedLambda := mem_printedLambda.2 ⟨List.map_eq_nil_iff.1 hright, rfl⟩
    rw [hlambda] at hmem
    cases hmem
  intro c hc
  rw [toList_text, ← List.cons_append, List.getLast?_append_of_ne_nil _ hne] at hc
  exact isBlank_right hend c (List.mem_of_getLast? hc)

theorem trim_text (hend : .terminal .endMark ∉ p.right) : trim p.text.toList = p.text.toList := by
  refine trim_eq_self ?_ (isBlank_getLast_text hend)
  rw [toList_text]
  rintro c ⟨⟩
  exact isBlank_left

theorem isSkipped_text : isSkipped p.text.toList = false := by
  have hne : p.left.char ≠ '#' := fun he => absurd (he ▸ p.left.isUpper) (by decide)
  rw [toList_text]
  simp [isSkipped, hne]

/-- What is printed is one line. -/
theorem isLine_text (hend : .terminal .endMark ∉ p.right) : p.text.toList ≠ [] ∧
    '\n' ∉ p.text.toList ∧ p.text.toList.getLast? ≠ some '\r' := by
  have hfeed : ∀ c, isBlank c = false → c ≠ '\n' := by
    rintro c hc rfl
    exact absurd hc (by decide)
  refine ⟨by rw [toList_text]; exact nofun, ?_, fun h => ?_⟩
  · rw [toList_text, List.mem_cons, List.mem_append]
    rintro (h | h | h)
    · exact hfeed _ isBlank_left h.symm
    · exact absurd h (by decide)
    · exact hfeed _ (isBlank_right hend _ h) rfl
  · exact absurd (isBlank_getLast_text hend _ h) (by decide)

end Production

/-! ## A text -/

namespace Grammar

/-- The productions as they are printed, one a line. -/
def printed (g : Grammar) : String := "\n".intercalate (g.productions.map Production.text)

variable {g : Grammar} {ps : List Production}

/-- The lines are what is printed. -/
theorem contentLines_printed (hend : ∀ p ∈ g.productions, .terminal .endMark ∉ p.right) :
    contentLines g.printed = (g.productions.map fun p => p.text.toList).zipIdx 1 := by
  have hlines : lines g.printed.toList = g.productions.map fun p => p.text.toList := by
    rw [printed, String.toList_intercalate, List.map_map]
    refine lines_intercalate fun l hl => ?_
    obtain ⟨p, hp, rfl⟩ := List.mem_map.1 hl
    exact Production.isLine_text (hend p hp)
  have htrim : (lines g.printed.toList).map trim = g.productions.map fun p => p.text.toList := by
    rw [hlines, List.map_map]
    refine List.map_congr_left fun p hp => ?_
    rw [Function.comp_apply, Production.trim_text (hend p hp)]
  rw [contentLines, htrim]
  refine List.filter_eq_self.2 fun line hline => ?_
  obtain ⟨p, -, hp⟩ := List.mem_map.1 (List.fst_mem_of_mem_zipIdx hline)
  rw [← hp, Production.isSkipped_text]
  rfl

/-- The lines write the productions that are printed. -/
theorem linesWrite_printed (hend : ∀ p ∈ g.productions, .terminal .endMark ∉ p.right) :
    LinesWrite g.printed g.productions := by
  have hwrite : ∀ (ps : List Production) (n : Nat),
      (∀ p ∈ ps, Symbol.terminal .endMark ∉ p.right) →
      List.Forall₂ (fun line p => p.WrittenIn line.1)
        ((ps.map fun p => p.text.toList).zipIdx n) ps := by
    intro ps n hps
    induction ps generalizing n with
    | nil => exact .nil
    | cons p ps ih =>
      obtain ⟨hp, hps⟩ := List.forall_mem_cons.1 hps
      exact .cons (Production.writtenIn_text hp) (ih (n + 1) hps)
  rw [LinesWrite, contentLines_printed hend]
  exact hwrite g.productions 1 hend

/-- Lines write no end mark. -/
theorem endMark_not_mem_of_linesWrite {text : String} (h : LinesWrite text ps) :
    ∀ p ∈ ps, .terminal .endMark ∉ p.right := by
  unfold LinesWrite at h
  generalize contentLines text = ls at h
  induction h with
  | nil => exact nofun
  | cons hp _ ih => exact List.forall_mem_cons.2 ⟨hp.1, ih⟩

/-- A grammar that collects productions declares what its own productions mention. -/
theorem Collects.self (h : g.Collects ps) : g.Collects g.productions := by
  have hmentions : ∀ s, (∃ p ∈ g.productions, p.Mentions s) ↔ ∃ p ∈ ps, p.Mentions s := by
    intro s
    simp only [h.productions, List.mem_eraseDups]
  refine ⟨h.start, (eraseDups_eq_self g.nodup).symm, fun a => ?_, fun t => ?_⟩
  · rw [hmentions]
    exact h.nonterminals a
  · rw [hmentions]
    exact h.terminals t

/-- **Productions that are printed are read back.** A grammar that was read from a text is read from
its printed productions again, whatever the text looked like. Any grammar without the end mark on a
right side gives the same productions back, and declares what they mention, unless they do not
mention `S`, which is the error then. -/
theorem ofText_printed :
    (∀ text g, ofText text = .ok g → ofText g.printed = .ok g) ∧
    ∀ g : Grammar, (∀ p ∈ g.productions, .terminal .endMark ∉ p.right) →
      ((∃ p ∈ g.productions, p.Mentions (.nonterminal .sentence)) →
        ∃ g', ofText g.printed = .ok g' ∧ g'.productions = g.productions ∧
          g'.Collects g.productions) ∧
      ((¬ ∃ p ∈ g.productions, p.Mentions (.nonterminal .sentence)) →
        ofText g.printed = .error (.missingSentenceSymbol .sentence)) := by
  refine ⟨fun text g hg => ?_, fun g hend => ⟨fun h => ?_, fun h => ?_⟩⟩
  · obtain ⟨ps, hlines, hcollects⟩ := ofText_eq_ok_iff.1 hg
    have hend : ∀ p ∈ g.productions, .terminal .endMark ∉ p.right := by
      intro p hp
      rw [hcollects.productions, List.mem_eraseDups] at hp
      exact endMark_not_mem_of_linesWrite hlines p hp
    exact ofText_eq_ok_iff.2 ⟨g.productions, linesWrite_printed hend, hcollects.self⟩
  · obtain ⟨g', hg'⟩ := exists_collects h
    refine ⟨g', ofText_eq_ok_iff.2 ⟨_, linesWrite_printed hend, hg'⟩, ?_, hg'⟩
    rw [hg'.productions, eraseDups_eq_self g.nodup]
  · exact ofText_eq_error_iff.2 (.inr ⟨_, linesWrite_printed hend, rfl, h⟩)

open Sample in
theorem ofText_printed_samples :
    (ofText "S ->AbBc\n# lists\nS->d\r\nA -> aA\n A ->\n\nB ..-> xB\nA -> \nB->y z" = .ok lists ∧
      ofText lists.printed = .ok lists) ∧
    (∃ g, ofText nestedExtended.printed = .ok g ∧
      g.productions = nestedExtended.productions ∧ g.Collects nestedExtended.productions) ∧
    ofText unmentioned.printed = .error (.missingSentenceSymbol .sentence) := by
  have hlists : ofText
      "S ->AbBc\n# lists\nS->d\r\nA -> aA\n A ->\n\nB ..-> xB\nA -> \nB->y z" = .ok lists := rfl
  obtain ⟨hread, hprinted⟩ := ofText_printed
  obtain ⟨hsame, -⟩ := hprinted nestedExtended (by decide)
  obtain ⟨-, hmissing⟩ := hprinted unmentioned (by decide)
  refine ⟨⟨hlists, hread _ lists hlists⟩, hsame ?_, hmissing ?_⟩
  · exact ⟨⟨S, [.terminal c]⟩, by decide, .inl rfl⟩
  · rintro ⟨p, hp, h⟩
    rw [List.mem_singleton.1 hp] at h
    rcases h with h | h
    · exact absurd h (by decide)
    · exact absurd h (by decide)

end Grammar

end TopDown
