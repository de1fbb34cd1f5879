import TopDown.Derivation
import TopDown.Proofs.Recognition
import TopDown.Proofs.ShownText

/-!
# Derivations as texts

The text of a derivation shows every form that the productions lead through, so that the productions
can be told from it: a form stands between two arrows, and two neighbours tell the nonterminal that
was replaced, which is the leftmost one of the first, and what it was replaced by, as all that stands
behind it stays. For the derivation of a text that a parser accepts no form is missing, and the last
one is the text.

* `LeftmostSteps`, the forms with the productions that lead from one to the next;
  `leftmostSteps_iff`: they are what `replay` gives if no production fails;
* `Production.between?`, `productionsBetween?`: the productions from the forms; `formsOfText?`: the
  forms from the text; `derivationText_injective`;
* **`derivationText_complete`**.
-/

namespace TopDown

/-- The forms of a leftmost derivation, each production leading from one of them to the next. -/
inductive LeftmostSteps : List Form → List Production → Prop
  | start (w : Form) : LeftmostSteps [w] []
  | step {w v : Form} {forms : List Form} {p : Production} {ps : List Production} :
      p.expandLeftmost? w = some v → LeftmostSteps (v :: forms) ps →
      LeftmostSteps (w :: v :: forms) (p :: ps)

variable {w v : Form} {forms : List Form} {p : Production} {ps : List Production}

theorem LeftmostSteps.length_eq (h : LeftmostSteps forms ps) : forms.length = ps.length + 1 := by
  induction h with
  | start => rfl
  | step _ _ ih => rw [List.length_cons, ih, List.length_cons]

/-- The forms are those of the replay, which no production cuts short. -/
theorem leftmostSteps_iff : LeftmostSteps (w :: forms) ps ↔
    forms = replay w ps ∧ (replay w ps).length = ps.length := by
  induction ps generalizing w forms with
  | nil =>
    constructor
    · rintro ⟨⟩
      exact ⟨rfl, rfl⟩
    · rintro ⟨rfl, -⟩
      exact .start w
  | cons p ps ih =>
    rw [replay]
    match hp : p.expandLeftmost? w with
    | none =>
      refine ⟨fun h => ?_, fun h => nomatch h.2⟩
      cases h with
      | step hstep _ => rw [hp] at hstep; cases hstep
    | some v =>
      dsimp only
      rw [List.length_cons, List.length_cons, Nat.succ_inj]
      constructor
      · intro h
        cases h with
        | step hstep hsteps =>
          rw [hp] at hstep
          cases hstep
          obtain ⟨rfl, hlength⟩ := ih.1 hsteps
          exact ⟨rfl, hlength⟩
      · rintro ⟨rfl, hlength⟩
        exact .step hp (ih.2 ⟨rfl, hlength⟩)

/-- Productions that lead from a form to another one are replayed to the end. -/
theorem leftmostSteps_of_foldlM (h : ps.foldlM (fun w p => p.expandLeftmost? w) w = some v) :
    LeftmostSteps (w :: replay w ps) ps ∧ (w :: replay w ps).getLast? = some v := by
  induction ps generalizing w with
  | nil =>
    cases h
    exact ⟨.start _, rfl⟩
  | cons p ps ih =>
    rw [List.foldlM_cons] at h
    obtain ⟨next, hnext, h⟩ := Option.bind_eq_some_iff.1 h
    obtain ⟨hsteps, hlast⟩ := ih h
    rw [replay, hnext]
    refine ⟨.step hnext hsteps, ?_⟩
    rwa [List.getLast?_cons_cons]

/-! ## The productions of the forms -/

/-- The production that leads from a form to another one. -/
def Production.between? : Form → Form → Option Production
  | .nonterminal a :: w, v => some ⟨a, v.take (v.length - w.length)⟩
  | .terminal _ :: w, _ :: v => between? w v
  | _, _ => none

/-- What stands behind the leftmost nonterminal stays, so the rest has taken its place. -/
theorem Production.between?_of_expandLeftmost? (h : p.expandLeftmost? w = some v) :
    between? w v = some p := by
  obtain ⟨u, y, rfl, rfl⟩ := expandLeftmost?_eq_some_iff.1 h
  induction u with
  | nil =>
    have hlength : (p.right ++ y).length - y.length = p.right.length := by
      rw [List.length_append, Nat.add_sub_cancel]
    have htake : (p.right ++ y).take ((p.right ++ y).length - y.length) = p.right := by
      rw [hlength, List.take_left]
    exact congrArg (fun r => some (⟨p.left, r⟩ : Production)) htake
  | cons t u ih => exact ih (expandLeftmost?_eq_some_iff.2 ⟨u, y, rfl, rfl⟩)

/-- The productions that lead from each form to the next. -/
def productionsBetween? : List Form → Option (List Production)
  | w :: v :: forms => do
    return (← Production.between? w v) :: (← productionsBetween? (v :: forms))
  | _ => some []

theorem LeftmostSteps.productionsBetween?_eq (h : LeftmostSteps forms ps) :
    productionsBetween? forms = some ps := by
  induction h with
  | start => rfl
  | step hstep _ ih =>
    rw [productionsBetween?, Production.between?_of_expandLeftmost? hstep, ih]
    rfl

/-! ## The forms of the text -/

/-- The forms that stand between the arrows of a text. -/
def formsOfText? (s : List Char) : Option (List Form) :=
  ((s.splitOn ' ').filter (· ≠ ['=', '>'])).mapM Form.ofText?

/-- What stands between arrows is found again. -/
theorem filter_splitOn_intercalate {ls : List (List Char)} (hne : ls ≠ [])
    (h : ∀ l ∈ ls, ' ' ∉ l ∧ l ≠ ['=', '>']) :
    (([' ', '=', '>', ' '].intercalate ls).splitOn ' ').filter (· ≠ ['=', '>']) = ls := by
  induction ls with
  | nil => exact absurd rfl hne
  | cons l ls ih =>
    obtain ⟨⟨hl, harrow⟩, hls⟩ := List.forall_mem_cons.1 h
    cases ls with
    | nil =>
      rw [List.intercalate_singleton, List.splitOn_eq_singleton hl,
        List.filter_cons_of_pos (by simpa using harrow), List.filter_nil]
    | cons l' ls =>
      have hjoined : [' ', '=', '>', ' '].intercalate (l :: l' :: ls) = l ++ ' ' ::
          (['=', '>'] ++ ' ' :: [' ', '=', '>', ' '].intercalate (l' :: ls)) := by
        rw [List.intercalate_cons_cons, List.append_assoc]
        rfl
      rw [hjoined, List.splitOn_append_cons_self_of_not_mem hl,
        List.splitOn_append_cons_self_of_not_mem (by decide), List.filter_cons_of_pos (by simpa using harrow), List.filter_cons_of_neg (by decide),
        ih nofun hls]

/-- Forms that are shown between arrows are read back. -/
theorem formsOfText?_intercalate (hne : forms ≠ []) :
    formsOfText? ([' ', '=', '>', ' '].intercalate (forms.map fun w => (Form.text w).toList)) =
      some forms := by
  have htexts : ∀ l ∈ forms.map (fun w => (Form.text w).toList), ' ' ∉ l ∧ l ≠ ['=', '>'] := by
    intro l hl
    obtain ⟨w, -, rfl⟩ := List.mem_map.1 hl
    have hequal : '=' ∉ (Form.text w).toList := Form.not_mem_text (by decide) (by decide) w
    exact ⟨Form.not_mem_text (by decide) (by decide) w, fun he => hequal (he ▸ List.mem_cons_self)⟩
  rw [formsOfText?, filter_splitOn_intercalate (mt List.map_eq_nil_iff.1 hne) htexts]
  exact mapM_map_eq_some fun w _ => Form.ofText?_text w

/-- The text shows all forms. -/
theorem formsOfText?_derivationText (a : Nonterminal) (ps : List Production) :
    formsOfText? (derivationText a ps).toList =
      some ([.nonterminal a] :: replay [.nonterminal a] ps) := by
  rw [derivationText, String.toList_intercalate, List.map_map]
  exact formsOfText?_intercalate (List.cons_ne_nil _ _)

/-- The productions are read from the text if it shows all their forms. -/
theorem derivationText_injective {a b : Nonterminal} {qs : List Production}
    (hps : (replay [.nonterminal a] ps).length = ps.length)
    (hqs : (replay [.nonterminal b] qs).length = qs.length)
    (h : derivationText a ps = derivationText b qs) : a = b ∧ ps = qs := by
  have hforms : [.nonterminal a] :: replay [.nonterminal a] ps =
      [.nonterminal b] :: replay [.nonterminal b] qs := by
    have hread := formsOfText?_derivationText a ps
    rw [h, formsOfText?_derivationText] at hread
    exact (Option.some.inj hread).symm
  have hps' := (leftmostSteps_iff.2 ⟨rfl, hps⟩).productionsBetween?_eq
  have hqs' := (leftmostSteps_iff.2 ⟨rfl, hqs⟩).productionsBetween?_eq
  obtain ⟨hstart, -⟩ := List.cons.inj hforms
  obtain ⟨ha, -⟩ := List.cons.inj hstart
  rw [hforms, hqs'] at hps'
  exact ⟨Symbol.nonterminal.inj ha, (Option.some.inj hps').symm⟩

/-! ## The derivations of a parser -/

/-- The productions of an accepted text lead from the sentence symbol to it. -/
theorem Parser.derive_foldlM {g : Grammar} {bound : Option Nat} {P : Parser}
    (h : (g.toParser bound).value = .ok P) {text : String}
    (hps : (P.derive text).value = some ps) : ∃ w : Word, text.toList = w.map Terminal.char ∧
      ps.foldlM (fun w p => p.expandLeftmost? w) [.nonterminal g.start] = some w.toForm := by
  obtain ⟨k, -, rfl⟩ := Grammar.toParser_eq_ok h
  have hleft : ∀ a w p, (g.tabulate k).value.get? a w = some p → p.left = a := by
    intro a w p hp
    obtain ⟨hmem, -⟩ := Grammar.get?_tabulate_eq_some hp
    exact (g.mem_productionsOf.1 hmem).2
  obtain ⟨w, hread, hconsumes⟩ := derive_eq_some_iff.1 hps
  obtain ⟨htext, -⟩ := readInput_eq_ok_iff.1 hread
  exact ⟨w, htext, ((Table.consumes_iff_directs hleft).1 hconsumes).foldlM_eq⟩

/-- What is shown of a word is the text that spells it, or `λ`. -/
theorem Word.text_eq_of_toList {u : Word} {text : String} (h : text.toList = u.map Terminal.char) :
    Word.text u = if text = "" then "λ" else text := by
  have htext : text = String.ofList (u.map Terminal.char) := by rw [← h, String.ofList_toList]
  cases u with
  | nil => rw [htext]; rfl
  | cons t u =>
    have hne : text ≠ "" := by
      rintro rfl
      cases h
    rw [if_neg hne, htext]
    rfl

/-- **The text of a derivation shows the whole derivation.** For a text that a parser accepts it joins
one form more than there are productions by arrows, from the sentence symbol to the accepted text,
each but the first the leftmost rewriting of the one before by its production. And productions that
are replayed to the end are told by their text, together with the symbol that they start from. -/
theorem derivationText_complete :
    (∀ (g : Grammar) (bound : Option Nat) (P : Parser), (g.toParser bound).value = .ok P →
      ∀ (text : String) (ps : List Production), (P.derive text).value = some ps →
        ∃ forms : List Form, derivationText g.start ps = " => ".intercalate (forms.map Form.text) ∧
          LeftmostSteps forms ps ∧ forms.length = ps.length + 1 ∧
          forms.head? = some [.nonterminal g.start] ∧
          ∃ w : Word, text.toList = w.map Terminal.char ∧ forms.getLast? = some w.toForm ∧
            Form.text w.toForm = if text = "" then "λ" else text) ∧
    ∀ (a b : Nonterminal) (ps qs : List Production),
      (replay [.nonterminal a] ps).length = ps.length →
      (replay [.nonterminal b] qs).length = qs.length →
      derivationText a ps = derivationText b qs → a = b ∧ ps = qs := by
  refine ⟨fun g bound P hP text ps hps => ?_, fun a b ps qs => derivationText_injective⟩
  obtain ⟨w, htext, hfold⟩ := P.derive_foldlM hP hps
  obtain ⟨hsteps, hlast⟩ := leftmostSteps_of_foldlM hfold
  refine ⟨_, rfl, hsteps, hsteps.length_eq, rfl, w, htext, hlast, ?_⟩
  rw [Word.text_toForm, Word.text_eq_of_toList htext]

open Sample in
theorem derivationText_complete_nested :
    let P : Parser := ⟨nested, (nested.tabulate 1).value⟩
    let ps : List Production := [⟨S, [.terminal a, .nonterminal S, .terminal b]⟩,
      ⟨S, [.terminal c]⟩]
    ((nested.toParser (some 4)).value = .ok P ∧ (P.derive "acb").value = some ps) ∧
    (∃ forms : List Form, derivationText S ps = " => ".intercalate (forms.map Form.text) ∧
      LeftmostSteps forms ps ∧ forms.length = 3) ∧
    derivationText S ps = "S => aSb => acb" ∧
    ((replay [.nonterminal S] ps).length = ps.length ∧ S = S ∧ ps = ps) := by
  intro P ps
  have hparser := Grammar.toParser_of_findLookahead
    (show (nested.findLookahead (some 4)).value = .ok 1 by decide +kernel)
  have hderive : (P.derive "acb").value = some ps :=
    Parser.derive_eq_some_iff.2 ⟨[a, c, b], rfl,
      .expand rfl (.read (.expand rfl (.read (.read .done))))⟩
  have hreplay : (replay [.nonterminal S] ps).length = ps.length := rfl
  obtain ⟨hshown, htold⟩ := derivationText_complete
  obtain ⟨forms, htext, hsteps, hlength, -⟩ := hshown nested (some 4) P hparser "acb" ps hderive
  exact ⟨⟨hparser, hderive⟩, ⟨forms, htext, hsteps, hlength⟩, rfl, hreplay,
    htold S S ps ps hreplay hreplay rfl⟩

end TopDown
