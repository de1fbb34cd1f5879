import TopDown.Proofs.Consumption
import TopDown.Proofs.Samples
import TopDown.Proofs.Tabulation

/-!
# What a parser accepts

A text is accepted by a list of productions iff they form a leftmost derivation of it in which the
table gives every production, for the leftmost nonterminal and the next `k` terminals of the input
behind the terminals to its left. That the machine reads end marks behind the input, and that its
guard stops it on a left recursion, makes no difference.

* `Table.Directs`: the leftmost derivations that follow the table;
* `Table.consumes_iff_directs`: they are what a stack consumes;
* `Parser.readInput_eq_ok_iff`, `Parser.derive_eq_some_iff`: the parser in these terms;
* **`Parser.derive_iff_directs`**.
-/

namespace TopDown

/-! ## Derivations that follow the table -/

/-- The productions, applied in turn at the leftmost nonterminal, lead from a form to a word, and
each of them is the one that the table gives for that nonterminal and the `k` terminals of the input
that follow as many as stand to its left. -/
inductive Table.Directs (t : Table) (input : Word) : Form → List Production → Word → Prop
  | done (w : Word) : Directs t input (Word.toForm w) [] w
  | step {x : Word} {a : Nonterminal} {y next : Form} {p : Production} {ds : List Production}
      {w : Word} :
      t.get? a ((input.drop x.length).take t.k) = some p →
      p.expandLeftmost? (Word.toForm x ++ .nonterminal a :: y) = some next →
      Directs t input next ds w →
      Directs t input (Word.toForm x ++ .nonterminal a :: y) (p :: ds) w

/-- Applying the productions in turn leads to the word. -/
theorem Table.Directs.foldlM_eq {t : Table} {input w : Word} {x : Form} {ds : List Production}
    (h : t.Directs input x ds w) :
    ds.foldlM (fun x p => p.expandLeftmost? x) x = some (Word.toForm w) := by
  induction h with
  | done => rfl
  | step _ hnext _ ih => rw [List.foldlM_cons, hnext]; exact ih

/-- A form has its first nonterminal behind every word that it begins with. -/
theorem toForm_append_nonterminal {x z : Word} {a : Nonterminal} {y stack : Form}
    (h : Word.toForm z ++ .nonterminal a :: y = Word.toForm x ++ stack) :
    ∃ q, z = x ++ q ∧ stack = Word.toForm q ++ .nonterminal a :: y := by
  induction x generalizing z with
  | nil => exact ⟨z, rfl, h.symm⟩
  | cons t x ih =>
    cases z with
    | nil => cases h
    | cons s z =>
      rw [Word.toForm_cons, Word.toForm_cons, List.cons_append, List.cons_append,
        List.cons.injEq, Symbol.terminal.injEq] at h
      obtain ⟨rfl, h⟩ := h
      obtain ⟨q, rfl, hq⟩ := ih h
      exact ⟨q, rfl, hq⟩

theorem toForm_eq_append {x z : Word} {stack : Form}
    (h : Word.toForm z = Word.toForm x ++ stack) : ∃ r, z = x ++ r ∧ stack = Word.toForm r := by
  induction x generalizing z with
  | nil => exact ⟨z, rfl, h.symm⟩
  | cons t x ih =>
    cases z with
    | nil => cases h
    | cons s z =>
      rw [Word.toForm_cons, Word.toForm_cons, List.cons_append, List.cons.injEq,
        Symbol.terminal.injEq] at h
      obtain ⟨rfl, h⟩ := h
      obtain ⟨r, rfl, hr⟩ := ih h
      exact ⟨r, rfl, hr⟩

/-- What a stack consumes is derived from it, behind any word `x` that was read before. -/
theorem Consumes.exists_directs {t : Table} {stack : Form} {u v : Word} {ds : List Production}
    (hleft : ∀ a w p, t.get? a w = some p → p.left = a) (h : Consumes t.selection stack u ds v) :
    ∃ r, u = r ++ v ∧ ∀ x, t.Directs (x ++ u) (Word.toForm x ++ stack) ds (x ++ r) := by
  induction h with
  | done =>
    refine ⟨[], rfl, fun x => ?_⟩
    rw [List.append_nil, List.append_nil]
    exact .done x
  | @read s stack u v ds _ ih =>
    obtain ⟨r, rfl, ih⟩ := ih
    refine ⟨s :: r, rfl, fun x => ?_⟩
    simpa using ih (x ++ [s])
  | @expand a p stack u v ds hp _ ih =>
    obtain ⟨r, hu, ih⟩ := ih
    refine ⟨r, hu, fun x => ?_⟩
    have hentry : t.get? a (((x ++ u).drop x.length).take t.k) = some p := by
      rw [List.drop_left]
      exact hp
    have hpa : p.left = a := hleft a _ p hp
    have hnext : p.expandLeftmost? (Word.toForm x ++ .nonterminal a :: stack) =
        some (Word.toForm x ++ (p.right ++ stack)) := by
      rw [Production.expandLeftmost?_append, if_pos hpa.symm]
    exact .step hentry hnext (ih x)

/-- What is derived from a stack behind a word `x` is what the stack consumes. -/
theorem Table.Directs.exists_consumes {t : Table} {input w : Word} {form : Form}
    {ds : List Production} (h : t.Directs input form ds w) {x v : Word} {stack : Form}
    (hinput : input = w ++ v) (hform : form = Word.toForm x ++ stack) :
    ∃ r, w = x ++ r ∧ Consumes t.selection stack (r ++ v) ds v := by
  induction h generalizing x stack with
  | done w =>
    obtain ⟨r, rfl, rfl⟩ := toForm_eq_append hform
    exact ⟨r, rfl, Consumes.toForm_iff.2 ⟨rfl, rfl⟩⟩
  | @step z a y next p ds w hp hnext _ ih =>
    obtain ⟨q, rfl, rfl⟩ := toForm_append_nonterminal hform
    rw [Production.expandLeftmost?_append] at hnext
    split at hnext
    · cases hnext
      obtain ⟨r, rfl, hr⟩ := ih hinput rfl
      refine ⟨q ++ r, List.append_assoc x q r, ?_⟩
      rw [hinput, List.append_assoc (x ++ q), List.drop_left] at hp
      have hexpand : Consumes t.selection (.nonterminal a :: y) (r ++ v) (p :: ds) v :=
        .expand hp hr
      rw [List.append_assoc]
      exact (Consumes.toForm_iff.2 ⟨rfl, rfl⟩).append hexpand
    · cases hnext

/-- **Consuming is deriving along the table.** -/
theorem Table.consumes_iff_directs {t : Table} {form : Form} {w v : Word} {ds : List Production}
    (hleft : ∀ a w p, t.get? a w = some p → p.left = a) :
    Consumes t.selection form (w ++ v) ds v ↔ t.Directs (w ++ v) form ds w := by
  constructor
  · intro h
    obtain ⟨r, hr, hds⟩ := h.exists_directs hleft
    have hwr : w = r := List.append_cancel_right hr
    subst hwr
    exact hds []
  · intro h
    obtain ⟨r, rfl, hds⟩ := h.exists_consumes (x := []) rfl rfl
    exact hds

/-! ## The parser -/

namespace Parser

variable {P : Parser} {ds : List Production}

/-- The letter of the input that a character stands for. -/
theorem filter_ofChar?_eq_some_iff {c : Char} {x : Terminal} :
    (Terminal.ofChar? c).filter (· ∈ P.grammar.terminals) = some x ↔
      c = x.char ∧ x ∈ P.grammar.terminals ∧ x ≠ .endMark := by
  rw [Option.filter_eq_some_iff, Terminal.ofChar?_eq_some_iff, decide_eq_true_eq, and_assoc,
    and_comm (a := x ≠ .endMark)]

theorem readInput_cons_eq_ok_iff {c : Char} {s : List Char} {w : Word} :
    P.readInput (c :: s) = .ok w ↔ ∃ x v, w = x :: v ∧
      (c = x.char ∧ x ∈ P.grammar.terminals ∧ x ≠ .endMark) ∧ P.readInput s = .ok v := by
  simp only [← filter_ofChar?_eq_some_iff]
  rw [readInput]
  cases (Terminal.ofChar? c).filter (· ∈ P.grammar.terminals) with
  | none => exact ⟨nofun, fun ⟨_, _, _, h, _⟩ => nomatch h⟩
  | some x =>
    cases P.readInput s with
    | error _ => exact ⟨nofun, fun ⟨_, _, _, _, h⟩ => nomatch h⟩
    | ok v =>
      constructor
      · rintro ⟨⟩
        exact ⟨x, v, rfl, rfl, rfl⟩
      · rintro ⟨_, _, rfl, ⟨⟩, ⟨⟩⟩
        rfl

/-- The input that is read: the text is spelled by declared letters. -/
theorem readInput_eq_ok_iff {s : List Char} {w : Word} :
    P.readInput s = .ok w ↔
      s = w.map Terminal.char ∧ ∀ x ∈ w, x ∈ P.grammar.terminals ∧ x ≠ .endMark := by
  induction s generalizing w with
  | nil =>
    rw [readInput, Except.ok.injEq]
    constructor
    · intro hw
      subst hw
      exact ⟨rfl, nofun⟩
    · intro h
      have hw : w = [] := List.map_eq_nil_iff.1 h.1.symm
      exact hw.symm
  | cons c s ih =>
    simp only [readInput_cons_eq_ok_iff, ih]
    constructor
    · intro h
      obtain ⟨x, v, rfl, ⟨rfl, hx⟩, rfl, hv⟩ := h
      exact ⟨rfl, List.forall_mem_cons.2 ⟨hx, hv⟩⟩
    · intro h
      obtain ⟨hw, hdecl⟩ := h
      cases w with
      | nil => cases hw
      | cons x v =>
        obtain ⟨hc, hs⟩ := List.cons.inj hw
        obtain ⟨hx, hv⟩ := List.forall_mem_cons.1 hdecl
        exact ⟨x, v, rfl, ⟨hc, hx⟩, hs, hv⟩

/-- A text is accepted by what the sentence symbol consumes of it in front of the end marks. -/
theorem derive_eq_some_iff {text : String} :
    (P.derive text).value = some ds ↔ ∃ w, P.readInput text.toList = .ok w ∧
      Consumes P.table.selection [.nonterminal P.grammar.start] (w ++ P.padding) ds P.padding := by
  rw [derive]
  match P.readInput text.toList with
  | .error _ => exact ⟨nofun, fun ⟨_, h, _⟩ => nomatch h⟩
  | .ok w =>
    have hrun : (P.table.run (w ++ P.padding) ∅ (P.initial (w ++ P.padding))).value = some ds ↔
        Consumes P.table.selection ([.nonterminal P.grammar.start] ++ Word.toForm P.padding)
          (w ++ P.padding) ds [] := Table.run_eq_some_iff Table.tracks_empty
    refine hrun.trans ⟨fun h => ?_, ?_⟩
    · obtain ⟨ds, v, es, rfl, hds, hes⟩ := h.exists_of_append
      -- the end marks on the stack can only read the marks behind the input
      obtain ⟨rfl, rfl⟩ := Consumes.toForm_iff.1 hes
      rw [List.append_nil] at hds ⊢
      exact ⟨w, rfl, hds⟩
    · rintro ⟨_, ⟨⟩, h⟩
      have hmarks : Consumes P.table.selection (Word.toForm P.padding) P.padding [] [] :=
        Consumes.toForm_iff.2 ⟨rfl, (List.append_nil P.padding).symm⟩
      have hall := h.append hmarks
      rwa [List.append_nil] at hall

end Parser

theorem Grammar.toParser_eq_ok {g : Grammar} {bound : Option Nat} {P : Parser}
    (h : (g.toParser bound).value = .ok P) :
    ∃ k, (g.findLookahead bound).value = .ok k ∧ P = ⟨g, (g.tabulate k).value⟩ := by
  unfold toParser at h
  rw [Logged.value_bind, Logged.value_pure] at h
  match ht : (g.analyze bound).value with
  | .ok t =>
    obtain ⟨hk, htable⟩ := analyze_eq_ok ht
    rw [ht] at h
    exact ⟨t.k, hk, htable ▸ (Except.ok.inj h).symm⟩
  | .error _ =>
    rw [ht] at h
    cases h

/-- Where the search succeeds there is a parser. -/
theorem Grammar.toParser_of_findLookahead {g : Grammar} {bound : Option Nat} {k : Nat}
    (h : (g.findLookahead bound).value = .ok k) :
    (g.toParser bound).value = .ok ⟨g, (g.tabulate k).value⟩ := by
  unfold toParser
  rw [Logged.value_bind, analyze_of_findLookahead h]
  rfl

/-- **A text is accepted exactly by the leftmost derivations of it that follow the table**, and they
are derivations of the text. -/
theorem Parser.derive_iff_directs {g : Grammar} {bound : Option Nat} {P : Parser}
    (h : (g.toParser bound).value = .ok P) (text : String) (ds : List Production) :
    ((P.derive text).value = some ds ↔ ∃ w : Word, text.toList = w.map Terminal.char ∧
      (∀ x ∈ w, x ∈ g.terminals ∧ x ≠ .endMark) ∧
      P.table.Directs (w ++ List.replicate P.k .endMark) [.nonterminal g.start] ds w) ∧
    ((P.derive text).value = some ds → ∃ w : Word, text.toList = w.map Terminal.char ∧
      ds.foldlM (fun x p => p.expandLeftmost? x) [.nonterminal g.start] =
        some (Word.toForm w)) := by
  obtain ⟨k, -, rfl⟩ := Grammar.toParser_eq_ok h
  have hleft : ∀ a w p, (g.tabulate k).value.get? a w = some p → p.left = a := by
    intro a w p hp
    obtain ⟨hmem, -⟩ := Grammar.get?_tabulate_eq_some hp
    exact (g.mem_productionsOf.1 hmem).2
  have hderive : ((⟨g, (g.tabulate k).value⟩ : Parser).derive text).value = some ds ↔
      ∃ w : Word, text.toList = w.map Terminal.char ∧
        (∀ x ∈ w, x ∈ g.terminals ∧ x ≠ .endMark) ∧
        (g.tabulate k).value.Directs (w ++ List.replicate k .endMark)
          [.nonterminal g.start] ds w := by
    rw [derive_eq_some_iff]
    refine exists_congr fun w => ?_
    rw [readInput_eq_ok_iff, and_assoc]
    exact and_congr_right fun _ => and_congr_right fun _ =>
      Table.consumes_iff_directs hleft
  refine ⟨hderive, fun hds => ?_⟩
  obtain ⟨w, htext, -, hds⟩ := hderive.1 hds
  exact ⟨w, htext, hds.foldlM_eq⟩

open Sample in
theorem derive_iff_directs_nested :
    (nested.toParser (some 4)).value = .ok ⟨nested, (nested.tabulate 1).value⟩ ∧
      ((⟨nested, (nested.tabulate 1).value⟩ : Parser).derive "acb").value =
        some [⟨S, [.terminal a, .nonterminal S, .terminal b]⟩, ⟨S, [.terminal c]⟩] := by
  have hparser := Grammar.toParser_of_findLookahead
    (show (nested.findLookahead (some 4)).value = .ok 1 by decide +kernel)
  refine ⟨hparser, (Parser.derive_iff_directs hparser "acb" _).1.2
    ⟨[a, c, b], rfl, by decide, ?_⟩⟩
  refine .step (x := []) (y := []) (by decide +kernel) rfl ?_
  refine .step (x := [a]) (y := [.terminal b]) (by decide +kernel) rfl ?_
  exact .done [a, c, b]

end TopDown
