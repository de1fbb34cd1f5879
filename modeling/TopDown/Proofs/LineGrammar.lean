import Mathlib.Data.List.Forall2
import Mathlib.Data.List.Infix
import TopDown.Grammar.Reader
import TopDown.Proofs.Items
import TopDown.Proofs.Samples

/-!
# The texts that are grammars

A text is read line by line. It is a grammar iff every line that says something writes a production
and one of the productions holds `S`. What is wrong otherwise is the first line that writes none, or
that `S` is missing, and nothing else: the letters of a line are symbols, and all symbols of the
productions get declared.

* `SplitsInto`, `Production.WrittenIn`: what a line that writes a production looks like;
  `Production.ofLine_eq_ok_iff`, `Production.ofLine_eq_error_iff`;
* `Grammar.Collects`: the grammar of a list of productions; `Grammar.ofProductions_eq_ok_iff`,
  `Grammar.ofProductions_eq_error_iff`;
* `contentLines`, the lines that say something, with their numbers; `LinesWrite`, `FirstFault`;
* `Grammar.ofText_eq_ok_iff`, `Grammar.ofText_eq_error_iff` and **`Grammar.ofText_exact`**.
-/

namespace TopDown

/-! ## Reading one after the other -/

section Each

variable {α β ε : Type} {f : α → Except ε β} {l : List α}

/-- All members are read iff each of them is. -/
theorem mapM_eq_ok_iff {l' : List β} :
    l.mapM f = .ok l' ↔ List.Forall₂ (fun a b => f a = .ok b) l l' := by
  induction l generalizing l' with
  | nil =>
    rw [List.mapM_nil, List.forall₂_nil_left_iff]
    exact ⟨fun h => (Except.ok.inj h).symm, fun h => congrArg Except.ok h.symm⟩
  | cons a l ih =>
    rw [List.mapM_cons, List.forall₂_cons_left_iff]
    simp only [← ih]
    cases f a with
    | error e => exact ⟨nofun, fun ⟨_, _, h, _⟩ => nomatch h⟩
    | ok b =>
      cases l.mapM f with
      | error e => exact ⟨nofun, fun ⟨_, _, _, h, _⟩ => nomatch h⟩
      | ok bs =>
        constructor
        · rintro ⟨⟩
          exact ⟨b, bs, rfl, rfl, rfl⟩
        · rintro ⟨_, _, ⟨⟩, ⟨⟩, rfl⟩
          rfl

/-- The error is that of the first member that is not read. -/
theorem mapM_eq_error_iff {e : ε} :
    l.mapM f = .error e ↔ ∃ before a after, l = before ++ a :: after ∧
      (∀ b ∈ before, ∃ c, f b = .ok c) ∧ f a = .error e := by
  induction l with
  | nil =>
    rw [List.mapM_nil]
    refine ⟨nofun, ?_⟩
    rintro ⟨before, a, after, hl, -⟩
    exact absurd hl.symm (List.append_ne_nil_of_right_ne_nil before nofun)
  | cons a l ih =>
    rw [List.mapM_cons]
    match ha : f a with
    | .error e' =>
      constructor
      · rintro ⟨⟩
        exact ⟨[], a, l, rfl, nofun, ha⟩
      · rintro ⟨before, b, after, hl, hbefore, hb⟩
        cases before with
        | nil =>
          cases hl
          exact congrArg Except.error (Except.error.inj (ha.symm.trans hb))
        | cons c before =>
          cases hl
          obtain ⟨d, hd⟩ := hbefore a List.mem_cons_self
          rw [ha] at hd
          cases hd
    | .ok c =>
      have htail : (do let c' ← Except.ok c; let cs ← l.mapM f; pure (c' :: cs) : Except ε _) =
          .error e ↔ l.mapM f = .error e := by
        cases l.mapM f with
        | error _ => exact Iff.rfl
        | ok _ => exact ⟨nofun, nofun⟩
      refine htail.trans (ih.trans ?_)
      constructor
      · rintro ⟨before, b, after, rfl, hbefore, hb⟩
        exact ⟨a :: before, b, after, rfl, List.forall_mem_cons.2 ⟨⟨c, ha⟩, hbefore⟩, hb⟩
      · rintro ⟨before, b, after, hl, hbefore, hb⟩
        cases before with
        | nil =>
          cases hl
          rw [ha] at hb
          cases hb
        | cons d before =>
          cases hl
          exact ⟨before, b, after, rfl, (List.forall_mem_cons.1 hbefore).2, hb⟩

end Each

/-! ## A line -/

/-- The text holds an arrow. -/
theorem hasArrow_iff {s : List Char} : hasArrow s = true ↔ ['-', '>'] <:+: s := by
  induction s using hasArrow.induct with
  | case1 s =>
    rw [hasArrow]
    exact iff_of_true rfl ⟨[], s, rfl⟩
  | case2 c s hc ih =>
    rw [hasArrow, ih, List.infix_cons_iff]
    · refine ⟨.inr, fun h => h.resolve_left fun hprefix => ?_⟩
      obtain ⟨s', hs⟩ := hprefix
      cases hs
      exact hc _ rfl rfl
    · exact hc
  | case3 =>
    rw [hasArrow]
    exact iff_of_false nofun (by simp)

/-- The line begins with the letter `left`, a gap up to the first word character that holds an
arrow, and the letters `right`, which are all the letters that stand at once behind the gap. What
comes behind them is not read. -/
def SplitsInto (line : List Char) (left : Char) (right : List Char) : Prop :=
  ∃ gap rest, line = left :: (gap ++ (right ++ rest)) ∧
    (∀ c ∈ gap, isWordChar c = false) ∧ ['-', '>'] <:+: gap ∧
    (∀ c ∈ rest.head?, c.isAlpha = false) ∧
    (right = [] → ∀ c ∈ rest.head?, isWordChar c = true)

/-- The line writes the production, of which the end mark is no letter. -/
def Production.WrittenIn (p : Production) (line : List Char) : Prop :=
  .terminal .endMark ∉ p.right ∧ SplitsInto line p.left.char (p.right.map Symbol.char)

/-- Letters are word characters, so only a right side without letters leaves open what comes behind
the gap. -/
theorem isWordChar_head?_append_iff {right rest : List Char}
    (hright : ∀ c ∈ right, c.isAlpha = true) :
    (∀ c ∈ (right ++ rest).head?, isWordChar c = true) ↔
      (right = [] → ∀ c ∈ rest.head?, isWordChar c = true) := by
  cases right with
  | nil => exact ⟨fun h _ => h, fun h => h rfl⟩
  | cons d right =>
    refine iff_of_true (fun c hc => ?_) nofun
    cases hc
    exact isWordChar_of_isAlpha (hright d List.mem_cons_self)

theorem splitProduction_eq_some_iff {line : List Char} {left : Char} {right : List Char} :
    splitProduction line = some (left, right) ↔
      left.isUpper = true ∧ (∀ c ∈ right, c.isAlpha = true) ∧ SplitsInto line left right := by
  constructor
  · intro h
    cases line with
    | nil => cases h
    | cons d s =>
      rw [splitProduction] at h
      split at h
      · rename_i hsplit
        cases h
        obtain ⟨hupper, harrow⟩ := Bool.and_eq_true_iff.1 hsplit
        refine ⟨hupper, fun c hc => List.mem_takeWhile_imp hc, s.takeWhile (!isWordChar ·),
          (s.dropWhile (!isWordChar ·)).dropWhile Char.isAlpha, ?_, ?_, hasArrow_iff.1 harrow,
          of_mem_head?_dropWhile, ?_⟩
        · rw [List.takeWhile_append_dropWhile, List.takeWhile_append_dropWhile]
        · intro c hc
          simpa using List.mem_takeWhile_imp hc
        · -- without letters the gap ends where the rest begins
          intro hnil c hc
          have hrest := List.takeWhile_append_dropWhile (p := Char.isAlpha)
            (l := s.dropWhile (!isWordChar ·))
          rw [hnil, List.nil_append] at hrest
          rw [hrest] at hc
          simpa using of_mem_head?_dropWhile c hc
      · cases h
  · rintro ⟨hleft, hright, gap, rest, rfl, hgap, harrow, hrest, hnil⟩
    have hword : ∀ c ∈ (right ++ rest).head?, (!isWordChar c) = false := by
      intro c hc
      rw [(isWordChar_head?_append_iff hright).2 hnil c hc]
      rfl
    have hnot : ∀ c ∈ gap, (!isWordChar c) = true := fun c hc => by rw [hgap c hc]; rfl
    obtain ⟨htake, hdrop⟩ := takeWhile_dropWhile_append hnot hword
    obtain ⟨hletters, -⟩ := takeWhile_dropWhile_append hright hrest
    rw [splitProduction, htake, hdrop, hletters, hleft, hasArrow_iff.2 harrow]
    rfl

theorem mapM_read_eq_ok_iff {r : List Char} {w : Form} :
    r.mapM Symbol.read = .ok w ↔ r = w.map Symbol.char ∧ .terminal .endMark ∉ w := by
  rw [mapM_eq_ok_iff]
  simp only [Symbol.read_eq_ok_iff]
  constructor
  · intro h
    induction h with
    | nil => exact ⟨rfl, List.not_mem_nil⟩
    | cons hx _ ih =>
      obtain ⟨rfl, hw⟩ := ih
      refine ⟨by rw [hx.1, List.map_cons], fun hmem => ?_⟩
      rcases List.mem_cons.1 hmem with he | hmem
      · exact hx.2 he.symm
      · exact hw hmem
  · rintro ⟨rfl, hw⟩
    rw [List.forall₂_map_left_iff, List.forall₂_same]
    exact fun x hx => ⟨rfl, fun he => hw (he ▸ hx)⟩

/-- Letters spell a form. -/
theorem exists_form_of_isAlpha {r : List Char} (hr : ∀ c ∈ r, c.isAlpha = true) :
    ∃ w : Form, r = w.map Symbol.char ∧ .terminal .endMark ∉ w := by
  induction r with
  | nil => exact ⟨[], rfl, List.not_mem_nil⟩
  | cons c r ih =>
    obtain ⟨hc, hrest⟩ := List.forall_mem_cons.1 hr
    obtain ⟨x, rfl, hx⟩ := Symbol.isAlpha_iff.1 hc
    obtain ⟨w, rfl, hw⟩ := ih hrest
    exact ⟨x :: w, rfl, List.not_mem_cons_of_ne_of_not_mem (Ne.symm hx) hw⟩

namespace Production

variable {p : Production} {line : List Char} {n : Nat}

theorem read_eq_ok_iff {c : Char} {r : List Char} : Production.read c r = .ok p ↔
    c = p.left.char ∧ r = p.right.map Symbol.char ∧ .terminal .endMark ∉ p.right := by
  rw [← Nonterminal.read_eq_ok_iff, ← mapM_read_eq_ok_iff]
  unfold Production.read
  cases Nonterminal.read c with
  | error _ => exact ⟨nofun, fun h => nomatch h.1⟩
  | ok a =>
    cases r.mapM Symbol.read with
    | error _ => exact ⟨nofun, fun h => nomatch h.2⟩
    | ok w =>
      constructor
      · rintro ⟨⟩
        exact ⟨rfl, rfl⟩
      · intro h
        cases p
        cases h.1
        cases h.2
        rfl

/-- Letters are read as a production. -/
theorem exists_read {c : Char} {r : List Char} (hc : c.isUpper = true)
    (hr : ∀ x ∈ r, x.isAlpha = true) : ∃ p, Production.read c r = .ok p := by
  obtain ⟨w, hw⟩ := exists_form_of_isAlpha hr
  exact ⟨⟨⟨c, hc⟩, w⟩, read_eq_ok_iff.2 ⟨rfl, hw⟩⟩

/-- **A line holds the production that it writes.** -/
theorem ofLine_eq_ok_iff : ofLine n line = .ok p ↔ p.WrittenIn line := by
  unfold ofLine
  constructor
  · intro h
    match hsplit : splitProduction line with
    | none =>
      rw [hsplit] at h
      cases h
    | some (c, r) =>
      rw [hsplit] at h
      obtain ⟨rfl, rfl, hend⟩ := read_eq_ok_iff.1 h
      exact ⟨hend, (splitProduction_eq_some_iff.1 hsplit).2.2⟩
  · rintro ⟨hend, hline⟩
    have hletters : ∀ x ∈ p.right.map Symbol.char, x.isAlpha = true := by
      intro x hx
      obtain ⟨y, hy, rfl⟩ := List.mem_map.1 hx
      exact Symbol.isAlpha_char fun he => hend (he ▸ hy)
    rw [splitProduction_eq_some_iff.2 ⟨p.left.isUpper, hletters, hline⟩]
    exact read_eq_ok_iff.2 ⟨rfl, rfl, hend⟩

/-- **The only thing wrong with a line is that it writes no production**: the letters of a line that
is split are symbols. -/
theorem ofLine_eq_error_iff {e : GrammarError} : ofLine n line = .error e ↔
    e = .wrongSyntax n (String.ofList line) ∧ ¬ ∃ p : Production, p.WrittenIn line := by
  simp only [← ofLine_eq_ok_iff (n := n)]
  unfold ofLine
  match hsplit : splitProduction line with
  | none =>
    simp [eq_comm]
  | some (c, r) =>
    obtain ⟨hc, hr, -⟩ := splitProduction_eq_some_iff.1 hsplit
    obtain ⟨p, hp⟩ := exists_read hc hr
    dsimp only
    rw [hp]
    exact iff_of_false nofun fun h => h.2 ⟨p, rfl⟩

end Production

/-! ## The symbols of the productions -/

/-- The symbol stands on one of the sides. -/
def Production.Mentions (p : Production) (s : Symbol) : Prop :=
  s = .nonterminal p.left ∨ s ∈ p.right

namespace Grammar

/-- The grammar has the sentence symbol `S`, the productions, each where it stands first, and the
symbols that they mention. -/
structure Collects (g : Grammar) (ps : List Production) : Prop where
  start : g.start = .sentence
  productions : g.productions = ps.eraseDups
  nonterminals : ∀ a, a ∈ g.nonterminals ↔ ∃ p ∈ ps, p.Mentions (.nonterminal a)
  terminals : ∀ t, t ∈ g.terminals ↔ ∃ p ∈ ps, p.Mentions (.terminal t)

variable {g : Grammar} {ps : List Production}

theorem mem_nonterminals_of_productions {a : Nonterminal} :
    a ∈ ps.flatMap (fun p => p.left :: p.right.filterMap Symbol.nonterminal?) ↔
      ∃ p ∈ ps, p.Mentions (.nonterminal a) := by
  have hsymbol : ∀ x : Symbol, x.nonterminal? = some a ↔ x = .nonterminal a := by
    intro x
    cases x <;> simp [Symbol.nonterminal?]
  simp [Production.Mentions, hsymbol]

theorem mem_terminals_of_productions {t : Terminal} :
    t ∈ ps.flatMap (fun p => p.right.filterMap Symbol.terminal?) ↔
      ∃ p ∈ ps, p.Mentions (.terminal t) := by
  have hsymbol : ∀ x : Symbol, x.terminal? = some t ↔ x = .terminal t := by
    intro x
    cases x <;> simp [Symbol.terminal?]
  simp [Production.Mentions, hsymbol]

theorem ofProductions_eq_ok_iff : ofProductions ps = .ok g ↔ g.Collects ps := by
  unfold ofProductions
  rw [declare_eq_ok_iff]
  constructor
  · rintro ⟨hnts, hts, hstart, hps⟩
    refine ⟨hstart, hps, fun a => ?_, fun t => ?_⟩
    · rw [hnts, OrderedSet.mem_ofList, mem_nonterminals_of_productions]
    · rw [hts, OrderedSet.mem_ofList, mem_terminals_of_productions]
  · intro h
    refine ⟨OrderedSet.ext fun a => ?_, OrderedSet.ext fun t => ?_, h.start, h.productions⟩
    · rw [h.nonterminals, OrderedSet.mem_ofList, mem_nonterminals_of_productions]
    · rw [h.terminals, OrderedSet.mem_ofList, mem_terminals_of_productions]

theorem Collects.mentions_sentence (h : g.Collects ps) :
    ∃ p ∈ ps, p.Mentions (.nonterminal .sentence) :=
  (h.nonterminals _).1 (h.start ▸ g.start_mem)

/-- Productions that mention `S` make a grammar: they declare whatever they mention. -/
theorem exists_collects (h : ∃ p ∈ ps, p.Mentions (.nonterminal .sentence)) :
    ∃ g : Grammar, g.Collects ps := by
  refine ⟨{
    nonterminals := .ofList (ps.flatMap fun p => p.left :: p.right.filterMap Symbol.nonterminal?)
    terminals := .ofList (ps.flatMap fun p => p.right.filterMap Symbol.terminal?)
    start := .sentence
    productions := ps.eraseDups
    start_mem := OrderedSet.mem_ofList.2 (mem_nonterminals_of_productions.2 h)
    nodup := nodup_eraseDups ps
    declared := fun p hp => ?_ },
    ofProductions_eq_ok_iff.1 (declare_eq_ok_iff.2 ⟨rfl, rfl, rfl, rfl⟩)⟩
  have hmem : p ∈ ps := List.mem_eraseDups.1 hp
  refine ⟨OrderedSet.mem_ofList.2 (mem_nonterminals_of_productions.2 ⟨p, hmem, .inl rfl⟩), ?_⟩
  intro s hs
  cases s with
  | nonterminal a =>
    exact OrderedSet.mem_ofList.2 (mem_nonterminals_of_productions.2 ⟨p, hmem, .inr hs⟩)
  | terminal t =>
    exact OrderedSet.mem_ofList.2 (mem_terminals_of_productions.2 ⟨p, hmem, .inr hs⟩)

theorem ofProductions_eq_error_iff {e : GrammarError} : ofProductions ps = .error e ↔
    e = .missingSentenceSymbol .sentence ∧
      ¬ ∃ p ∈ ps, p.Mentions (.nonterminal .sentence) := by
  by_cases h : ∃ p ∈ ps, p.Mentions (.nonterminal .sentence)
  · obtain ⟨g, hg⟩ := exists_collects h
    rw [ofProductions_eq_ok_iff.2 hg]
    exact iff_of_false nofun fun hnot => hnot.2 h
  · have hmissing : ofProductions ps = .error (.missingSentenceSymbol .sentence) :=
      declare_of_not_mem (mt mem_nonterminals_of_productions.1 h)
    rw [hmissing, Except.error.injEq]
    exact ⟨fun he => ⟨he.symm, h⟩, fun he => he.1.symm⟩

end Grammar

/-! ## A text -/

/-- The lines of a text that say something, trimmed, each with its number among all lines. -/
def contentLines (text : String) : List (List Char × Nat) :=
  (((lines text.toList).map trim).zipIdx 1).filter fun line => !isSkipped line.1

/-- The lines of the text that say something write the productions, one after the other. -/
def LinesWrite (text : String) (ps : List Production) : Prop :=
  List.Forall₂ (fun line p => p.WrittenIn line.1) (contentLines text) ps

/-- The line, with its number, is the first one that says something and writes no production. -/
def FirstFault (text : String) (n : Nat) (line : List Char) : Prop :=
  ∃ before after, contentLines text = before ++ (line, n) :: after ∧
    (∀ l ∈ before, ∃ p : Production, p.WrittenIn l.1) ∧ ¬ ∃ p : Production, p.WrittenIn line

theorem productionsOfLines_eq_mapM {n : Nat} {ls : List (List Char)} :
    productionsOfLines n ls = ((ls.zipIdx n).filter fun line => !isSkipped line.1).mapM
      fun line => Production.ofLine line.2 line.1 := by
  induction ls generalizing n with
  | nil => rfl
  | cons line ls ih =>
    rw [productionsOfLines, List.zipIdx_cons]
    split
    · rename_i hskip
      rw [ih, List.filter_cons_of_neg (by simp [hskip])]
    · rename_i hskip
      rw [ih, List.filter_cons_of_pos (by simp [hskip]), List.mapM_cons]

namespace Grammar

variable {text : String} {g : Grammar} {ps : List Production}

theorem ofText_eq : ofText text =
    (contentLines text).mapM (fun line => Production.ofLine line.2 line.1) >>= ofProductions := by
  rw [ofText, productionsOfLines_eq_mapM, contentLines]

theorem mapM_ofLine_eq_ok_iff :
    (contentLines text).mapM (fun line => Production.ofLine line.2 line.1) = .ok ps ↔
      LinesWrite text ps := by
  rw [mapM_eq_ok_iff]
  simp only [Production.ofLine_eq_ok_iff, LinesWrite]

theorem mapM_ofLine_eq_error_iff {e : GrammarError} :
    (contentLines text).mapM (fun line => Production.ofLine line.2 line.1) = .error e ↔
      ∃ n line, FirstFault text n line ∧ e = .wrongSyntax n (String.ofList line) := by
  rw [mapM_eq_error_iff]
  simp only [Production.ofLine_eq_ok_iff, Production.ofLine_eq_error_iff]
  constructor
  · rintro ⟨before, ⟨line, n⟩, after, hlines, hbefore, he, hnot⟩
    exact ⟨n, line, ⟨before, after, hlines, hbefore, hnot⟩, he⟩
  · rintro ⟨n, line, ⟨before, after, hlines, hbefore, hnot⟩, he⟩
    exact ⟨before, (line, n), after, hlines, hbefore, he, hnot⟩

/-- A text is the grammar of the productions that its lines write. -/
theorem ofText_eq_ok_iff : ofText text = .ok g ↔ ∃ ps, LinesWrite text ps ∧ g.Collects ps := by
  simp only [← mapM_ofLine_eq_ok_iff, ← ofProductions_eq_ok_iff]
  rw [ofText_eq]
  cases (contentLines text).mapM fun line => Production.ofLine line.2 line.1 with
  | error _ => exact ⟨nofun, fun ⟨_, h, _⟩ => nomatch h⟩
  | ok ps =>
    constructor
    · intro h
      exact ⟨ps, rfl, h⟩
    · rintro ⟨_, ⟨⟩, h⟩
      exact h

/-- A text is no grammar because of a line, or because `S` is missing. -/
theorem ofText_eq_error_iff {e : GrammarError} : ofText text = .error e ↔
    (∃ n line, FirstFault text n line ∧ e = .wrongSyntax n (String.ofList line)) ∨
      ∃ ps, LinesWrite text ps ∧ e = .missingSentenceSymbol .sentence ∧
        ¬ ∃ p ∈ ps, p.Mentions (.nonterminal .sentence) := by
  simp only [← mapM_ofLine_eq_ok_iff, ← ofProductions_eq_error_iff]
  rw [← mapM_ofLine_eq_error_iff, ofText_eq]
  cases (contentLines text).mapM fun line => Production.ofLine line.2 line.1 with
  | error e' =>
    constructor
    · rintro ⟨⟩
      exact .inl rfl
    · rintro (⟨⟨⟩⟩ | ⟨_, h, -⟩)
      · rfl
      · cases h
  | ok ps =>
    constructor
    · intro h
      exact .inr ⟨ps, rfl, h⟩
    · rintro (h | ⟨_, ⟨⟩, h⟩)
      · cases h
      · exact h

/-- **A text is a grammar iff its lines write productions that mention `S`.** Lines end at `\n` or
`\r\n`, all of them are counted, and those that are blank or begin with `#` say nothing. If one of
the others writes no production, the first of these is the error, whatever else the text holds. If
`S` stands on no side of a production, that is the error. Otherwise there is the grammar that
collects the productions, and no other error is possible. -/
theorem ofText_exact (text : String) :
    (∀ n s, ofText text = .error (.wrongSyntax n s) ↔
      ∃ line, FirstFault text n line ∧ s = String.ofList line) ∧
    (ofText text = .error (.missingSentenceSymbol .sentence) ↔
      ∃ ps, LinesWrite text ps ∧ ¬ ∃ p ∈ ps, p.Mentions (.nonterminal .sentence)) ∧
    ((∃ g, ofText text = .ok g) ↔
      ∃ ps, LinesWrite text ps ∧ ∃ p ∈ ps, p.Mentions (.nonterminal .sentence)) ∧
    (∀ g, ofText text = .ok g ↔ ∃ ps, LinesWrite text ps ∧ g.Collects ps) ∧
    ∀ e, ofText text = .error e →
      (∃ n s, e = .wrongSyntax n s) ∨ e = .missingSentenceSymbol .sentence := by
  refine ⟨fun n s => ?_, ?_, ?_, fun g => ofText_eq_ok_iff, fun e he => ?_⟩
  · rw [ofText_eq_error_iff]
    constructor
    · rintro (⟨m, line, hfault, he⟩ | ⟨ps, -, he, -⟩)
      · cases he
        exact ⟨line, hfault, rfl⟩
      · cases he
    · rintro ⟨line, hfault, rfl⟩
      exact .inl ⟨n, line, hfault, rfl⟩
  · rw [ofText_eq_error_iff]
    constructor
    · rintro (⟨n, line, -, he⟩ | ⟨ps, hlines, -, hnot⟩)
      · cases he
      · exact ⟨ps, hlines, hnot⟩
    · rintro ⟨ps, hlines, hnot⟩
      exact .inr ⟨ps, hlines, rfl, hnot⟩
  · simp only [ofText_eq_ok_iff]
    constructor
    · rintro ⟨g, ps, hlines, hg⟩
      exact ⟨ps, hlines, hg.mentions_sentence⟩
    · rintro ⟨ps, hlines, hsentence⟩
      obtain ⟨g, hg⟩ := exists_collects hsentence
      exact ⟨g, ps, hlines, hg⟩
  · rcases ofText_eq_error_iff.1 he with ⟨n, line, -, rfl⟩ | ⟨ps, -, rfl, -⟩
    · exact .inl ⟨n, _, rfl⟩
    · exact .inr rfl

theorem ofText_exact_samples :
    (∃ line, FirstFault "S -> a\n\nS a -> x" 3 line ∧ "S a -> x" = String.ofList line) ∧
    (∃ ps, LinesWrite "A -> a" ps ∧ ¬ ∃ p ∈ ps, p.Mentions (.nonterminal .sentence)) ∧
    ∃ ps, LinesWrite "# nested\r\n S->aSb\n\nS -> c, S\nS -> c" ps ∧ Sample.nested.Collects ps := by
  obtain ⟨hfault, -⟩ := ofText_exact "S -> a\n\nS a -> x"
  obtain ⟨-, hmissing, -⟩ := ofText_exact "A -> a"
  obtain ⟨-, -, -, hgrammar, -⟩ := ofText_exact "# nested\r\n S->aSb\n\nS -> c, S\nS -> c"
  refine ⟨(hfault 3 "S a -> x").1 ?_, hmissing.1 ?_, (hgrammar Sample.nested).1 ?_⟩
  · rfl
  · rfl
  · rfl

end Grammar

end TopDown
