import TopDown.Proofs.LineGrammar

/-!
# What the reader passes over

Of a line the reader takes the letter in front of the gap and the letters behind it. The gap may hold
anything but word characters around its arrow, and what comes behind the letters is not read. Of a
text it takes the lines that say something. How the lines end, what blanks stand around them and how
many lines that say nothing stand between them is no matter, but for the number of a line in error.

* `MatchesRule`: the parts of a line; **`splitProduction_exact`**;
* `Joined`: lines as a text; `contentFrom`, the lines that say something; `contentFrom_lines`;
* `LaidLine`, a line that is laid out anew, and `insertedBefore`; `forall₂_contentFrom`: the same
  lines say something;
* `GrammarError.renumber`; **`Grammar.ofText_layout`**.
-/

namespace TopDown

/-! ## A line -/

/-- The line is `left x -> y right rest`: an uppercase letter, an arrow between characters that are
no word characters, and letters. What comes behind the letters does not begin with a letter, and if
there are no letters it begins with a word character, unless it is nothing. -/
def MatchesRule (line : List Char) (left : Char) (right : List Char) : Prop :=
  ∃ x y rest, line = left :: (x ++ ['-', '>'] ++ y ++ (right ++ rest)) ∧
    left.isUpper = true ∧ (∀ c ∈ x, isWordChar c = false) ∧ (∀ c ∈ y, isWordChar c = false) ∧
    (∀ c ∈ right, c.isAlpha = true) ∧ (∀ c ∈ rest.head?, c.isAlpha = false) ∧
    ∀ c ∈ (right ++ rest).head?, isWordChar c = true

/-- The gap that a line is split at is what stands around an arrow. -/
theorem matchesRule_iff {line : List Char} {left : Char} {right : List Char} :
    MatchesRule line left right ↔ left.isUpper = true ∧ (∀ c ∈ right, c.isAlpha = true) ∧
      SplitsInto line left right := by
  constructor
  · rintro ⟨x, y, rest, rfl, hleft, hx, hy, hright, hrest, hword⟩
    have harrow : ∀ c ∈ ['-', '>'], isWordChar c = false := by
      simp only [List.forall_mem_cons]
      exact ⟨rfl, rfl, nofun⟩
    have hgap : ∀ c ∈ x ++ ['-', '>'] ++ y, isWordChar c = false :=
      List.forall_mem_append.2 ⟨List.forall_mem_append.2 ⟨hx, harrow⟩, hy⟩
    exact ⟨hleft, hright, x ++ ['-', '>'] ++ y, rest, rfl, hgap, ⟨x, y, rfl⟩, hrest,
      (isWordChar_head?_append_iff hright).1 hword⟩
  · rintro ⟨hleft, hright, gap, rest, rfl, hgap, ⟨x, y, rfl⟩, hrest, hnil⟩
    refine ⟨x, y, rest, rfl, hleft, fun c hc => hgap c ?_, fun c hc => hgap c ?_, hright, hrest,
      (isWordChar_head?_append_iff hright).2 hnil⟩
    · exact List.mem_append_left _ (List.mem_append_left _ hc)
    · exact List.mem_append_right _ hc

/-- **A line is split as the rule for productions says.** The letters are those of any way to write
the line as the rule asks, so they do not depend on the arrow that is taken. A line that cannot be
written so is not split. -/
theorem splitProduction_exact (line : List Char) :
    (∀ left right, splitProduction line = some (left, right) ↔ MatchesRule line left right) ∧
    (∀ left right left' right', MatchesRule line left right → MatchesRule line left' right' →
      left = left' ∧ right = right') ∧
    (splitProduction line = none ↔ ¬ ∃ left right, MatchesRule line left right) := by
  have hsplit : ∀ left right, splitProduction line = some (left, right) ↔
      MatchesRule line left right := fun left right =>
    splitProduction_eq_some_iff.trans matchesRule_iff.symm
  refine ⟨hsplit, fun left right left' right' h h' => ?_, ?_⟩
  · have heq : some (left, right) = some (left', right') :=
      ((hsplit left right).2 h).symm.trans ((hsplit left' right').2 h')
    rwa [Option.some.injEq, Prod.mk.injEq] at heq
  · simp only [← hsplit]
    cases splitProduction line with
    | none => exact iff_of_true rfl nofun
    | some c => exact iff_of_false nofun fun h => h ⟨c.1, c.2, rfl⟩

theorem splitProduction_exact_arrows :
    (MatchesRule "S->-> aBλ".toList 'S' ['a', 'B'] ∧
      splitProduction "S->-> aBλ".toList = some ('S', ['a', 'B'])) ∧
    ('S' = 'S' ∧ ['a', 'B'] = ['a', 'B']) ∧
    ¬ ∃ left right, MatchesRule "S 1 -> a".toList left right := by
  have harrow : ∀ c ∈ ['-', '>'], isWordChar c = false :=
    List.forall_mem_cons.2 ⟨rfl, List.forall_mem_singleton.2 rfl⟩
  have hblank : ∀ c ∈ [' '], isWordChar c = false := List.forall_mem_singleton.2 rfl
  have hletters : ∀ c ∈ ['a', 'B'], c.isAlpha = true :=
    List.forall_mem_cons.2 ⟨rfl, List.forall_mem_singleton.2 rfl⟩
  have hrest : ∀ c ∈ ['λ'].head?, c.isAlpha = false := by
    rintro c ⟨⟩
    rfl
  have hword : ∀ c ∈ (['a', 'B'] ++ ['λ']).head?, isWordChar c = true := by
    rintro c ⟨⟩
    rfl
  -- either arrow may be the one of the rule
  have hfirst : MatchesRule "S->-> aBλ".toList 'S' ['a', 'B'] :=
    ⟨[], ['-', '>'] ++ [' '], ['λ'], rfl, rfl, nofun, List.forall_mem_append.2 ⟨harrow, hblank⟩,
      hletters, hrest, hword⟩
  have hsecond : MatchesRule "S->-> aBλ".toList 'S' ['a', 'B'] :=
    ⟨['-', '>'], [' '], ['λ'], rfl, rfl, harrow, hblank, hletters, hrest, hword⟩
  obtain ⟨hiff, hunique, -⟩ := splitProduction_exact "S->-> aBλ".toList
  obtain ⟨-, -, hnone⟩ := splitProduction_exact "S 1 -> a".toList
  exact ⟨⟨hfirst, (hiff _ _).2 hfirst⟩, hunique _ _ _ _ hfirst hsecond, hnone.1 rfl⟩

/-! ## The lines of a text -/

/-- The lines, each of which may end at a line feed or at a carriage return and a line feed, make up
the text; the last one may also end where the text ends. -/
inductive Joined : List (List Char) → List Char → Prop where
  | nil : Joined [] []
  | last {l : List Char} : '\n' ∉ l → Joined [l] l
  | lineFeed {l s : List Char} {ls : List (List Char)} : '\n' ∉ l → Joined ls s →
      Joined (l :: ls) (l ++ '\n' :: s)
  | carriageReturn {l s : List Char} {ls : List (List Char)} : '\n' ∉ l → Joined ls s →
      Joined (l :: ls) (l ++ '\r' :: '\n' :: s)

/-- The lines that say something, trimmed, each with its number, where the first line has the
number `n`. -/
def contentFrom (n : Nat) (ls : List (List Char)) : List (List Char × Nat) :=
  ((ls.map trim).zipIdx n).filter fun line => !isSkipped line.1

theorem contentFrom_cons (n : Nat) (l : List Char) (ls : List (List Char)) :
    contentFrom n (l :: ls) =
      if isSkipped (trim l) then contentFrom (n + 1) ls
      else (trim l, n) :: contentFrom (n + 1) ls := by
  rw [contentFrom, List.map_cons, List.zipIdx_cons, List.filter_cons]
  cases isSkipped (trim l) <;> rfl

/-- A line end takes no more from a line than a blank. -/
theorem lines_append_lineFeed_trim {l : List Char} (hl : '\n' ∉ l) (s : List Char) :
    ∃ l', lines (l ++ '\n' :: s) = l' :: lines s ∧ trim l' = trim l := by
  by_cases hend : l.getLast? = some '\r'
  · obtain ⟨l', rfl⟩ := List.getLast?_eq_some_iff.1 hend
    have hl' : '\n' ∉ l' := fun h => hl (List.mem_append_left _ h)
    have hblank : ∀ c ∈ ['\r'], isBlank c = true := List.forall_mem_singleton.2 rfl
    have htrim : trim ([] ++ l' ++ ['\r']) = trim l' :=
      trim_append (fun _ h => absurd h List.not_mem_nil) hblank
    refine ⟨l', ?_, htrim.symm⟩
    rw [List.append_assoc]
    exact lines_append_carriageReturn hl' s
  · exact ⟨l, lines_append_lineFeed hl hend s, rfl⟩

/-- The lines that are read from a text say what the lines say that it was made of. -/
theorem contentFrom_lines {ls : List (List Char)} {s : List Char} (h : Joined ls s) (n : Nat) :
    contentFrom n (lines s) = contentFrom n ls := by
  induction h generalizing n with
  | nil => rfl
  | @last l hl =>
    by_cases hnil : l = []
    · -- a last line that is empty is not there
      rw [hnil]
      rfl
    · rw [lines_of_not_mem hl hnil]
  | lineFeed hl _ ih =>
    obtain ⟨l', hlines, htrim⟩ := lines_append_lineFeed_trim hl _
    rw [hlines, contentFrom_cons, contentFrom_cons, htrim, ih]
  | carriageReturn hl _ ih =>
    rw [lines_append_carriageReturn hl, contentFrom_cons, contentFrom_cons, ih]

/-! ## Lines that are laid out anew -/

/-- A line of a text that is laid out anew: one that was there, with what is put in front of it and
behind it, or one that is inserted. -/
inductive LaidLine where
  | kept (before line after : List Char)
  | inserted (line : List Char)

namespace LaidLine

/-- The line as it stands now. -/
def chars : LaidLine → List Char
  | kept before line after => before ++ line ++ after
  | inserted line => line

/-- The line as it was, if it was there. -/
def original? : LaidLine → Option (List Char)
  | kept _ line _ => some line
  | inserted _ => none

/-- Nothing but blanks is put around a line, and nothing is inserted but blank lines and comments,
which may have blanks in front. -/
def Harmless : LaidLine → Prop
  | kept before _ after => (∀ c ∈ before, isBlank c = true) ∧ ∀ c ∈ after, isBlank c = true
  | inserted line => (∀ c ∈ line, isBlank c = true) ∨
      ∃ before comment, line = before ++ '#' :: comment ∧ ∀ c ∈ before, isBlank c = true

theorem isSkipped_of_harmless {line : List Char} (h : (inserted line).Harmless) :
    isSkipped (trim line) = true := by
  rcases h with hblank | ⟨before, comment, rfl, hbefore⟩
  · rw [trim_eq_nil hblank]
    rfl
  · have htrim : trim (before ++ '#' :: comment) = trim ('#' :: comment) := by
      have happend : trim (before ++ '#' :: comment ++ []) = trim ('#' :: comment) :=
        trim_append hbefore fun _ h => absurd h List.not_mem_nil
      rwa [List.append_nil] at happend
    have hhead : (trim ('#' :: comment)).head? = some '#' := head?_trim_cons (by decide) comment
    simp [isSkipped, htrim, hhead]

end LaidLine

/-- Two lines, the second of them no rule, with a comment and a blank line between them. -/
def Sample.laidLines : List LaidLine :=
  [.kept [] "S -> a".toList ['\t'], .inserted "  # no rule".toList, .inserted [' '],
    .kept ['\u3000'] "S a -> x".toList []]

/-- The number of lines that are inserted in front of the `n`th of those that were there. -/
def insertedBefore : List LaidLine → Nat → Nat
  | [], _ => 0
  | .inserted _ :: items, n => insertedBefore items n + 1
  | .kept .. :: items, n => if n ≤ 1 then 0 else insertedBefore items (n - 1)

/-- A line with its number, and the line that it has become. The lines that were there are counted
from `n`, the lines that are there now from `m`. -/
def Becomes (items : List LaidLine) (n m : Nat) (line line' : List Char × Nat) : Prop :=
  line'.1 = line.1 ∧ ∃ i, line.2 = n + i ∧ line'.2 = m + i + insertedBefore items (i + 1)

section Becomes

variable {items : List LaidLine} {n m : Nat} {line line' : List Char × Nat}

theorem Becomes.inserted (h : Becomes items n (m + 1) line line') (l : List Char) :
    Becomes (.inserted l :: items) n m line line' := by
  obtain ⟨hline, i, hn, hm⟩ := h
  refine ⟨hline, i, hn, ?_⟩
  rw [hm, insertedBefore]
  omega

theorem Becomes.kept (h : Becomes items (n + 1) (m + 1) line line') (before l after : List Char) :
    Becomes (.kept before l after :: items) n m line line' := by
  obtain ⟨hline, i, hn, hm⟩ := h
  refine ⟨hline, i + 1, by omega, ?_⟩
  rw [hm, insertedBefore, if_neg (by omega), Nat.add_sub_cancel]
  omega

/-- The same lines say something, each further behind by the lines that are inserted in front of
it. -/
theorem forall₂_contentFrom (h : ∀ i ∈ items, i.Harmless) (n m : Nat) :
    List.Forall₂ (Becomes items n m) (contentFrom n (items.filterMap LaidLine.original?))
      (contentFrom m (items.map LaidLine.chars)) := by
  induction items generalizing n m with
  | nil => exact .nil
  | cons item items ih =>
    obtain ⟨hitem, hitems⟩ := List.forall_mem_cons.1 h
    cases item with
    | inserted l =>
      have hskip : isSkipped (trim (LaidLine.inserted l).chars) = true :=
        LaidLine.isSkipped_of_harmless hitem
      rw [List.filterMap_cons_none rfl, List.map_cons, contentFrom_cons m, if_pos hskip]
      exact (ih hitems n (m + 1)).imp fun _ _ hline => hline.inserted l
    | kept before l after =>
      have htrim : trim (LaidLine.kept before l after).chars = trim l :=
        trim_append hitem.1 hitem.2
      have hrest := (ih hitems (n + 1) (m + 1)).imp fun _ _ hline => hline.kept before l after
      have hline : (LaidLine.kept before l after).original? = some l := rfl
      rw [List.filterMap_cons_some hline, List.map_cons, contentFrom_cons, contentFrom_cons m, htrim]
      split
      · exact hrest
      · exact .cons ⟨rfl, 0, rfl, rfl⟩ hrest

end Becomes

/-! ## A text that is laid out anew -/

/-- The error with another number for its line, if it is about a line. -/
def GrammarError.renumber (f : Nat → Nat) : GrammarError → GrammarError
  | wrongSyntax n text => wrongSyntax (f n) text
  | e => e

/-- A line writes the same production whatever its number is. -/
theorem Production.ofLine_renumber (f : Nat → Nat) (n : Nat) (line : List Char) :
    Production.ofLine (f n) line = (Production.ofLine n line).mapError (.renumber f) := by
  match h : Production.ofLine n line with
  | .ok p => exact ofLine_eq_ok_iff.2 (ofLine_eq_ok_iff.1 h)
  | .error e =>
    obtain ⟨rfl, hnot⟩ := ofLine_eq_error_iff.1 h
    exact ofLine_eq_error_iff.2 ⟨rfl, hnot⟩

namespace Grammar

/-- What is wrong with a list of productions is no matter of lines. -/
theorem ofProductions_renumber (f : Nat → Nat) (ps : List Production) :
    (ofProductions ps).mapError (.renumber f) = ofProductions ps := by
  match h : ofProductions ps with
  | .ok g => rfl
  | .error e =>
    obtain ⟨rfl, -⟩ := ofProductions_eq_error_iff.1 h
    rfl

/-- Lines that hold the same under other numbers give the same productions, or the same error under
its other number. -/
theorem mapM_ofLine_renumber (f : Nat → Nat) {content content' : List (List Char × Nat)}
    (h : List.Forall₂ (fun line line' => line'.1 = line.1 ∧ line'.2 = f line.2) content content') :
    content'.mapM (fun line => Production.ofLine line.2 line.1) =
      (content.mapM fun line => Production.ofLine line.2 line.1).mapError (.renumber f) := by
  induction h with
  | nil => rfl
  | @cons line line' content content' hline _ ih =>
    rw [List.mapM_cons, List.mapM_cons, hline.1, hline.2, Production.ofLine_renumber, ih]
    cases Production.ofLine line.2 line.1 with
    | error _ => rfl
    | ok _ =>
      cases content.mapM fun line => Production.ofLine line.2 line.1 with
      | error _ => rfl
      | ok _ => rfl

/-- **The layout of a text does not matter.** Lines are laid out anew: they end in other ways, blanks
are put around them, and blank lines and comments are inserted. The text then holds the same grammar,
or has the same fault; where this is a line that writes no production, its text is the same and its
number grows by the number of lines that are inserted in front of it. -/
theorem ofText_layout {items : List LaidLine} {text text' : String}
    (hitems : ∀ i ∈ items, i.Harmless)
    (htext : Joined (items.filterMap LaidLine.original?) text.toList)
    (htext' : Joined (items.map LaidLine.chars) text'.toList) :
    ofText text' =
      (ofText text).mapError (.renumber fun n => n + insertedBefore items n) := by
  have hcontent : contentLines text = contentFrom 1 (items.filterMap LaidLine.original?) :=
    contentFrom_lines htext 1
  have hcontent' : contentLines text' = contentFrom 1 (items.map LaidLine.chars) :=
    contentFrom_lines htext' 1
  have hsame : List.Forall₂
      (fun line line' => line'.1 = line.1 ∧ line'.2 = line.2 + insertedBefore items line.2)
      (contentLines text) (contentLines text') := by
    rw [hcontent, hcontent']
    refine (forall₂_contentFrom hitems 1 1).imp fun line line' hline => ?_
    obtain ⟨hchars, i, hn, hm⟩ := hline
    refine ⟨hchars, ?_⟩
    rw [hm, hn, Nat.add_comm 1 i]
  rw [ofText_eq, ofText_eq, mapM_ofLine_renumber (fun n => n + insertedBefore items n) hsame]
  cases (contentLines text).mapM fun line => Production.ofLine line.2 line.1 with
  | error _ => rfl
  | ok ps => exact (ofProductions_renumber _ ps).symm

open Sample in
theorem ofText_layout_laidLines :
    (∀ i ∈ laidLines, i.Harmless) ∧
      Joined (laidLines.filterMap LaidLine.original?) "S -> a\nS a -> x\n".toList ∧
      Joined (laidLines.map LaidLine.chars)
        "S -> a\t\r\n  # no rule\n \r\n\u3000S a -> x".toList ∧
      ofText "S -> a\nS a -> x\n" = .error (.wrongSyntax 2 "S a -> x") ∧
      ofText "S -> a\t\r\n  # no rule\n \r\n\u3000S a -> x" =
        .error (.wrongSyntax 4 "S a -> x") := by
  have hitems : ∀ i ∈ laidLines, i.Harmless := by
    have hspaces : ∀ c ∈ [' ', ' '], isBlank c = true :=
      List.forall_mem_cons.2 ⟨rfl, List.forall_mem_singleton.2 rfl⟩
    simp only [laidLines, List.forall_mem_cons]
    exact ⟨⟨nofun, List.forall_mem_singleton.2 rfl⟩, .inr ⟨[' ', ' '], _, rfl, hspaces⟩,
      .inl (List.forall_mem_singleton.2 rfl), ⟨List.forall_mem_singleton.2 rfl, nofun⟩, nofun⟩
  have htext : Joined ["S -> a".toList, "S a -> x".toList]
      ("S -> a".toList ++ '\n' :: ("S a -> x".toList ++ '\n' :: [])) :=
    .lineFeed (by decide) (.lineFeed (by decide) .nil)
  have htext' : Joined ["S -> a\t".toList, "  # no rule".toList, [' '], "\u3000S a -> x".toList]
      ("S -> a\t".toList ++ '\r' :: '\n' :: ("  # no rule".toList ++ '\n' ::
        ([' '] ++ '\r' :: '\n' :: "\u3000S a -> x".toList))) :=
    .carriageReturn (by decide) (.lineFeed (by decide) (.carriageReturn (by decide)
      (.last (by decide))))
  have hfault : ofText "S -> a\nS a -> x\n" = .error (.wrongSyntax 2 "S a -> x") := rfl
  have hmoved : ofText "S -> a\t\r\n  # no rule\n \r\n\u3000S a -> x" =
      (ofText "S -> a\nS a -> x\n").mapError
        (.renumber fun n => n + insertedBefore laidLines n) :=
    ofText_layout hitems htext htext'
  refine ⟨hitems, htext, htext', hfault, ?_⟩
  rw [hmoved, hfault]
  rfl

end Grammar

end TopDown
