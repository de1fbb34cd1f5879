import TopDown.Proofs.PlainTable
import TopDown.Proofs.WordSetText
import TopDown.Report.Productions

/-!
# The reports as LaTeX

A reader of LaTeX takes the character behind a backslash as it is. What is left then has to be well
formed: braces that are balanced, dollars in pairs and, in the rows of an array, one `&` less than the
array has columns. That is so for each line of a report, as it is made of pieces that are well formed
themselves: what the end mark, `λ`, `∅` and the braces of a set are written as, in both modes.

* `Latex.unescaped?`, `Latex.Balanced`: what is read, and how its braces stand;
* `Latex.IsPiece`, `Latex.IsLine`: well-formed texts, by the number of their column separators; they
  are closed under what the reports are built with (`insert`, `append`, `flatMap`, `intercalate`);
* `Latex.isLine_text`, `Latex.isLine_math`: a text in either mode is a line;
* `Latex.IsRows`, `Latex.IsArray`: the lines of an array, of which the first declares the columns;
* `ProductionReport.isArray_latex`, `LookaheadReport.isArray_latex`, `TableReport.isArray_latex`;
* **`Grammar.latex_isArray`**.
-/

namespace TopDown

namespace Latex

/-! ## Reading -/

/-- The characters of a text that are not escaped, each backslash taken with the character behind it.
There is no such reading if a backslash stands at the end. -/
def unescaped? : List Char → Option (List Char)
  | [] => some []
  | ['\\'] => none
  | '\\' :: _ :: s => unescaped? s
  | c :: s => (unescaped? s).map (c :: ·)

/-- Braces that are balanced: in no beginning of the text are more closed than opened. -/
def Balanced (s : List Char) : Prop :=
  s.count '\x7d' = s.count '\x7b' ∧
    ∀ i ≤ s.length, (s.take i).count '\x7d' ≤ (s.take i).count '\x7b'

instance (s : List Char) : Decidable (Balanced s) := inferInstanceAs (Decidable (_ ∧ _))

section Reading

variable {s t r : List Char} {c : Char}

theorem unescaped?_cons (hc : c ≠ '\\') (s : List Char) :
    unescaped? (c :: s) = (unescaped? s).map (c :: ·) := by
  rw [unescaped?]
  · exact fun h _ => hc h
  · exact fun _ _ h _ => hc h

/-- A text that does not end with a backslash is read by itself. -/
theorem unescaped?_append (h : unescaped? s = some r) (t : List Char) :
    unescaped? (s ++ t) = (unescaped? t).map (r ++ ·) := by
  induction s using unescaped?.induct generalizing r with
  | case1 =>
    cases h
    simp
  | case2 => cases h
  | case3 c s ih => exact ih h
  | case4 c s hend hescape ih =>
    have hc : c ≠ '\\' := by
      rintro rfl
      cases s with
      | nil => exact hend rfl rfl
      | cons c' s => exact hescape c' s rfl rfl
    rw [unescaped?_cons hc, Option.map_eq_some_iff] at h
    obtain ⟨r, hr, rfl⟩ := h
    rw [List.cons_append, unescaped?_cons hc, ih hr, Option.map_map]
    rfl

theorem Balanced.take_le (h : Balanced s) (i : Nat) :
    (s.take i).count '\x7d' ≤ (s.take i).count '\x7b' := by
  by_cases hi : i ≤ s.length
  · exact h.2 i hi
  · rw [List.take_of_length_le (by omega)]
    exact h.1.le

/-- Balanced braces may stand anywhere between balanced braces. -/
theorem Balanced.insert (hst : Balanced (s ++ t)) (hr : Balanced r) : Balanced (s ++ r ++ t) := by
  refine ⟨?_, fun i _ => ?_⟩
  · have hcount := hst.1
    simp only [List.count_append, hr.1] at hcount ⊢
    omega
  · by_cases hi : i ≤ s.length
    · have htake := hst.take_le i
      rw [List.take_append_of_le_length hi] at htake
      rwa [List.append_assoc, List.take_append_of_le_length hi]
    · have hr := hr.take_le (i - s.length)
      have hst := hst.take_le (s.length + (i - (s ++ r).length))
      rw [List.take_length_add_append, List.count_append, List.count_append] at hst
      rw [List.take_append, List.take_append, List.take_of_length_le (by omega)]
      simp only [List.count_append]
      omega

end Reading

/-! ## Pieces and lines -/

/-- A piece of LaTeX with `n` column separators: its braces are balanced and its dollars are paired,
and no character is left that has to be written as a command. -/
structure IsPiece (n : Nat) (s : List Char) : Prop where
  reading : ∃ r ∈ unescaped? s, Balanced r ∧ 2 ∣ r.count '$' ∧ r.count '&' = n
  noLambda : 'λ' ∉ s
  noEmptySet : '∅' ∉ s

/-- A piece within a line. -/
structure IsLine (n : Nat) (s : List Char) : Prop extends IsPiece n s where
  noLineFeed : '\n' ∉ s

instance (n : Nat) (s : List Char) : Decidable (IsPiece n s) :=
  decidable_of_iff
    ((∃ r ∈ unescaped? s, Balanced r ∧ 2 ∣ r.count '$' ∧ r.count '&' = n) ∧ 'λ' ∉ s ∧ '∅' ∉ s)
    ⟨fun ⟨hr, hl, he⟩ => ⟨hr, hl, he⟩, fun ⟨hr, hl, he⟩ => ⟨hr, hl, he⟩⟩

instance (n : Nat) (s : List Char) : Decidable (IsLine n s) :=
  decidable_of_iff (IsPiece n s ∧ '\n' ∉ s) ⟨fun ⟨hs, hn⟩ => ⟨hs, hn⟩, fun ⟨hs, hn⟩ => ⟨hs, hn⟩⟩

section Pieces

variable {m n : Nat} {s t r : List Char} {c : Char}

/-- A piece may stand anywhere in a piece, but not behind a backslash. -/
theorem IsPiece.insert (hs : (unescaped? s).isSome) (hst : IsPiece m (s ++ t)) (hr : IsPiece n r) :
    IsPiece (m + n) (s ++ r ++ t) := by
  obtain ⟨s', hs'⟩ := Option.isSome_iff_exists.1 hs
  obtain ⟨⟨q, hq, hbalanced, hdollars, rfl⟩, hlambda, hempty⟩ := hst
  obtain ⟨⟨r', hr', hbalanced', hdollars', rfl⟩, hlambda', hempty'⟩ := hr
  rw [unescaped?_append hs', Option.mem_map] at hq
  obtain ⟨t', ht', rfl⟩ := hq
  have hread : unescaped? (s ++ r ++ t) = some (s' ++ r' ++ t') := by
    rw [List.append_assoc, unescaped?_append hs', unescaped?_append hr', ht', List.append_assoc]
    rfl
  refine ⟨⟨_, hread, hbalanced.insert hbalanced', ?_, ?_⟩, ?_, ?_⟩
  · simp only [List.count_append] at hdollars ⊢
    omega
  · simp only [List.count_append]
    omega
  · simp only [List.mem_append] at hlambda ⊢
    tauto
  · simp only [List.mem_append] at hempty ⊢
    tauto

theorem IsPiece.append (hs : IsPiece m s) (ht : IsPiece n t) : IsPiece (m + n) (s ++ t) := by
  obtain ⟨r, hr, -⟩ := hs.reading
  rw [← List.append_nil s] at hs
  simpa using hs.insert (Option.isSome_of_mem hr) ht

theorem IsPiece.flatMap {α : Type} {l : List α} {f : α → List Char}
    (h : ∀ a ∈ l, IsPiece n (f a)) : IsPiece (n * l.length) (l.flatMap f) := by
  induction l with
  | nil => exact (by decide : IsPiece 0 [])
  | cons a l ih =>
    obtain ⟨ha, hl⟩ := List.forall_mem_cons.1 h
    rw [List.flatMap_cons, List.length_cons, Nat.mul_succ, Nat.add_comm]
    exact ha.append (ih hl)

namespace IsLine

/-- A line may stand anywhere in a line, but not behind a backslash. -/
theorem insert (hs : (unescaped? s).isSome) (hst : IsLine m (s ++ t)) (hr : IsLine n r) :
    IsLine (m + n) (s ++ r ++ t) := by
  refine ⟨hst.toIsPiece.insert hs hr.toIsPiece, ?_⟩
  have hst := hst.noLineFeed
  have hr := hr.noLineFeed
  simp only [List.mem_append] at hst ⊢
  tauto

theorem append (hs : IsLine m s) (ht : IsLine n t) : IsLine (m + n) (s ++ t) :=
  ⟨hs.toIsPiece.append ht.toIsPiece, List.not_mem_append hs.noLineFeed ht.noLineFeed⟩

theorem flatMap {α : Type} {l : List α} {f : α → List Char} (h : ∀ a ∈ l, IsLine n (f a)) :
    IsLine (n * l.length) (l.flatMap f) := by
  refine ⟨IsPiece.flatMap fun a ha => (h a ha).toIsPiece, fun hmem => ?_⟩
  obtain ⟨a, ha, hfeed⟩ := List.mem_flatMap.1 hmem
  exact (h a ha).noLineFeed hfeed

theorem intercalate {separator : List Char} {ls : List (List Char)} (hsep : IsLine m separator)
    (h : ∀ l ∈ ls, IsLine 0 l) : IsLine (m * (ls.length - 1)) (separator.intercalate ls) := by
  rcases List.eq_nil_or_concat ls with rfl | ⟨ls, l, rfl⟩
  · exact (by decide : IsLine 0 [])
  · have hended : ∀ l ∈ ls, IsLine m (l ++ separator) := by
      intro l hl
      have hline := (h l (by simp [hl])).append hsep
      rwa [Nat.zero_add] at hline
    rw [List.concat_eq_append, intercalate_concat, List.length_append, List.length_singleton,
      Nat.add_sub_cancel]
    exact (flatMap hended).append (h l (by simp))

end IsLine

/-- The characters that LaTeX reads in a way of its own, those that it cannot show, and the line
feed. -/
def marks : List Char := ['\\', '$', '\x7b', '\x7d', '&', 'λ', '∅', '\n']

theorem isLine_singleton (hc : c ∉ marks) : IsLine 0 [c] := by
  simp only [marks, List.mem_cons, List.not_mem_nil, or_false, not_or] at hc
  obtain ⟨hescape, hdollar, hopen, hclose, hseparator, hlambda, hempty, hfeed⟩ := hc
  have hread : unescaped? [c] = some [c] := unescaped?_cons hescape []
  have hbalanced : Balanced [c] := by
    have hcount : ∀ t ⊆ [c], t.count '\x7d' = 0 := by
      intro t ht
      exact List.count_eq_zero_of_not_mem fun h => hclose (List.mem_singleton.1 (ht h)).symm
    refine ⟨?_, fun i _ => ?_⟩
    · simp [hopen, hclose]
    · rw [hcount _ (List.take_subset i _)]
      exact Nat.zero_le _
  refine ⟨⟨⟨[c], hread, hbalanced, ?_, ?_⟩, ?_, ?_⟩, ?_⟩
  · simp [hdollar]
  · simp [hseparator]
  · simpa using Ne.symm hlambda
  · simpa using Ne.symm hempty
  · simpa using Ne.symm hfeed

/-- A text without marks. -/
theorem isLine_of_forall (h : ∀ c ∈ s, c ∉ marks) : IsLine 0 s := by
  have hline := IsLine.flatMap fun c hc => isLine_singleton (h c hc)
  rwa [Nat.zero_mul, List.flatMap_singleton'] at hline

end Pieces

/-! ## Texts in both modes -/

/-- The marks that are neither escaped nor written as a command. -/
def kept : List Char := ['\\', '&', '\n']

section Modes

variable {c : Char} {s : String}

theorem isLine_escapeChar (hc : c ∉ kept) (hlambda : c ≠ 'λ') (hempty : c ≠ '∅') :
    IsLine 0 (escapeChar c) := by
  unfold escapeChar
  split
  · rename_i h
    rcases h with rfl | rfl | rfl <;> decide
  · rename_i h
    refine isLine_singleton ?_
    simp only [kept, marks, List.mem_cons, List.not_mem_nil, or_false, not_or] at hc h ⊢
    exact ⟨hc.1, h.1, h.2.1, h.2.2, hc.2.1, hlambda, hempty, hc.2.2⟩

/-- A character that is escaped, or written as a command if it is `λ` or `∅`. -/
theorem isLine_command {lambda empty : List Char} (hlambda : IsLine 0 lambda)
    (hempty : IsLine 0 empty) (hc : c ∉ kept) :
    IsLine 0 (if c = 'λ' then lambda else if c = '∅' then empty else escapeChar c) := by
  split
  · exact hlambda
  · rename_i hnotLambda
    split
    · exact hempty
    · rename_i hnotEmpty
      exact isLine_escapeChar hc hnotLambda hnotEmpty

theorem isLine_textChar (hc : c ∉ kept) : IsLine 0 (textChar c) :=
  isLine_command (by decide) (by decide) hc

theorem isLine_mathChar (hc : c ∉ kept) : IsLine 0 (mathChar c) :=
  isLine_command (by decide) (by decide) hc

theorem isLine_mathChars {s : List Char} (hs : ∀ c ∈ s, c ∉ kept) : IsLine 0 (mathChars s) := by
  induction s using mathChars.induct with
  | case1 s ih =>
    have harrow : IsLine 0 " \\rightarrow ".toList := by decide
    have hrest : IsLine 0 (mathChars s) := ih fun c hc => hs c (by simp [hc])
    rw [mathChars_arrow]
    exact harrow.append hrest
  | case2 c s hnot ih =>
    obtain ⟨hc, hs⟩ := List.forall_mem_cons.1 hs
    rw [mathChars_cons hnot]
    exact (isLine_mathChar hc).append (ih hs)
  | case3 => decide

theorem isLine_text (hs : ∀ c ∈ kept, c ∉ s.toList) : IsLine 0 (text s).toList := by
  have hline : IsLine (0 * s.toList.length) (s.toList.flatMap textChar) :=
    IsLine.flatMap fun c hc => isLine_textChar fun hkept => hs c hkept hc
  rw [Nat.zero_mul] at hline
  rwa [text, String.toList_ofList]

theorem isLine_math (hs : ∀ c ∈ kept, c ∉ s.toList) : IsLine 0 (math s).toList := by
  rw [math, String.toList_ofList]
  exact isLine_mathChars fun c hc hkept => hs c hkept hc

end Modes

/-! ## Arrays -/

/-- The number of columns that are declared by letters with bars between them. -/
def columnCount (spec : List Char) : Nat := spec.countP (· ≠ '|')

theorem columnCount_bars {α : Type} (l : List α) :
    columnCount ('c' :: l.flatMap fun _ => ['|', 'l']) = l.length + 1 := by
  induction l with
  | nil => rfl
  | cons a l ih =>
    simp only [columnCount, List.flatMap_cons, List.countP_cons, List.countP_append] at ih ⊢
    simp at ih ⊢
    omega

/-- The text of an array with `n + 1` columns and `m` rows. Its first line begins the environment and
declares the columns, each row is a line with `n` separators, and the last line ends the environment.
As a row is a piece, what is read of it does not depend on what stands around it. -/
structure IsArray (environment : String) (n m : Nat) (s : List Char) : Prop where
  isPiece : IsPiece (n * m) s
  lines : ∃ (spec behind closing : List Char) (rows : List (List Char)),
    s.splitOn '\n' = (environment.toList ++ '\x7b' :: spec ++ '\x7d' :: behind) :: rows ++ [closing] ∧
    spec ⊆ ['c', 'l', '|'] ∧ columnCount spec = n + 1 ∧
    rows.length = m ∧ ∀ row ∈ rows, IsPiece n row

/-- A text of `m` lines, each with its line feed and with `n` column separators. -/
def IsRows (n m : Nat) (s : List Char) : Prop :=
  ∃ lines : List (List Char), lines.length = m ∧ (∀ l ∈ lines, IsLine n l) ∧
    s = lines.flatMap (· ++ ['\n'])

section Rows

variable {m n : Nat} {s t : List Char} {rows : List (List Char)}

theorem IsLine.isRows (hs : IsLine n s) : IsRows n 1 (s ++ ['\n']) := by
  refine ⟨[s], rfl, ?_, by simp⟩
  intro l hl
  rwa [List.mem_singleton.1 hl]

theorem IsRows.append {m' : Nat} (hs : IsRows n m s) (ht : IsRows n m' t) :
    IsRows n (m + m') (s ++ t) := by
  obtain ⟨ls, rfl, hls, rfl⟩ := hs
  obtain ⟨ls', rfl, hls', rfl⟩ := ht
  refine ⟨ls ++ ls', List.length_append, ?_, List.flatMap_append.symm⟩
  intro l hl
  rcases List.mem_append.1 hl with hl | hl
  · exact hls l hl
  · exact hls' l hl

/-- Rows with an end each. -/
theorem isRows_flatMap (h : ∀ row ∈ rows, IsLine n row) :
    IsRows n rows.length (rows.flatMap (· ++ "\\\\\n".toList)) := by
  have hend : "\\\\\n".toList = "\\\\".toList ++ ['\n'] := by decide
  have hline : IsLine 0 "\\\\".toList := by decide
  refine ⟨rows.map (· ++ "\\\\".toList), List.length_map _, ?_, ?_⟩
  · intro l hl
    obtain ⟨row, hrow, rfl⟩ := List.mem_map.1 hl
    exact (h row hrow).append hline
  · simp only [List.flatMap_map, List.append_assoc, hend]

/-- Rows with ends between them. -/
theorem isRows_intercalate (hne : rows ≠ []) (h : ∀ row ∈ rows, IsLine n row) :
    IsRows n rows.length ("\\\\\n".toList.intercalate rows ++ ['\n']) := by
  rcases List.eq_nil_or_concat rows with rfl | ⟨init, last, rfl⟩
  · exact absurd rfl hne
  · rw [List.concat_eq_append] at h ⊢
    have hinit := isRows_flatMap fun row hrow => h row (List.mem_append_left _ hrow)
    have hlast : IsLine n last := h last (by simp)
    rw [intercalate_concat, List.append_assoc, List.length_append]
    exact hinit.append hlast.isRows

/-- The first line, the rows and the last line are the text of an array. -/
theorem IsRows.isArray (hs : IsRows n m s) (environment : String) (spec behind closing : List Char)
    (htext : t = (environment.toList ++ '\x7b' :: spec ++ '\x7d' :: behind) ++ '\n' :: s ++ closing)
    (henvironment : IsLine 0 environment.toList) (hspec : spec ⊆ ['c', 'l', '|'])
    (hcolumns : columnCount spec = n + 1) (hbehind : IsLine 0 behind) (hclosing : IsLine 0 closing) :
    IsArray environment n m t := by
  have hopening : IsLine 0 (environment.toList ++ '\x7b' :: spec ++ '\x7d' :: behind) := by
    have hmarks : ∀ c ∈ ['c', 'l', '|'], c ∉ marks := by simp [marks]
    have hplain : IsLine 0 spec := isLine_of_forall fun c hc => hmarks c (hspec hc)
    have hbraces : IsLine 0 (['\x7b'] ++ spec ++ ['\x7d']) :=
      IsLine.insert (by decide) (by decide : IsLine 0 ['\x7b', '\x7d']) hplain
    have hline := (henvironment.append hbraces).append hbehind
    simpa using hline
  obtain ⟨rows, rfl, hrows, rfl⟩ := hs
  have hpiece : IsPiece (n * rows.length) t := by
    have hfeed : IsPiece 0 ['\n'] := by decide
    have hlines : IsPiece (n * rows.length) (rows.flatMap (· ++ ['\n'])) :=
      IsPiece.flatMap fun l hl => (hrows l hl).toIsPiece.append hfeed
    have happend := ((hopening.toIsPiece.append hfeed).append hlines).append hclosing.toIsPiece
    rw [htext]
    simpa using happend
  have hsplit : t.splitOn '\n' =
      (environment.toList ++ '\x7b' :: spec ++ '\x7d' :: behind) :: rows ++ [closing] := by
    have hjoined := splitOn_flatMap_append
      (List.forall_mem_cons.2 ⟨hopening.noLineFeed, fun l hl => (hrows l hl).noLineFeed⟩)
      hclosing.noLineFeed
    rw [← hjoined, htext]
    simp
  exact ⟨hpiece, spec, behind, closing, rows, hsplit, hspec, hcolumns, rfl,
    fun l hl => (hrows l hl).toIsPiece⟩

/-- Cells with separators between them are a row. -/
theorem isLine_cells {cell : List Char} {cells : List (List Char)}
    (h : ∀ l ∈ cell :: cells, IsLine 0 l) :
    IsLine cells.length (" & ".toList.intercalate (cell :: cells)) := by
  have hseparator : IsLine 1 " & ".toList := by decide
  have hline := hseparator.intercalate h
  rwa [Nat.one_mul, List.length_cons, Nat.add_sub_cancel] at hline

end Rows

end Latex

/-! ## The pieces of the reports -/

section Pieces

open Latex

theorem Nonterminal.isLine_latex (a : Nonterminal) : IsLine 0 a.text.toList := by
  rw [toList_text]
  refine isLine_singleton fun h => ?_
  have hupper : ∀ c ∈ marks, c.isUpper = false := by simp [marks]
  have hfalse := hupper _ h
  rw [a.isUpper] at hfalse
  cases hfalse

theorem isLine_toString (n : Nat) : IsLine 0 (toString n).toList := by
  have hdigit : ∀ c ∈ marks, c.isDigit = false := by simp [marks]
  rw [toList_toString]
  refine isLine_of_forall fun c hc h => ?_
  have hfalse := hdigit c h
  rw [Nat.isDigit_of_mem_toDigits (by decide) (by decide) hc] at hfalse
  cases hfalse

/-- No symbol is written as a mark that is kept. -/
theorem Symbol.ofChar?_of_mem_kept : ∀ c ∈ kept, Symbol.ofChar? c = none := by
  simp only [kept, List.forall_mem_cons]
  exact ⟨rfl, rfl, rfl, nofun⟩

theorem Form.isLine_latex (w : Form) : IsLine 0 (Latex.math (Form.text w)).toList := by
  refine isLine_math fun c hc => ?_
  have hlambda : ∀ c ∈ kept, c ≠ 'λ' := by simp [kept]
  exact Form.not_mem_text (Symbol.ofChar?_of_mem_kept c hc) (hlambda c hc) w

theorem Word.isLine_latex (u : Word) : IsLine 0 (Latex.text (Word.text u)).toList := by
  refine isLine_text fun c hc => ?_
  have hlambda : ∀ c ∈ kept, c ≠ 'λ' := by simp [kept]
  exact Word.not_mem_text (Symbol.ofChar?_of_mem_kept c hc) (hlambda c hc) u

theorem WordSet.isLine_latex (s : WordSet) : IsLine 0 (Latex.text s.text).toList := by
  refine isLine_text fun c hc => ?_
  have hmarks : ∀ c ∈ kept, c ∉ ['∅', 'λ', '\x7b', ',', ' ', '\x7d'] := by simp [kept]
  exact WordSet.not_mem_text (Symbol.ofChar?_of_mem_kept c hc) (hmarks c hc) s

theorem TableReport.isLine_cellText (c : Option Production) :
    IsLine 0 (Latex.math (cellText c)).toList := by
  cases c with
  | none => decide
  | some p =>
    refine isLine_math fun c hc => ?_
    have hmarks : ∀ c ∈ kept, c ∉ [' ', '-', '>', 'λ'] := by simp [kept]
    exact Production.not_mem_text (Symbol.ofChar?_of_mem_kept c hc) (hmarks c hc) p

end Pieces

/-! ## The reports -/

open Latex

namespace ProductionReport

theorem isLine_row (a : Nonterminal) (ws : List Form) :
    IsLine 2 (a.text ++ " & \\rightarrow & " ++
      " \\mid ".intercalate (ws.map fun w => Latex.math (Form.text w))).toList := by
  have harrow : IsLine 2 " & \\rightarrow & ".toList := by decide
  have hbar : IsLine 0 " \\mid ".toList := by decide
  have hrights : ∀ l ∈ (ws.map fun w => Latex.math (Form.text w)).map String.toList,
      IsLine 0 l := by
    simp only [List.forall_mem_map]
    exact fun w _ => w.isLine_latex
  have hline := (a.isLine_latex.append harrow).append (hbar.intercalate hrights)
  rw [Nat.zero_mul] at hline
  rwa [String.toList_append, String.toList_append, String.toList_intercalate]

/-- The report on productions has three columns, and a row for every nonterminal with productions. -/
theorem isArray_latex (r : ProductionReport) :
    IsArray "\\[\\begin\x7barray\x7d" 2 r.groups.length r.latex.toList := by
  let row (group : Nonterminal × List Form) : String := group.1.text ++ " & \\rightarrow & " ++
    " \\mid ".intercalate (group.2.map fun w => Latex.math (Form.text w))
  have htext : r.latex = "\\\\\n".intercalate ("\\[\\begin\x7barray\x7d\x7bcll\x7d" ::
      r.groups.map row ++ ["\\end\x7barray\x7d\\]"]) := rfl
  have hrows : ∀ l ∈ (r.groups.map row).map String.toList, IsLine 2 l := by
    simp only [List.forall_mem_map]
    exact fun group _ => isLine_row group.1 group.2
  have hlines := isRows_flatMap hrows
  rw [List.length_map, List.length_map] at hlines
  refine hlines.isArray "\\[\\begin\x7barray\x7d" ['c', 'l', 'l'] "\\\\".toList
    "\\end\x7barray\x7d\\]".toList ?_ (by decide) (by simp) (by decide) (by decide) (by decide)
  rw [htext, String.toList_intercalate, List.map_append, List.map_cons, List.map_cons, List.map_nil,
    intercalate_concat, List.flatMap_cons]
  simp

end ProductionReport

namespace LookaheadReport

theorem isLine_index (k : Nat) :
    IsLine 0 ("$_\x7b" ++ toString k ++ "\x7d$").toList := by
  have hends : IsLine 0 ("$_\x7b".toList ++ "\x7d$".toList) := by decide
  rw [String.toList_append, String.toList_append]
  exact hends.insert (by decide) (isLine_toString k)

theorem isLine_row (l : LookaheadLine) :
    IsLine 2 (l.name.text ++ " & " ++ Latex.text l.first.text ++ " & " ++
      Latex.text l.follow.text).toList := by
  have hcells : ∀ s ∈ [l.name.text.toList, (Latex.text l.first.text).toList,
      (Latex.text l.follow.text).toList], IsLine 0 s := by
    simp only [List.forall_mem_cons]
    exact ⟨l.name.isLine_latex, l.first.isLine_latex, l.follow.isLine_latex, nofun⟩
  simpa [List.intercalate_cons_cons] using isLine_cells hcells

theorem isLine_head (k : Nat) :
    IsLine 2 ("Symbol & First" ++ ("$_\x7b" ++ toString k ++ "\x7d$") ++ " & Follow" ++
      ("$_\x7b" ++ toString k ++ "\x7d$") ++ "\\\\\\hline").toList := by
  have hfirst : IsLine 1 "Symbol & First".toList := by decide
  have hfollow : IsLine 1 " & Follow".toList := by decide
  have hend : IsLine 0 "\\\\\\hline".toList := by decide
  have hnames := ((hfirst.append (isLine_index k)).append hfollow).append (isLine_index k)
  simpa only [String.toList_append] using hnames.append hend

/-- The report on lookaheads has three columns, and below their heads a row for every nonterminal. -/
theorem isArray_latex {r : LookaheadReport} (hne : r.lines ≠ []) :
    IsArray "\\begin\x7btabular\x7d" 2 (r.lines.length + 1) r.latex.toList := by
  let row (l : LookaheadLine) : String :=
    l.name.text ++ " & " ++ Latex.text l.first.text ++ " & " ++ Latex.text l.follow.text
  have hrows : ∀ l ∈ (r.lines.map row).map String.toList, IsLine 2 l := by
    simp only [List.forall_mem_map]
    exact fun line _ => isLine_row line
  have hmap : (r.lines.map row).map String.toList ≠ [] := by simpa using hne
  have hlines := (isLine_head r.k).isRows.append (isRows_flatMap hrows)
  rw [List.length_map, List.length_map, Nat.add_comm] at hlines
  refine hlines.isArray "\\begin\x7btabular\x7d" ['c', '|', 'c', '|', 'c'] []
    "\\end\x7btabular\x7d".toList ?_ (by decide) (by simp) (by decide) (by decide) (by decide)
  rw [← intercalate_append_separator _ hmap]
  unfold latex
  simp [row, String.toList_intercalate]

end LookaheadReport

namespace TableReport

variable {r : TableReport}

theorem isLine_row (a : Nonterminal) (cells : List (Option Production)) :
    IsLine cells.length
      (" & ".intercalate (a.text :: cells.map fun c => Latex.math (cellText c))).toList := by
  have hcells : ∀ l ∈ a.text.toList :: cells.map fun c => (Latex.math (cellText c)).toList,
      IsLine 0 l := by
    simp only [List.forall_mem_cons, List.forall_mem_map]
    exact ⟨a.isLine_latex, fun c _ => isLine_cellText c⟩
  have hline := isLine_cells hcells
  rw [List.length_map] at hline
  rw [String.toList_intercalate, List.map_cons, List.map_map]
  exact hline

theorem isLine_head (r : TableReport) :
    IsLine r.columns.size (" & ".intercalate (("k = " ++ toString r.k) ::
      r.heads.map fun w => "\\text\x7b" ++ Latex.text w ++ "\x7d") ++ "\\\\\\hline").toList := by
  have hk : IsLine 0 "k = ".toList := by decide
  have hbraces : IsLine 0 ("\\text\x7b".toList ++ "\x7d".toList) := by decide
  have hend : IsLine 0 "\\\\\\hline".toList := by decide
  have hcells : ∀ l ∈ (("k = " ++ toString r.k) ::
      r.heads.map fun w => "\\text\x7b" ++ Latex.text w ++ "\x7d").map String.toList,
      IsLine 0 l := by
    simp only [heads, List.map_cons, List.forall_mem_cons, List.forall_mem_map, String.toList_append]
    exact ⟨hk.append (isLine_toString r.k), fun u _ => hbraces.insert (by decide) u.isLine_latex⟩
  have hline := (isLine_cells hcells).append hend
  rw [List.length_map, List.length_map, heads, List.length_map] at hline
  rwa [String.toList_append, String.toList_intercalate]

/-- The report on a table has a column for the names and one for every word, and below their heads a
row for every nonterminal. -/
theorem isArray_latex (hfull : r.IsFull) (hne : r.rows ≠ []) :
    IsArray "\\[\\begin\x7barray\x7d" r.columns.size (r.rows.length + 1) r.latex.toList := by
  let row (e : Nonterminal × List (Option Production)) : String :=
    " & ".intercalate (e.1.text :: e.2.map fun c => Latex.math (cellText c))
  have hrows : ∀ l ∈ (r.rows.map row).map String.toList, IsLine r.columns.size l := by
    simp only [List.forall_mem_map]
    intro e he
    rw [← hfull e he]
    exact isLine_row e.1 e.2
  have hmap : (r.rows.map row).map String.toList ≠ [] := by simpa using hne
  have hspec : 'c' :: r.heads.flatMap (fun _ => ['|', 'l']) ⊆ ['c', 'l', '|'] := by
    have hbar : ['|', 'l'] ⊆ ['c', 'l', '|'] := by simp
    refine List.cons_subset.2 ⟨List.mem_cons_self, fun c hc => ?_⟩
    obtain ⟨_, -, hc⟩ := List.mem_flatMap.1 hc
    exact hbar hc
  have hcount : columnCount ('c' :: r.heads.flatMap fun _ => ['|', 'l']) = r.columns.size + 1 := by
    rw [columnCount_bars, heads, List.length_map]
    rfl
  have hlines := (isLine_head r).isRows.append (isRows_intercalate hmap hrows)
  rw [List.length_map, List.length_map, Nat.add_comm] at hlines
  refine hlines.isArray "\\[\\begin\x7barray\x7d" _ [] "\\end\x7barray\x7d\\]".toList ?_ (by decide)
    hspec hcount (by decide) (by decide)
  unfold latex
  simp [row, String.toList_intercalate, List.flatMap_map, -List.map_const']

end TableReport

namespace Grammar

/-- **The reports are well-formed LaTeX.** The braces of each of them are balanced, its dollars are
paired, and no `λ` or `∅` is left, where the character behind a backslash is not read. Each is an
array: that on productions with two separators in every row, one row for every nonterminal with
productions; that on lookaheads with two as well; and that on the table with as many in the heads and
in the row of every nonterminal as there are lookahead words, one less than the columns declared. -/
theorem latex_isArray (g : Grammar) (k : Nat) :
    IsArray "\\[\\begin\x7barray\x7d" 2 g.productionReport.groups.length
      g.productionReport.latex.toList ∧
    IsArray "\\begin\x7btabular\x7d" 2 (g.nonterminals.size + 1)
      (g.lookaheadReport k).latex.toList ∧
    IsArray "\\[\\begin\x7barray\x7d" (g.tabulate k).value.words.size (g.nonterminals.size + 1)
      (g.tabulate k).value.report.latex.toList := by
  have hstart : g.nonterminals.toList ≠ [] := List.ne_nil_of_mem g.start_mem
  have hlines : (g.lookaheadReport k).lines.length = g.nonterminals.size := List.length_map _
  have hrows : (g.tabulate k).value.report.rows.length = g.nonterminals.size := by
    rw [rows_report_tabulate, List.length_map]
    rfl
  refine ⟨g.productionReport.isArray_latex, ?_, ?_⟩
  · rw [← hlines]
    exact LookaheadReport.isArray_latex (mt List.map_eq_nil_iff.1 hstart)
  · rw [← hrows]
    refine TableReport.isArray_latex (g.tabulate k).value.isFull_report ?_
    rw [rows_report_tabulate]
    exact mt List.map_eq_nil_iff.1 hstart

open Sample in
example : (nested.lookaheadReport 1).latex =
    "\\begin\x7btabular\x7d\x7bc|c|c\x7d\n" ++
      "Symbol & First$_\x7b1\x7d$ & Follow$_\x7b1\x7d$\\\\\\hline\n" ++
      "S & \\\x7ba, c\\\x7d & \\\x7b\\$, b\\\x7d\\\\\n\\end\x7btabular\x7d" := by decide +kernel

end Grammar

end TopDown
