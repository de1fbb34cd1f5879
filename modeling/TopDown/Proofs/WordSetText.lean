import TopDown.Proofs.ShownText
import TopDown.Report.Lookahead

/-!
# Sets of words as texts

A set of words is read back from its text, the empty set and the set of the empty word among them,
since `∅` and `λ` are no letters and no letter is a comma or a brace. As none is a bar either, a line
of the report on a nonterminal gives back the words that begin it and those that follow it.

* `WordSet.ofText?` and **`WordSet.ofText?_text`**; `WordSet.not_mem_text`, `WordSet.trim_text`: what
  a text of a set looks like to a reader of lines;
* `LookaheadLine.ofText?`, `LookaheadReport.lines_plain`;
* **`WordSet.text_recoverable`**.
-/

namespace TopDown

namespace WordSet

/-- The set of words of a text. -/
def ofText? : List Char → Option WordSet
  | ['∅'] => some ∅
  | '\x7b' :: s =>
    if s.getLast? = some '\x7d' then ((items ',' s.dropLast).mapM Word.ofText?).map .ofList else none
  | _ => none

variable {s : WordSet}

/-- The texts of the words, joined by commas. -/
def joined (s : WordSet) : List Char :=
  [',', ' '].intercalate (s.toList.map fun w => (Word.text w).toList)

theorem toList_text_empty : (text ∅).toList = ['∅'] := rfl

theorem toList_text_of_ne (hs : s ≠ ∅) : s.text.toList = '\x7b' :: s.joined ++ ['\x7d'] := by
  have hempty : ¬ s.isEmpty = true := mt OrderedSet.isEmpty_iff.1 hs
  rw [text, if_neg hempty, String.toList_append, String.toList_append, String.toList_intercalate,
    List.map_map]
  rfl

/-- The words are the items between the braces. -/
theorem items_joined (hs : s ≠ ∅) :
    items ',' s.joined = s.toList.map fun w => (Word.text w).toList := by
  have hne : (s.toList.map fun w => (Word.text w).toList) ≠ [] := by
    intro hnil
    exact hs (OrderedSet.eq_of_toList (List.map_eq_nil_iff.1 hnil))
  have htexts : ∀ l ∈ s.toList.map (fun w => (Word.text w).toList), ',' ∉ l ∧ trim l = l := by
    intro l hl
    obtain ⟨w, -, rfl⟩ := List.mem_map.1 hl
    exact ⟨Word.not_mem_text (by decide) (by decide) w, trim_of_forall w.isBlank_text⟩
  have hitems := items_intercalate [] [' '] (by decide) nofun isBlank_of_mem_space hne
    fun l hl => (htexts l hl).1
  exact hitems.trans (map_trim_eq_self fun l hl => (htexts l hl).2)

/-- **A set of words is read back from its text.** -/
@[simp] theorem ofText?_text (s : WordSet) : ofText? s.text.toList = some s := by
  by_cases hs : s = ∅
  · rw [hs]
    rfl
  · have hwords : (s.toList.map fun w => (Word.text w).toList).mapM Word.ofText? =
        some s.toList := mapM_map_eq_some fun w _ => Word.ofText?_text w
    rw [toList_text_of_ne hs, List.cons_append, ofText?, if_pos List.getLast?_concat,
      List.dropLast_concat, items_joined hs, hwords, Option.map_some, OrderedSet.ofList_toList]

theorem text_injective : Function.Injective text := by
  intro s t h
  have hread : ofText? s.text.toList = ofText? t.text.toList := by rw [h]
  rw [ofText?_text, ofText?_text] at hread
  exact Option.some.inj hread

/-- A character that neither a terminal nor the marks of a set are written with. -/
theorem not_mem_text {c : Char} (hc : Symbol.ofChar? c = none)
    (hmarks : c ∉ ['∅', 'λ', '\x7b', ',', ' ', '\x7d']) (s : WordSet) : c ∉ s.text.toList := by
  simp only [List.mem_cons, List.not_mem_nil, or_false, not_or] at hmarks
  obtain ⟨hempty, hlambda, hopen, hcomma, hblank, hclose⟩ := hmarks
  by_cases hs : s = ∅
  · rw [hs, toList_text_empty, List.mem_singleton]
    exact hempty
  · have hjoined : c ∉ s.joined := by
      intro h
      rcases mem_of_mem_intercalate h with h | ⟨l, hl, h⟩
      · simp [hcomma, hblank] at h
      · obtain ⟨w, -, rfl⟩ := List.mem_map.1 hl
        exact Word.not_mem_text hc hlambda w h
    rw [toList_text_of_ne hs]
    simp [hopen, hjoined, hclose]

theorem trim_text (s : WordSet) : trim s.text.toList = s.text.toList := by
  by_cases hs : s = ∅
  · rw [hs]
    decide
  · rw [toList_text_of_ne hs]
    refine trim_eq_self ?_ ?_
    · rintro c ⟨⟩
      decide
    · rw [List.getLast?_concat]
      rintro c ⟨⟩
      decide

end WordSet

/-! ## The report -/

namespace LookaheadLine

/-- The words at a nonterminal, of a line of the report. -/
def ofText? (s : List Char) : Option LookaheadLine :=
  match items '|' s with
  | [name, first, follow] => do
    return ⟨← Nonterminal.ofText? name, ← WordSet.ofText? first, ← WordSet.ofText? follow⟩
  | _ => none

/-- The texts of a line. -/
def texts (l : LookaheadLine) : List (List Char) :=
  [l.name.text.toList, l.first.text.toList, l.follow.text.toList]

/-- The line of a report. -/
def chars (l : LookaheadLine) : List Char := [' ', '|', ' '].intercalate l.texts

/-- A character that neither the name nor the sets are written with. -/
theorem not_mem_of_mem_texts {c : Char} (hc : Symbol.ofChar? c = none)
    (hmarks : c ∉ ['∅', 'λ', '\x7b', ',', ' ', '\x7d']) {l : LookaheadLine} {t : List Char}
    (ht : t ∈ l.texts) : c ∉ t := by
  simp only [texts, List.mem_cons, List.not_mem_nil, or_false] at ht
  rcases ht with rfl | rfl | rfl
  · exact Nonterminal.not_mem_text hc l.name
  · exact WordSet.not_mem_text hc hmarks l.first
  · exact WordSet.not_mem_text hc hmarks l.follow

theorem trim_of_mem_texts {l : LookaheadLine} {t : List Char} (ht : t ∈ l.texts) : trim t = t := by
  simp only [texts, List.mem_cons, List.not_mem_nil, or_false] at ht
  rcases ht with rfl | rfl | rfl
  · exact trim_of_forall l.name.isBlank_text
  · exact WordSet.trim_text l.first
  · exact WordSet.trim_text l.follow

/-- A line is read back. -/
theorem ofText?_chars (l : LookaheadLine) : ofText? l.chars = some l := by
  have hitems : items '|' l.chars = l.texts.map trim :=
    items_intercalate [' '] [' '] (by decide) isBlank_of_mem_space isBlank_of_mem_space nofun
      fun t ht => not_mem_of_mem_texts (by decide) (by decide) ht
  rw [map_trim_eq_self fun t ht => trim_of_mem_texts ht] at hitems
  simp [ofText?, hitems, texts]

theorem lineFeed_not_mem_chars (l : LookaheadLine) : '\n' ∉ l.chars := by
  intro h
  rcases mem_of_mem_intercalate h with h | ⟨t, ht, h⟩
  · exact absurd h (by decide)
  · exact not_mem_of_mem_texts (by decide) (by decide) ht h

end LookaheadLine

namespace LookaheadReport

theorem toList_plain (r : LookaheadReport) :
    r.plain.toList = ['\n'].intercalate (r.lines.map LookaheadLine.chars) := by
  rw [plain, String.toList_intercalate, List.map_map]
  refine congrArg _ (List.map_congr_left fun l _ => ?_)
  simp [LookaheadLine.chars, LookaheadLine.texts, List.intercalate_cons_cons]

/-- The lines of a report are those of the nonterminals, if there are any. -/
theorem splitOn_plain {r : LookaheadReport} (h : r.lines ≠ []) :
    r.plain.toList.splitOn '\n' = r.lines.map LookaheadLine.chars := by
  rw [toList_plain]
  refine List.splitOn_intercalate _ (fun t ht => ?_) (mt List.map_eq_nil_iff.1 h)
  obtain ⟨l, -, rfl⟩ := List.mem_map.1 ht
  exact l.lineFeed_not_mem_chars

end LookaheadReport

namespace WordSet

/-- **What is shown of sets of words can be recovered.** A set is read back from its text, so that no
two sets have the same one; and the report on a grammar has one line for each nonterminal, in order,
which is read back as its name, the words of `k` terminals that begin it and those that follow it. -/
theorem text_recoverable :
    (∀ s : WordSet, ofText? s.text.toList = some s) ∧ Function.Injective text ∧
    ∀ (g : Grammar) (k : Nat),
      ((g.lookaheadReport k).plain.toList.splitOn '\n').map LookaheadLine.ofText? =
        g.nonterminals.toList.map fun a => some ⟨a, g.first k [.nonterminal a], g.follow k a⟩ := by
  refine ⟨ofText?_text, text_injective, fun g k => ?_⟩
  have hlines : (g.lookaheadReport k).lines ≠ [] := by
    intro hnil
    have hstart : g.start ∈ g.nonterminals.toList := g.start_mem
    rw [List.map_eq_nil_iff.1 hnil] at hstart
    cases hstart
  rw [LookaheadReport.splitOn_plain hlines, List.map_map, Grammar.lookaheadReport, List.map_map]
  exact List.map_congr_left fun a _ => LookaheadLine.ofText?_chars _

end WordSet

end TopDown
