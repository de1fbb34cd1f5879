import TopDown.Table
import TopDown.Text.Columns
import TopDown.Text.Json
import TopDown.Text.Latex

/-!
# The parsing table as a report

* `TableReport`: a column for every lookahead word of any row, and a cell for every nonterminal;
* its text in plain, LaTeX and JSON form.
-/

namespace TopDown

/-- The cells of a table, by nonterminal and lookahead word. -/
structure TableReport where
  k : Nat
  columns : OrderedSet Word
  rows : List (Nonterminal × List (Option Production))

/-- The lookahead words of all rows. -/
def Table.words (t : Table) : OrderedSet Word :=
  .ofList (t.rows.entries.flatMap fun e => e.2.keys.toList)

/-- The table with a cell for every nonterminal and every word. -/
def Table.report (t : Table) : TableReport :=
  ⟨t.k, t.words, t.rows.entries.map fun (a, row) => (a, t.words.toList.map row.get?)⟩

namespace TableReport

/-- The text of a cell, which may be empty. -/
def cellText (c : Option Production) : String := c.elim "" Production.text

/-- The heads of the columns. -/
def heads (r : TableReport) : List String := r.columns.toList.map Word.text

/-- One nonterminal a line, in aligned columns. -/
def plain (r : TableReport) : String :=
  alignColumns ((("k = " ++ toString r.k) :: r.heads) ::
    r.rows.map fun (a, cells) => a.text :: cells.map cellText)

/-- One nonterminal a row of an array. -/
def latex (r : TableReport) : String :=
  let bars := String.join (r.heads.map fun _ => "|l")
  let corner := "\\[\\begin\x7barray\x7d\x7bc" ++ bars ++ "\x7d\nk = " ++ toString r.k
  let head := " & ".intercalate
    (corner :: r.heads.map fun w => "\\text\x7b" ++ Latex.text w ++ "\x7d")
  let rows := r.rows.map fun (a, cells) =>
    " & ".intercalate (a.text :: cells.map fun c => Latex.math (cellText c))
  head ++ "\\\\\\hline\n" ++ "\\\\\n".intercalate rows ++ "\n\\end\x7barray\x7d\\]"

/-- The report as a JSON value. -/
def json (r : TableReport) : Json :=
  .object [("k", .number r.k), ("lookaheads", .strings r.heads),
    ("rows", .array (r.rows.map fun (a, cells) =>
      .array [.string a.text, .strings (cells.map cellText)]))]

end TableReport

end TopDown
