import TopDown.Grammar.Basic
import TopDown.Text.Json
import TopDown.Text.Latex

/-!
# The productions of a grammar as a report

* `ProductionReport`: the right sides of every nonterminal that has any;
* its text in plain, LaTeX and JSON form.
-/

namespace TopDown

/-- The right sides of the nonterminals that have some. -/
structure ProductionReport where
  groups : List (Nonterminal × List Form)

/-- The productions by nonterminal. -/
def Grammar.productionReport (g : Grammar) : ProductionReport :=
  let groups := g.nonterminals.toList.map fun a => (a, (g.productionsOf a).map Production.right)
  ⟨groups.filter fun group => !group.2.isEmpty⟩

namespace ProductionReport

/-- The alternatives of a nonterminal, one a line. -/
def plainGroup (a : Nonterminal) : List Form → List String
  | [] => []
  | w :: ws => (a.text ++ " -> " ++ Form.text w) :: ws.map fun w => "   | " ++ Form.text w

/-- One alternative a line. -/
def plain (r : ProductionReport) : String :=
  "\n".intercalate (r.groups.flatMap fun (a, ws) => plainGroup a ws)

/-- One nonterminal a row of an array. -/
def latex (r : ProductionReport) : String :=
  let row (a : Nonterminal) (ws : List Form) : String :=
    a.text ++ " & \\rightarrow & " ++
      " \\mid ".intercalate (ws.map fun w => Latex.math (Form.text w))
  "\\\\\n".intercalate (["\\[\\begin\x7barray\x7d\x7bcll\x7d"] ++
    (r.groups.map fun (a, ws) => row a ws) ++ ["\\end\x7barray\x7d\\]"])

/-- The report as a JSON value. -/
def json (r : ProductionReport) : Json :=
  .object [("productions", .array (r.groups.map fun (a, ws) =>
    .object [("left", .string a.text), ("rights", .strings (ws.map Form.text))]))]

end ProductionReport

end TopDown
