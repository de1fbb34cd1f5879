import TopDown.Lookahead.Follow
import TopDown.Text.Json
import TopDown.Text.Latex

/-!
# The words that begin and follow the nonterminals as a report

* `LookaheadReport`: for every nonterminal the words that begin it and those that follow it;
* its text in plain, LaTeX and JSON form.
-/

namespace TopDown

/-- The words at a nonterminal. -/
structure LookaheadLine where
  name : Nonterminal
  first : WordSet
  follow : WordSet

/-- The words at every nonterminal. -/
structure LookaheadReport where
  k : Nat
  lines : List LookaheadLine

/-- The words of `k` terminals at every nonterminal. -/
def Grammar.lookaheadReport (g : Grammar) (k : Nat) : LookaheadReport :=
  ⟨k, g.nonterminals.toList.map fun a => ⟨a, g.first k [.nonterminal a], g.follow k a⟩⟩

namespace LookaheadReport

/-- One nonterminal a line. -/
def plain (r : LookaheadReport) : String :=
  "\n".intercalate (r.lines.map fun l =>
    l.name.text ++ " | " ++ l.first.text ++ " | " ++ l.follow.text)

/-- One nonterminal a row of a table. -/
def latex (r : LookaheadReport) : String :=
  let index := "$_\x7b" ++ toString r.k ++ "\x7d$"
  let rows := r.lines.map fun l =>
    l.name.text ++ " & " ++ Latex.text l.first.text ++ " & " ++ Latex.text l.follow.text
  "\\begin\x7btabular\x7d\x7bc|c|c\x7d\n" ++
    "Symbol & First" ++ index ++ " & Follow" ++ index ++ "\\\\\\hline\n" ++
    "\\\\\n".intercalate rows ++ "\\\\\n\\end\x7btabular\x7d"

/-- The report as a JSON value. -/
def json (r : LookaheadReport) : Json :=
  .object [("k", .number r.k), ("data", .array (r.lines.map fun l =>
    .object [("name", .string l.name.text), ("first", .string l.first.text),
      ("follow", .string l.follow.text)]))]

end LookaheadReport

end TopDown
