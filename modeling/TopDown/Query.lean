import TopDown.Grammar.Reader
import TopDown.Parser.Basic
import TopDown.Report.Table

/-!
# Queries answered in JSON

Each query takes the text of a grammar and a bound on the lookahead; if there is no parser, the
answer says why.

* `Query.table`: the parsing table; `Query.accepts`: whether a text is accepted.
-/

namespace TopDown

/-- The parser of the grammar that a text holds. -/
def Parser.ofText (text : String) (bound : Option Nat) : Except GrammarError Parser := do
  ((← Grammar.ofText text).toParser bound).value

namespace Query

/-- The answer of a parser, or the reason why there is none. -/
def answer (P : Except GrammarError Parser) (f : Parser → Json) : String :=
  match P with
  | .ok P => (f P).render
  | .error e => (Json.object [("error", .string e.message)]).render

/-- The parsing table of a grammar. -/
def table (grammar : String) (bound : Nat) : String :=
  answer (Parser.ofText grammar (some bound)) fun P => P.table.report.json

/-- Whether a grammar derives a text, as far as its parser can tell. -/
def accepts (grammar : String) (bound : Nat) (text : String) : String :=
  answer (Parser.ofText grammar (some bound)) fun P =>
    .object [("accepted", .bool (P.accepts text))]

end Query

end TopDown
