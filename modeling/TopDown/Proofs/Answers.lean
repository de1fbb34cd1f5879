import TopDown.Proofs.JsonText
import TopDown.Proofs.PlainTable
import TopDown.Proofs.Recognition
import TopDown.Query

/-!
# What the answers say

Both queries fail for the same grammars and bounds, and then both say why, word for word. Otherwise
one says whether the text is accepted and the other one tells the whole table.

* `Json.member?`, `Json.chars?`, `Json.items?`: the parts of a value;
* `TableReport.ofJson?`, **`TableReport.ofJson?_json`**: the report is read from its JSON value;
* `Parser.ofText_eq_ok`, `Parser.ofText_eq_error`;
* **`Query.answers_faithful`**.
-/

namespace TopDown

/-! ## Parts of a value -/

namespace Json

/-- The value of a member. -/
def member? (name : String) : Json → Option Json
  | object ms => ms.lookup name
  | _ => none

/-- The items of an array. -/
def items? : Json → Option (List Json)
  | array vs => some vs
  | _ => none

/-- The characters of a string. -/
def chars? : Json → Option (List Char)
  | string s => some s.toList
  | _ => none

/-- A number. -/
def number? : Json → Option Nat
  | number n => some n
  | _ => none

/-- The characters of an array of strings. -/
def texts? (v : Json) : Option (List (List Char)) := v.items?.bind fun vs => vs.mapM chars?

@[simp] theorem texts?_strings (l : List String) :
    texts? (strings l) = some (l.map String.toList) := by
  have hchars : ∀ s ∈ l, (chars? ∘ string) s = some s.toList := fun _ _ => rfl
  rw [strings, texts?, items?, Option.bind_some, List.mapM_map]
  exact mapM_eq_some_map hchars

end Json

/-! ## The report of a value -/

namespace TableReport

/-- The name and the cells of a row. -/
def rowOfJson? (v : Json) : Option (Nonterminal × List (Option Production)) := do
  match ← v.items? with
  | [name, cells] => readRow? ((← name.chars?) :: (← cells.texts?))
  | _ => none

/-- The report of a JSON value. -/
def ofJson? (v : Json) : Option TableReport := do
  let k ← (← v.member? "k").number?
  let words ← (← (← v.member? "lookaheads").texts?).mapM Word.ofText?
  let rows ← (← (← v.member? "rows").items?).mapM rowOfJson?
  return ⟨k, .ofList words, rows⟩

@[simp] theorem rowOfJson?_texts (a : Nonterminal) (cells : List (Option Production)) :
    rowOfJson? (.array [.string a.text, .strings (cells.map cellText)]) = some (a, cells) := by
  have hrow := readRow?_texts a cells
  simp only [rowOfJson?, Json.items?, Json.chars?, Json.texts?_strings, Option.bind_eq_bind,
    Option.bind_some, hrow]

/-- **The report is read from its JSON value.** -/
theorem ofJson?_json (r : TableReport) : ofJson? r.json = some r := by
  have hk : r.json.member? "k" = some (.number r.k) := by
    simp [json, Json.member?]
  have hwords : r.json.member? "lookaheads" = some (.strings r.heads) := by
    simp [json, Json.member?, List.lookup_cons]
  have hrows : r.json.member? "rows" = some (.array (r.rows.map fun e =>
      .array [.string e.1.text, .strings (e.2.map cellText)])) := by
    simp [json, Json.member?, List.lookup_cons]
  have hread : (r.rows.map fun e =>
      Json.array [.string e.1.text, .strings (e.2.map cellText)]).mapM rowOfJson? = some r.rows :=
    mapM_map_eq_some fun e _ => rowOfJson?_texts e.1 e.2
  simp only [ofJson?, hk, hwords, hrows, Json.number?, Json.texts?_strings, Json.items?,
    r.mapM_ofText?_heads, hread, Option.bind_eq_bind, Option.bind_some, OrderedSet.ofList_toList]
  rfl

end TableReport

/-! ## The parser of a text -/

namespace Parser

variable {text : String} {g : Grammar} {bound : Option Nat} {k : Nat} {e : GrammarError}

/-- Where the grammar is read and the search succeeds there is a parser. -/
theorem ofText_eq_ok (hg : Grammar.ofText text = .ok g)
    (hk : (g.findLookahead bound).value = .ok k) : ofText text bound = .ok ⟨g, (g.tabulate k).value⟩ := by
  rw [ofText, hg]
  exact g.toParser_of_findLookahead hk

/-- Otherwise what fails first tells why there is none. -/
theorem ofText_eq_error (h : Grammar.ofText text = .error e ∨
    ∃ g, Grammar.ofText text = .ok g ∧ (g.findLookahead bound).value = .error e) :
    ofText text bound = .error e := by
  rcases h with h | ⟨g, hg, he⟩
  · rw [ofText, h]
    rfl
  · have hanalyze : (g.analyze bound).value = .error e := by
      unfold Grammar.analyze
      rw [Logged.value_bind, he]
      rfl
    have hparser : (g.toParser bound).value = .error e := by
      unfold Grammar.toParser
      rw [Logged.value_bind, hanalyze]
      rfl
    rw [ofText, hg]
    exact hparser

end Parser

/-! ## Answers -/

/-- The JSON value of a table: the lookahead, the words, and the cells of every nonterminal. -/
theorem Grammar.json_report_tabulate (g : Grammar) (k : Nat) :
    let t := (g.tabulate k).value
    t.report.json = .object [("k", .number k),
      ("lookaheads", .strings (t.words.toList.map Word.text)),
      ("rows", .array (g.nonterminals.toList.map fun a => .array [.string a.text,
        .strings (t.words.toList.map fun w => (t.get? a w).elim "" Production.text)]))] := by
  intro t
  rw [TableReport.json, g.rows_report_tabulate k, List.map_map]
  simp only [Function.comp_def, List.map_map]
  rfl

namespace Query

variable {grammar : String} {bound : Nat} {P : Parser} {e : GrammarError}

/-- The answers of a parser. -/
theorem isText_iff_of_ok (h : Parser.ofText grammar (some bound) = .ok P) (text : String)
    (v : Json) :
    (Json.IsText v (accepts grammar bound text) ↔
      v = .object [("accepted", .bool (P.accepts text))]) ∧
    (Json.IsText v (table grammar bound) ↔ v = P.table.report.json) := by
  rw [accepts, table, h]
  exact ⟨Json.isText_render_iff, Json.isText_render_iff⟩

/-- The answers where there is no parser. -/
theorem isText_iff_of_error (h : Parser.ofText grammar (some bound) = .error e) (text : String)
    (v : Json) :
    (Json.IsText v (accepts grammar bound text) ↔ v = .object [("error", .string e.message)]) ∧
    (Json.IsText v (table grammar bound) ↔ v = .object [("error", .string e.message)]) := by
  rw [accepts, table, h]
  exact ⟨Json.isText_render_iff, Json.isText_render_iff⟩

/-- The table is rebuilt from the answer. -/
theorem toTable_table (h : Parser.ofText grammar (some bound) = .ok P) :
    ((Json.read? (table grammar bound)).bind TableReport.ofJson?).map TableReport.toTable =
      some P.table := by
  have htext : Json.IsText P.table.report.json (table grammar bound) :=
    (isText_iff_of_ok h "" _).2.2 rfl
  rw [htext.read?_eq, Option.bind_some, TableReport.ofJson?_json, Option.map_some,
    Table.toTable_report]

/-- **The answers tell errors from results.** If the grammar is read and the search succeeds within
the bound, the answer on a text is an object of one member, `accepted`, which is whether the parser
derives the text, and the answer on the table tells the lookahead, its words, and the cells of every
nonterminal, from which the table is rebuilt. Otherwise both answers are an object of one member,
`error`, which is the message of what failed. An answer denotes this value and no other one. -/
theorem answers_faithful (grammar : String) (bound : Nat) :
    (∃ g k, Grammar.ofText grammar = .ok g ∧ (g.findLookahead (some bound)).value = .ok k ∧
      let t := (g.tabulate k).value
      Parser.ofText grammar (some bound) = .ok ⟨g, t⟩ ∧
      (∀ text v, Json.IsText v (accepts grammar bound text) ↔
        v = .object [("accepted", .bool ((Parser.mk g t).derive text).value.isSome)]) ∧
      (∀ v, Json.IsText v (table grammar bound) ↔
        v = .object [("k", .number k), ("lookaheads", .strings (t.words.toList.map Word.text)),
          ("rows", .array (g.nonterminals.toList.map fun a => .array [.string a.text,
            .strings (t.words.toList.map fun w => (t.get? a w).elim "" Production.text)]))]) ∧
      ((Json.read? (table grammar bound)).bind TableReport.ofJson?).map TableReport.toTable =
        some t) ∨
    ∃ e, (Grammar.ofText grammar = .error e ∨
        ∃ g, Grammar.ofText grammar = .ok g ∧ (g.findLookahead (some bound)).value = .error e) ∧
      Parser.ofText grammar (some bound) = .error e ∧
      (∀ text v, Json.IsText v (accepts grammar bound text) ↔
        v = .object [("error", .string e.message)]) ∧
      ∀ v, Json.IsText v (table grammar bound) ↔ v = .object [("error", .string e.message)] := by
  have hfails : ∀ e, (Grammar.ofText grammar = .error e ∨
      ∃ g, Grammar.ofText grammar = .ok g ∧ (g.findLookahead (some bound)).value = .error e) →
      Parser.ofText grammar (some bound) = .error e ∧
      (∀ text v, Json.IsText v (accepts grammar bound text) ↔
        v = .object [("error", .string e.message)]) ∧
      ∀ v, Json.IsText v (table grammar bound) ↔ v = .object [("error", .string e.message)] := by
    intro e he
    have hparser := Parser.ofText_eq_error he
    exact ⟨hparser, fun text v => (isText_iff_of_error hparser text v).1,
      fun v => (isText_iff_of_error hparser "" v).2⟩
  match hg : Grammar.ofText grammar with
  | .error e => exact .inr ⟨e, .inl rfl, hfails e (.inl hg)⟩
  | .ok g =>
    match hk : (g.findLookahead (some bound)).value with
    | .error e => exact .inr ⟨e, .inr ⟨g, rfl, hk⟩, hfails e (.inr ⟨g, hg, hk⟩)⟩
    | .ok k =>
      have hparser := Parser.ofText_eq_ok hg hk
      refine .inl ⟨g, k, rfl, hk, hparser, fun text v => (isText_iff_of_ok hparser text v).1,
        fun v => ?_, toTable_table hparser⟩
      rw [← g.json_report_tabulate k]
      exact (isText_iff_of_ok hparser "" v).2

end Query

end TopDown
