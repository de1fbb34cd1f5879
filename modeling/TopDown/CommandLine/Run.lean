import TopDown.CommandLine.Arguments
import TopDown.CommandLine.Files
import TopDown.Derivation
import TopDown.Query
import TopDown.Report.Lookahead
import TopDown.Report.Productions

/-!
# A run of the command line

* `Response`, what a run leaves behind; `Options.response`: the outputs asked for, in their order,
  then a line or two for each word;
* `respond`: the response to the arguments, where `source` gives the text of a file or of the
  standard input; **`respondAt`**: the response at a place in a tree of files.
-/

namespace TopDown

namespace CommandLine

/-- The exit code and the two output streams. -/
structure Response where
  exitCode : Nat
  stdout : String
  stderr : String
  deriving DecidableEq

namespace Options

/-- A report in the form that the settings ask for. -/
def render (o : Options) (plain latex : String) (json : Json) : String :=
  if o.json then json.render else if o.latex then latex else plain

/-- The text of one output. -/
def outputText (o : Options) (P : Parser) : Output → String
  | .productions =>
    let r := P.grammar.productionReport
    o.render r.plain r.latex r.json
  | .lookahead =>
    let r := P.grammar.lookaheadReport P.k
    o.render r.plain r.latex r.json
  | .table =>
    let r := P.table.report
    o.render r.plain r.latex r.json
  | .k =>
    o.render (toString P.k) ("$k = " ++ toString P.k ++ "$") (.object [("k", .number P.k)])

/-- What is said of a word. -/
def wordText (P : Parser) (word : String) : String :=
  match (P.derive word).value with
  | some ps => word ++ ": accepted\n  " ++ derivationText P.grammar.start ps
  | none => word ++ ": rejected"

/-- The response to the text of a grammar. -/
def response (o : Options) (text : String) : Response :=
  match Parser.ofText text o.bound with
  | .ok P =>
    let lines := o.outputs.map (o.outputText P) ++ o.words.map (wordText P)
    ⟨0, String.join (lines.map (· ++ "\n")), ""⟩
  | .error e => ⟨1, "", "error: " ++ e.message ++ "\n"⟩

end Options

/-- The name and the version of the program. -/
def versionText : String := "llk-helper 0.1.0\n"

/-- How the program is called. -/
def helpText : String :=
  "\n".intercalate [
    "Usage: llk-helper [OPTIONS] [FILE]",
    "",
    "Arguments:",
    "  [FILE]  File containing the grammar (default: stdin)",
    "",
    "Options:",
    "  -o, --output <OUTPUT>  What to print: prod, ff, table or k [default: table]",
    "  -p, --parse <WORD>     Word to accept or reject, may be repeated",
    "      --max-k <K>        Give up when the grammar is not LL(k) for any k up to this bound",
    "  -l, --latex            Print in LaTeX format",
    "  -j, --json             Print in JSON format",
    "  -h, --help             Print help",
    "  -V, --version          Print version",
    ""]

/-- The response to the arguments. The source is read once they have turned out to be in order. -/
def respond {m : Type → Type} [Monad m]
    (source : Option String → m (Except ReadingError String)) (args : List String) :
    m Response := do
  match Request.read args with
  | .error e => return ⟨2, "", "error: " ++ e.message ++ "\n"⟩
  | .ok .version => return ⟨0, versionText, ""⟩
  | .ok .help => return ⟨0, helpText, ""⟩
  | .ok (.run o) =>
    match ← source o.file with
    | .ok text => return o.response text
    | .error e => return ⟨1, "", "error: " ++ e.message ++ "\n"⟩

/-- The response at a place in a tree of files, with `input` as the standard input. -/
def respondAt (place : Place) (input : String) (args : List String) : Response :=
  Id.run (respond (fun file => pure (file.elim (.ok input) place.read)) args)

end CommandLine

end TopDown
