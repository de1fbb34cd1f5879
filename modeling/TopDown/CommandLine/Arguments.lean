/-!
# The arguments of the command line

Options stand before or behind the one file argument and are read from left to right; the first
fault ends the reading, and so do `-V` and `-h`. Short options may be joined, where the first one
that takes a value takes what is left of the argument.

* `Options`, what is asked for; `Request`; `UsageError`, one constructor for each fault;
* **`Request.read`**.
-/

namespace TopDown

namespace CommandLine

/-! ## What can be asked for -/

/-- What is printed about a grammar. -/
inductive Output where
  | productions
  | lookahead
  | table
  | k
  deriving DecidableEq

/-- The output that a value of `-o` names. -/
def Output.ofName? : String → Option Output
  | "prod" => some productions
  | "ff" => some lookahead
  | "table" => some table
  | "k" => some k
  | _ => none

/-- The settings of a run. -/
structure Options where
  file : Option String := none
  outputs : List Output := []
  words : List String := []
  bound : Option Nat := none
  latex : Bool := false
  json : Bool := false

/-- What the arguments ask for. -/
inductive Request where
  | run (o : Options)
  | version
  | help

/-- What can be wrong with the arguments. -/
inductive UsageError where
  /-- There is no such option. -/
  | unknownOption (arg : String)
  /-- The option takes a value and none follows. -/
  | missingValue (name : String)
  /-- The option takes no value. -/
  | unexpectedValue (name : String)
  /-- The value is none of those that the option takes. -/
  | invalidValue (name value : String)
  /-- The option may be given once. -/
  | repeated (name : String)
  /-- The file was given already. -/
  | unexpectedArgument (arg : String)
  /-- The name of the file is empty. -/
  | emptyFile
  /-- LaTeX and JSON exclude each other. -/
  | latexWithJson
  deriving DecidableEq

/-- The wording of a usage error. -/
def UsageError.message : UsageError → String
  | unknownOption arg => "unknown option " ++ arg
  | missingValue name => "option " ++ name ++ " needs a value"
  | unexpectedValue name => "option " ++ name ++ " takes no value"
  | invalidValue name value => "option " ++ name ++ " does not take the value " ++ value
  | repeated name => "option " ++ name ++ " is given more than once"
  | unexpectedArgument arg => "unexpected argument " ++ arg
  | emptyFile => "the name of the file is empty"
  | latexWithJson => "options --latex and --json exclude each other"

/-! ## Options -/

/-- The options that take a value. -/
inductive Setting where
  | output
  | parse
  | maxK
  deriving DecidableEq

/-- The long name of an option that takes a value. -/
def Setting.name : Setting → String
  | output => "--output"
  | parse => "--parse"
  | maxK => "--max-k"

/-- The options that take none. -/
inductive Flag where
  | latex
  | json
  | version
  | help
  deriving DecidableEq

/-- The long name of an option that takes no value. -/
def Flag.name : Flag → String
  | latex => "--latex"
  | json => "--json"
  | version => "--version"
  | help => "--help"

/-- The option of a letter behind a single dash. -/
def shortOption? : Char → Option (Setting ⊕ Flag)
  | 'o' => some (.inl .output)
  | 'p' => some (.inl .parse)
  | 'l' => some (.inr .latex)
  | 'j' => some (.inr .json)
  | 'V' => some (.inr .version)
  | 'h' => some (.inr .help)
  | _ => none

/-- The option of a name behind two dashes. -/
def longOption? : String → Option (Setting ⊕ Flag)
  | "output" => some (.inl .output)
  | "parse" => some (.inl .parse)
  | "max-k" => some (.inl .maxK)
  | "latex" => some (.inr .latex)
  | "json" => some (.inr .json)
  | "version" => some (.inr .version)
  | "help" => some (.inr .help)
  | _ => none

/-- A bound is written in decimal digits, perhaps behind a plus sign, and fits into 64 bits. -/
def readBound? (s : List Char) : Option Nat :=
  let digits := if s.head? = some '+' then s.tail else s
  let n := digits.foldl (fun n c => 10 * n + (c.toNat - '0'.toNat)) 0
  if !digits.isEmpty && digits.all Char.isDigit && n < UInt64.size then some n else none

namespace Options

/-- Give an option its value. -/
def set (o : Options) (s : Setting) (value : String) : Except UsageError Options :=
  match s with
  | .output =>
    match Output.ofName? value with
    | some output => .ok { o with outputs := o.outputs ++ [output] }
    | none => .error (.invalidValue s.name value)
  | .parse => .ok { o with words := o.words ++ [value] }
  | .maxK =>
    if o.bound.isSome then .error (.repeated s.name)
    else
      match readBound? value.toList with
      | some n => .ok { o with bound := some n }
      | none => .error (.invalidValue s.name value)

/-- Name the file to read. -/
def setFile (o : Options) (name : String) : Except UsageError Options :=
  if o.file.isSome then .error (.unexpectedArgument name)
  else if name.isEmpty then .error .emptyFile
  else .ok { o with file := some name }

/-- Without `-o` the table is printed; LaTeX and JSON exclude each other. -/
def finish (o : Options) : Except UsageError Request :=
  if o.latex && o.json then .error .latexWithJson
  else .ok (.run { o with outputs := if o.outputs.isEmpty then [.table] else o.outputs })

end Options

/-! ## Arguments -/

/-- How the reading goes on after an argument. -/
inductive Progress where
  /-- With the next argument. -/
  | next (o : Options)
  /-- The next argument is the value of an option. -/
  | awaiting (o : Options) (s : Setting)
  /-- No argument is an option any more. -/
  | filesOnly (o : Options)
  /-- It is at its end. -/
  | settled (r : Request)

/-- Take an option without a value. -/
def Options.raise (o : Options) (f : Flag) : Except UsageError Progress :=
  match f with
  | .latex => if o.latex then .error (.repeated f.name) else .ok (.next { o with latex := true })
  | .json => if o.json then .error (.repeated f.name) else .ok (.next { o with json := true })
  | .version => .ok (.settled .version)
  | .help => .ok (.settled .help)

/-- Read the letters behind a single dash. -/
def readShort (o : Options) : List Char → Except UsageError Progress
  | [] => .ok (.next o)
  | c :: s =>
    match shortOption? c with
    | none => .error (.unknownOption (String.ofList ['-', c]))
    | some (.inl setting) =>
      match s with
      | [] => .ok (.awaiting o setting)
      | '=' :: value => (o.set setting (String.ofList value)).map .next
      | value => (o.set setting (String.ofList value)).map .next
    | some (.inr flag) => do
      match ← o.raise flag with
      | .next o => readShort o s
      | progress => return progress

/-- Read what stands behind two dashes: a name, perhaps with a value behind an equals sign. -/
def readLong (o : Options) (s : List Char) : Except UsageError Progress :=
  let name := String.ofList (s.takeWhile (· ≠ '='))
  match longOption? name, s.dropWhile (· ≠ '=') with
  | none, _ => .error (.unknownOption ("--" ++ name))
  | some (.inl setting), [] => .ok (.awaiting o setting)
  | some (.inl setting), _ :: value => (o.set setting (String.ofList value)).map .next
  | some (.inr flag), [] => o.raise flag
  | some (.inr flag), _ :: _ => .error (.unexpectedValue flag.name)

/-- Read one argument. -/
def readArgument (o : Options) (arg : String) : Except UsageError Progress :=
  match arg.toList with
  | ['-', '-'] => .ok (.filesOnly o)
  | '-' :: '-' :: s => readLong o s
  | '-' :: c :: s => readShort o (c :: s)
  | _ => (o.setFile arg).map .next

/-- The argument is read as an option; a single dash is not. -/
def looksLikeOption (arg : String) : Bool :=
  match arg.toList with
  | '-' :: _ :: _ => true
  | _ => false

/-- Read the arguments with the settings so far. -/
def readArguments (o : Options) : List String → Except UsageError Request
  | [] => o.finish
  | arg :: args => do
    match ← readArgument o arg with
    | .next o => readArguments o args
    | .settled r => return r
    | .filesOnly o => (← args.foldlM Options.setFile o).finish
    | .awaiting o setting =>
      match args with
      | [] => throw (.missingValue setting.name)
      | value :: args =>
        if looksLikeOption value then throw (.missingValue setting.name)
        readArguments (← o.set setting value) args

/-- What the arguments ask for. -/
def Request.read (args : List String) : Except UsageError Request := readArguments {} args

end CommandLine

end TopDown
