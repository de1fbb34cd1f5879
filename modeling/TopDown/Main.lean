import TopDown.CommandLine.Run

/-!
# The program

Reads the file or the standard input, writes the response and ends with its exit code.
-/

open TopDown CommandLine

/-- The reason behind an error of the system. Its codes come with either sign. -/
def readingError (e : IO.Error) : ReadingError :=
  let isCode (code : UInt32) (n : UInt32) : Bool := code == n || code == -n
  match e with
  | .noFileOrDirectory .. => .noSuchFile
  | .permissionDenied .. => .permissionDenied
  | .inappropriateType _ code _ => if isCode code 21 then .isDirectory else .notDirectory
  | .invalidArgument _ code _ => if isCode code 36 then .nameTooLong else .other (toString e)
  | e => .other (toString e)

/-- The text of a file, or of the standard input. -/
def readSource (file : Option String) : IO (Except ReadingError String) := do
  try
    match file with
    | some name =>
      let bytes ← IO.FS.readBinFile name
      return (String.fromUTF8? bytes).elim (.error .notText) .ok
    | none => return .ok (← (← IO.getStdin).readToEnd)
  catch e => return .error (readingError e)

def main (args : List String) : IO UInt32 := do
  let r ← respond readSource args
  (← IO.getStdout).putStr r.stdout
  (← IO.getStderr).putStr r.stderr
  return r.exitCode.toUInt32
