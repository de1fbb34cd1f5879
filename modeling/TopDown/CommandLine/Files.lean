/-!
# Files and their paths

A tree of directories and files, and the reading of the file that a path leads to. A path is walked
name by name; a name can only be looked up in a directory, so a path that goes on behind a file, if
only by a slash, leads nowhere.

* `ReadingError`, one constructor for each reason why a file cannot be read;
* `FileTree`, `Place`; `Place.enter`, one name of a path; **`Place.read`**, the whole path;
* `FileTree.system`: the directories and devices that every system has.
-/

namespace TopDown

namespace CommandLine

/-- Why a file cannot be read. -/
inductive ReadingError where
  /-- Nothing has that name. -/
  | noSuchFile
  /-- The file may not be read. -/
  | permissionDenied
  /-- The path goes on behind a file. -/
  | notDirectory
  /-- The path leads to a directory. -/
  | isDirectory
  /-- The path or a name in it is longer than is allowed. -/
  | nameTooLong
  /-- The file does not hold a text. -/
  | notText
  /-- Whatever else the system says. -/
  | other (reason : String)
  deriving DecidableEq

/-- The wording of a reason. -/
def ReadingError.message : ReadingError → String
  | noSuchFile => "No such file or directory (os error 2)"
  | permissionDenied => "Permission denied (os error 13)"
  | notDirectory => "Not a directory (os error 20)"
  | isDirectory => "Is a directory (os error 21)"
  | nameTooLong => "File name too long (os error 36)"
  | notText => "stream did not contain valid UTF-8"
  | other reason => reason

/-! ## Trees and places -/

/-- A file with its text, or a directory with its entries. -/
inductive FileTree where
  | file (text : String)
  | directory (entries : List (String × FileTree))

/-- A place in a tree: what is there, and the directories above it, the nearest first. -/
structure Place where
  here : FileTree
  above : List FileTree

namespace Place

/-- The longest name of an entry, in bytes. -/
def maxName : Nat := 255

/-- The longest path, in bytes. -/
def maxPath : Nat := 4095

/-- The top of the tree. -/
def root (p : Place) : Place := ⟨p.above.getLastD p.here, []⟩

/-- The directory above, which for the top is the top itself. -/
def parent (p : Place) : Place :=
  match p.above with
  | [] => p
  | d :: ds => ⟨d, ds⟩

/-- Go on by one name of a path. The empty name and `.` stay in the directory. -/
def enter (p : Place) (name : String) : Except ReadingError Place :=
  match p.here with
  | .file _ => .error .notDirectory
  | .directory entries =>
    if name = "" ∨ name = "." then .ok p
    else if name = ".." then .ok p.parent
    else if maxName < name.utf8ByteSize then .error .nameTooLong
    else
      match entries.lookup name with
      | some t => .ok ⟨t, p.here :: p.above⟩
      | none => .error .noSuchFile

/-- Where a path leads; one that begins with a slash starts at the top. -/
def walk (p : Place) (path : String) : Except ReadingError Place :=
  if path = "" then .error .noSuchFile
  else if maxPath < path.utf8ByteSize then .error .nameTooLong
  else
    let start := if path.toList.head? = some '/' then p.root else p
    ((path.toList.splitOn '/').map String.ofList).foldlM enter start

/-- The text of the file that a path leads to. -/
def read (p : Place) (path : String) : Except ReadingError String := do
  match (← p.walk path).here with
  | .file text => .ok text
  | .directory _ => .error .isDirectory

end Place

/-! ## The system around -/

/-- The usual directories at the top of a system, beside those in `entries`. Of its devices there
are the null device, which is empty, and the standard input, which holds `input`. -/
def FileTree.system (input : String) (entries : List (String × FileTree)) : FileTree :=
  let streams := directory [("0", file input)]
  let devices := directory [("null", file ""), ("stdin", file input), ("fd", streams)]
  let processes := directory [("self", directory [("fd", streams)])]
  let empty := ["bin", "boot", "etc", "home", "lib", "media", "mnt", "opt", "root", "run", "sbin",
    "srv", "sys", "tmp", "usr", "var"]
  directory (entries ++ ("dev", devices) :: ("proc", processes) :: empty.map (·, directory []))

end CommandLine

end TopDown
