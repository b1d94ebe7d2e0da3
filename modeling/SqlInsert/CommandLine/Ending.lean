import SqlInsert.Console.Report
import SqlInsert.Text.Character
import SqlInsert.Text.Encoding
import SqlInsert.Text.Lines
/-!
# Files and endings

The files that a command reads and writes, and the ways in which it ends.
-/

namespace SqlInsert.CommandLine

/-! ## Files

A command reads and writes files by their paths. The ways to reach them are given to it; a file store
is one that is a plain value: a tree of files and directories below a working directory, of whose
surroundings nothing is known but that they are directories. -/

/-- Why a file cannot be opened. -/
inductive FileFault
  | absent
  | denied
  | notDirectory
  | isDirectory
  | nameTooLong
  /-- Another fault with its number and what is said about it. -/
  | other (code : Nat) (text : String)
deriving DecidableEq, Repr

namespace FileFault

/-- The number of a fault. -/
def code : FileFault → Nat
  | .absent => 2
  | .denied => 13
  | .notDirectory => 20
  | .isDirectory => 21
  | .nameTooLong => 36
  | .other code _ => code

/-- What is said about a fault. -/
def text : FileFault → String
  | .absent => "No such file or directory"
  | .denied => "Permission denied"
  | .notDirectory => "Not a directory"
  | .isDirectory => "Is a directory"
  | .nameTooLong => "File name too long"
  | .other _ text => text

/-- The wording of a fault of the file with a path. -/
def message (path : String) (fault : FileFault) : String :=
  "[Errno " ++ Number.integerText fault.code ++ "] " ++ fault.text ++ ": " ++ Text.quoted path

end FileFault

/-- The ways to reach files. -/
structure FileAccess (m : Type → Type) where
  /-- Whether a file or directory has the path. -/
  isPresent : String → m Bool
  /-- The bytes of a file. -/
  read : String → m (Except FileFault (List UInt8))
  /-- Makes a text all that is in a file. -/
  write : String → String → m (Except FileFault Unit)

/-- What stands in a file store. -/
inductive StoredEntry
  | file (bytes : List UInt8)
  | directory
deriving DecidableEq, Repr

/-- Files and directories by the names on the way from the working directory. -/
structure FileStore where
  entries : List (List String × StoredEntry)

/-- Where a path leads. -/
inductive Place
  /-- A place below the working directory, by the names on the way. -/
  | inside (names : List String)
  /-- A directory around the working directory. -/
  | outside
deriving DecidableEq, Repr

/-- The greatest number of bytes of one name. -/
def nameLimit : Nat := 255

/-- The greatest number of bytes of a path. -/
def pathLimit : Nat := 4095

/-- The names in a path, between its slashes. -/
def pathNames (path : List Char) : List String :=
  (Text.splitAt (· == '/') path).map String.ofList

namespace FileStore

/-- What stands in a place below the working directory. A directory need not be stored if something
below it is. -/
def entry? (store : FileStore) (names : List String) : Option StoredEntry :=
  if names.isEmpty then some .directory
  else
    (store.entries.lookup names).orElse fun _ =>
      if store.entries.any fun (known, _) => names.isPrefixOf known then some .directory else none

/-- Whether a place is a directory. -/
def isDirectory (store : FileStore) : Place → Bool
  | .outside => true
  | .inside names => store.entry? names = some .directory

/-- Where a name leads from a place. -/
def follow (store : FileStore) (place : Place) (name : String) : Except FileFault Place :=
  if !store.isDirectory place then .error .notDirectory
  else if name = "" ∨ name = "." then .ok place
  else if nameLimit < name.utf8ByteSize then .error .nameTooLong
  else
    match place with
    | .outside => if name = ".." then .ok .outside else .error .absent
    | .inside names =>
      if name = ".." then .ok (if names.isEmpty then .outside else .inside names.dropLast)
      else if (store.entry? (names ++ [name])).isSome then .ok (.inside (names ++ [name]))
      else .error .absent

/-- Where a path starts. -/
def start (path : List Char) : Place :=
  if path.head? = some '/' then .outside else .inside []

/-- Where a path leads. -/
def locate (store : FileStore) (path : String) : Except FileFault Place :=
  if path = "" then .error .absent
  else if pathLimit < path.utf8ByteSize then .error .nameTooLong
  else (pathNames path.toList).foldlM store.follow (start path.toList)

/-- The bytes of the file with a path. -/
def read (store : FileStore) (path : String) : Except FileFault (List UInt8) := do
  match ← store.locate path with
  | .outside => .error .isDirectory
  | .inside names =>
    match store.entry? names with
    | some (.file bytes) => .ok bytes
    | some .directory => .error .isDirectory
    | none => .error .absent

/-- The store with a file in a place. -/
def put (names : List String) (bytes : List UInt8) (store : FileStore) : FileStore :=
  ⟨(store.entries.filter fun (known, _) => known ≠ names) ++ [(names, .file bytes)]⟩

/-- The place of a file that is to be written: its directory must be there, and no directory may
have its name. -/
def target (store : FileStore) (path : String) : Except FileFault (List String) := do
  if path = "" then .error .absent
  else if pathLimit < path.utf8ByteSize then .error .nameTooLong
  else
    let names := pathNames (Text.dropEndWhile (· == '/') path.toList)
    let name := names.getLast?.getD ""
    let directory ← names.dropLast.foldlM store.follow (start path.toList)
    if !store.isDirectory directory then .error .notDirectory
    else if path.toList.getLast? = some '/' ∨ name = "." ∨ name = ".." then .error .isDirectory
    else if nameLimit < name.utf8ByteSize then .error .nameTooLong
    else
      match directory with
      | .outside => .error .denied
      | .inside above =>
        if store.isDirectory (.inside (above ++ [name])) then .error .isDirectory
        else .ok (above ++ [name])

/-- The store after a text was written to a file. -/
def write (store : FileStore) (path text : String) : Except FileFault FileStore :=
  (store.target path).map fun names => store.put names (Text.encode text.toList)

/-- The ways to reach the files of a store that may change. -/
def access : FileAccess (StateM FileStore) where
  isPresent path store := ((store.locate path).isOk, store)
  read path store := (store.read path, store)
  write path text store :=
    match store.write path text with
    | .ok changed => (.ok (), changed)
    | .error fault => (.error fault, store)

end FileStore

/-! ## How a command ends

A command ends with a status and what it printed. It may be interrupted by a failure that it has no
words for; what was printed before stays printed, and the status tells of a failure. The journal is
kept in every case. -/

/-- A failure that a command has no words for. -/
inductive Interruption
  | conversion (error : ConversionError)
  /-- A bind parameter was not numbered. -/
  | unnumbered
  | report (error : Console.ReportError)
  | encoding (error : Text.EncodingError)
  /-- A file was not read. -/
  | file (path : String) (fault : FileFault)
  /-- A path holds the zero character. -/
  | impossiblePath

/-- The wording of a failure. -/
def Interruption.message : Interruption → String
  | .conversion error => error.message
  | .unnumbered => "a bind parameter has no number"
  | .report error => error.message
  | .encoding error => error.message
  | .file path fault => fault.message path
  | .impossiblePath => "embedded null byte"

/-- How a command ended. -/
structure Ending where
  /-- What was printed. -/
  output : String
  status : Nat
  interruption : Option Interruption

namespace Ending

/-- The status of a success. -/
def success : Nat := 0

/-- The status of a failure. -/
def failure : Nat := 1

/-- The status where the arguments are wrong. -/
def misuse : Nat := 2

/-- An end by an interruption, behind what was printed. -/
def interrupted (output : String) (interruption : Interruption) : Ending :=
  ⟨output, failure, some interruption⟩

/-- An end with a status behind blocks that were printed, if they could be shown. -/
def ofPrinted (status : Nat) (printed : Console.Printed) : Ending :=
  match printed.failure with
  | none => ⟨printed.text, status, none⟩
  | some error => interrupted printed.text (.report error)

/-- An end by a complaint on a console with so many columns. -/
def complaint (columns : Nat) (text : String) : Ending :=
  ofPrinted failure (Console.print columns [Console.markupBlock columns ("[red]Error:[/red] " ++ text)])

end Ending

/-- How a command ended, and its journal. -/
structure Response where
  entries : List Entry
  ending : Ending

namespace Response

/-- An end without a journal. -/
def quiet (ending : Ending) : Response := ⟨[], ending⟩

/-- The response with entries before its own. -/
def after (entries : List Entry) (response : Response) : Response :=
  { response with entries := entries ++ response.entries }

/-- The response of a calculation that always gives an end. -/
def ofLogged (calculation : Logged Ending Ending) : Response :=
  match calculation.outcome with
  | .ok ending => ⟨calculation.entries, ending⟩
  | .error ending => ⟨calculation.entries, ending⟩

end Response

end SqlInsert.CommandLine
