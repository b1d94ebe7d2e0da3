import SqlInsert.CommandLine.Program
import SqlInsert.Journal.Setup
/-!
# The program on a real console

Files are those of the machine, what is printed goes to the standard output, and the journal goes where
the environment says. Everything else is decided by the library.
-/

namespace SqlInsert

/-- The fault that an error of the machine stands for; what has no fault of its own is one of the
device. -/
def faultOf (error : IO.Error) : CommandLine.FileFault :=
  match error with
  | .noFileOrDirectory _ _ _ => .absent
  | .permissionDenied _ _ _ => .denied
  | .inappropriateType _ code _ =>
    if code.toNat = CommandLine.FileFault.isDirectory.code then .isDirectory else .notDirectory
  | error => .other 5 (toString error)

/-- An effect on a file with its fault as a value. -/
def faulty {α : Type} (effect : IO α) : IO (Except CommandLine.FileFault α) :=
  tryCatch (Except.ok <$> effect) fun error => pure (.error (faultOf error))

/-- The files of the machine. -/
def machineFiles : CommandLine.FileAccess IO where
  isPresent path := do
    return (← faulty (IO.FS.realPath path)).isOk
  read path := faulty do
    return (← IO.FS.readBinFile path).toList
  write path text := faulty (IO.FS.writeFile path text)

/-- The columns of the console, as the environment tells them. -/
def consoleColumns (told : Option String) : Nat :=
  ((told.bind (·.toNat?)).filter (0 < ·)).getD 80

end SqlInsert

open SqlInsert in
/-- The program: prints what a session prints and ends with its status. -/
def main (arguments : List String) : IO UInt32 := do
  let environment : Journal.Environment :=
    ⟨← IO.getEnv "SQL_RECOGNIZER_LOG_LEVEL", ← IO.getEnv "SQL_RECOGNIZER_LOG_FORMAT"⟩
  match Journal.configure environment .standard with
  | .error error =>
    IO.eprintln error.message
    return 1
  | .ok configuration =>
    let columns := consoleColumns (← IO.getEnv "COLUMNS")
    let response ← CommandLine.session columns machineFiles arguments
    IO.print response.ending.output
    IO.eprint (Journal.write configuration response.entries).console
    if let some interruption := response.ending.interruption then
      IO.eprintln interruption.message
    return response.ending.status.toUInt32
