import SqlInsert.CommandLine.Option
import SqlInsert.Number.Basic
/-!
# What is asked of the recognition

The options of the command that recognizes a statement, and the request they make. Of an option that
is given several times the last one counts, but every position of a primary key does. Values are
looked at in the order in which the options were first given; the first that does not suit its option
is the one complained about.
-/

namespace SqlInsert.CommandLine

/-- The forms in which a result is told. -/
inductive OutputForm
  | console
  | json
  | compact
deriving DecidableEq, Repr

namespace OutputForm

/-- All forms. -/
def all : List OutputForm := [.console, .json, .compact]

/-- The name by which a form is chosen. -/
def name : OutputForm → String
  | .console => "console"
  | .json => "json"
  | .compact => "compact"

/-- The form with a name. -/
def ofName? (name : String) : Option OutputForm :=
  all.find? (·.name == name)

end OutputForm

/-- What is asked of the recognition. -/
structure Request where
  /-- The statement. -/
  sql : Option String
  /-- The path of a file that holds the statement. -/
  file : Option String
  /-- The key of the dialect. -/
  dialect : String
  /-- The positions of primary keys. -/
  keyPositions : List Int
  form : OutputForm
  /-- The path of a file for the result. -/
  outputFile : Option String
deriving DecidableEq, Repr

/-- What is asked where no option is given. -/
def Request.standard : Request :=
  ⟨none, none, "mysql", [], .console, none⟩

/-- The options of the command. -/
inductive RecognizeOption
  | sql
  | file
  | dialect
  | keyPosition
  | form
  | outputFile
  | help
deriving DecidableEq, Repr

/-- What is said in the help about the option for the help. -/
def helpText : String := "Show this message and exit."

namespace RecognizeOption

/-- The names of the output forms, separated by a bar, between square brackets. -/
def formMark : String :=
  "[" ++ "|".intercalate (OutputForm.all.map (·.name)) ++ "]"

/-- The form of an option. -/
def optionForm : RecognizeOption → OptionForm RecognizeOption
  | .sql => ⟨"--sql", .valued 's' "TEXT", "INSERT statement to recognize", .sql⟩
  | .file => ⟨"--file", .valued 'f' "PATH", "Path to a file holding one INSERT statement", .file⟩
  | .dialect => ⟨"--dialect", .valued 'd' "TEXT", "SQL dialect (default: mysql)", .dialect⟩
  | .keyPosition =>
    ⟨"--pk-index", .valued 'k' "INTEGER", "Primary key column position, repeatable", .keyPosition⟩
  | .form =>
    ⟨"--output-format", .valued 'o' formMark, "Output format (default: console)", .form⟩
  | .outputFile =>
    ⟨"--output-file", .valued 'F' "PATH", "Output file path (only for json format)", .outputFile⟩
  | .help => ⟨"--help", .switch, helpText, .help⟩

/-- The forms of all options, in the order of the help. -/
def optionForms : List (OptionForm RecognizeOption) :=
  [sql, file, dialect, keyPosition, form, outputFile, help].map optionForm

end RecognizeOption

/-- Why options make no request. -/
inductive RequestError
  | usage (error : UsageError)
  /-- A path that no file can have, as it holds the zero character. -/
  | impossiblePath
deriving DecidableEq, Repr

/-- A complaint about a value of an option. -/
def unsuitable (option : RecognizeOption) (problem : String) : RequestError :=
  .usage (.unsuitable option.optionForm.hint problem)

/-- The position that a text spells. -/
def readPosition (text : String) : Except RequestError Int :=
  match Number.readInteger 10 text.toList with
  | .ok position => .ok position
  | .error _ => .error (unsuitable .keyPosition (Text.quoted text ++ " is not a valid integer."))

/-- The output form with a name. -/
def readForm (name : String) : Except RequestError OutputForm :=
  match OutputForm.ofName? name with
  | some form => .ok form
  | none =>
    .error (unsuitable .form (Text.quoted name ++ " is not one of " ++
      ", ".intercalate (OutputForm.all.map fun form => Text.quoted form.name) ++ "."))

/-- A path that a file can have. -/
def readPath (path : String) : Except RequestError String :=
  if path.toList.contains (Char.ofNat 0) then .error .impossiblePath else .ok path

/-- The path of a file that must be there. -/
def readPresentPath (isPresent : Bool) (path : String) : Except RequestError String :=
  match readPath path with
  | .error error => .error error
  | .ok path =>
    if isPresent then .ok path
    else .error (unsuitable .file ("Path " ++ Text.quoted path ++ " does not exist."))

namespace Request

/-- The request with what an option says. It is told whether the file to be read is present. -/
def set (arguments : Arguments RecognizeOption) (isPresent : Bool) (request : Request)
    (option : RecognizeOption) : Except RequestError Request :=
  let values := arguments.values option
  let value := values.getLast?.getD ""
  match option with
  | .sql => .ok { request with sql := some value }
  | .file => (readPresentPath isPresent value).map fun path => { request with file := some path }
  | .dialect => .ok { request with dialect := value }
  | .keyPosition =>
    (values.mapM readPosition).map fun positions => { request with keyPositions := positions }
  | .form => (readForm value).map fun form => { request with form }
  | .outputFile => (readPath value).map fun path => { request with outputFile := some path }
  | .help => .ok request

/-- The request that arguments make. Other arguments than options are not wanted. -/
def ofArguments (arguments : Arguments RecognizeOption) (isPresent : Bool) :
    Except RequestError Request := do
  let request ← arguments.meanings.foldlM (set arguments isPresent) standard
  if arguments.rest.isEmpty then .ok request
  else .error (.usage (.extraArguments arguments.rest))

end Request

end SqlInsert.CommandLine
