import SqlInsert.CommandLine.Recognize
/-!
# The program

The program has two commands: one recognizes a statement, the other lists the dialects. Without
arguments it shows its help. Arguments that make no sense are complained about, with the way to the
help.
-/

namespace SqlInsert.CommandLine

/-- The commands. -/
inductive Command
  | dialects
  | recognize
deriving DecidableEq, Repr

namespace Command

/-- All commands in the order of their names. -/
def all : List Command := [.dialects, .recognize]

/-- The name of a command. -/
def name : Command → String
  | .dialects => "dialects"
  | .recognize => "recognize"

/-- What a command does. -/
def description : Command → String
  | .dialects => "List the dialects with an INSERT recognizer."
  | .recognize => "Recognize an INSERT statement."

/-- The command with a name. -/
def ofName? (name : String) : Option Command :=
  all.find? (·.name == name)

end Command

/-- The options of the program itself. -/
inductive ProgramOption
  | version
  | help
deriving DecidableEq, Repr

/-- The forms of the options of the program itself. -/
def programOptions : List (OptionForm ProgramOption) :=
  [⟨"--version", .switch, "Show the version and exit.", .version⟩,
    ⟨"--help", .switch, helpText, .help⟩]

/-- The only option of the list of dialects. -/
def dialectsOptions : List (OptionForm Unit) :=
  [⟨"--help", .switch, helpText, ()⟩]

/-- How options present themselves in the help. -/
def optionEntries {α : Type} (forms : List (OptionForm α)) : List (String × String) :=
  forms.map fun form => (form.synopsis, form.help)

/-- How the program presents itself. -/
def programManual : Manual :=
  ⟨"[OPTIONS] COMMAND [ARGS]...",
    "SQL Recognizer - Extract table, columns and value rows from INSERT statements.",
    optionEntries programOptions,
    Command.all.map fun command => (command.name, command.description)⟩

/-- How a command presents itself. -/
def Command.manual (command : Command) : Manual :=
  ⟨"[OPTIONS]", command.description,
    match command with
    | .dialects => optionEntries dialectsOptions
    | .recognize => optionEntries RecognizeOption.optionForms, []⟩

/-- The line about the version. -/
def versionText : String := "sql-recognizer, version 1.0.0\n"

/-- Where a program runs. -/
structure Surroundings where
  /-- The name by which the program was called. -/
  programName : String
  /-- The columns of the console. -/
  columns : Nat
  /-- The width of the help. -/
  helpWidth : Nat

/-- The greatest width of the help on a console of any width. -/
def helpWidthLimit : Nat := 80

/-- The least width of the help. -/
def leastHelpWidth : Nat := 50

/-- The width of the help on a console with so many columns. -/
def helpWidthFor (columns : Nat) : Nat :=
  max (min columns helpWidthLimit - 2) leastHelpWidth

namespace Surroundings

/-- The path by which a command is called. -/
def path (surroundings : Surroundings) (command : Command) : String :=
  surroundings.programName ++ " " ++ command.name

/-- The help of the program, with a status. -/
def programHelp (surroundings : Surroundings) (status : Nat) : Response :=
  .quiet ⟨programManual.help surroundings.helpWidth surroundings.programName, status, none⟩

/-- The help of a command. -/
def commandHelp (surroundings : Surroundings) (command : Command) : Response :=
  .quiet ⟨command.manual.help surroundings.helpWidth (surroundings.path command),
    Ending.success, none⟩

/-- A complaint about the arguments of the program. -/
def programMisuse (surroundings : Surroundings) (error : UsageError) : Response :=
  .quiet ⟨error.text programManual surroundings.programName, Ending.misuse, none⟩

/-- A complaint about the arguments of a command. -/
def commandMisuse (surroundings : Surroundings) (command : Command) (error : UsageError) :
    Response :=
  .quiet ⟨error.text command.manual (surroundings.path command), Ending.misuse, none⟩

/-- What an option of the program itself does. -/
def programOption (surroundings : Surroundings) : ProgramOption → Response
  | .version => .quiet ⟨versionText, Ending.success, none⟩
  | .help => surroundings.programHelp Ending.success

/-- The list of dialects. -/
def listDialects (surroundings : Surroundings) (arguments : List String) : Response :=
  match Arguments.read dialectsOptions true arguments with
  | .error error => surroundings.commandMisuse .dialects (.arguments error)
  | .ok ⟨_ :: _, _⟩ => surroundings.commandHelp .dialects
  | .ok ⟨[], []⟩ =>
    .quiet ⟨String.join (Dialect.all.map (·.key ++ "\n")), Ending.success, none⟩
  | .ok ⟨[], extra⟩ => surroundings.commandMisuse .dialects (.extraArguments extra)

/-- The recognition of a statement. -/
def recognizeStatement {m : Type → Type} [Monad m] (surroundings : Surroundings)
    (files : FileAccess m) (arguments : List String) : m Response :=
  match Arguments.read RecognizeOption.optionForms true arguments with
  | .error error => pure (surroundings.commandMisuse .recognize (.arguments error))
  | .ok found =>
    if found.meanings.contains .help then pure (surroundings.commandHelp .recognize)
    else do
      let isPresent ← match (found.values .file).getLast? with
        | some path => files.isPresent path
        | none => pure false
      match Request.ofArguments found isPresent with
      | .error (.usage error) => return surroundings.commandMisuse .recognize error
      | .error .impossiblePath => return .quiet (.interrupted "" .impossiblePath)
      | .ok request => CommandLine.recognize files surroundings.columns request

/-- The entry about a command that starts. -/
def startEntry : Entry :=
  ⟨"sql_recognizer.cli", .info, "SQL Recognizer CLI started", false⟩

/-- A command with its arguments. -/
def command {m : Type → Type} [Monad m] (surroundings : Surroundings) (files : FileAccess m)
    (arguments : List String) : Command → m Response
  | .dialects => pure ((surroundings.listDialects arguments).after [startEntry])
  | .recognize => do
    return (← surroundings.recognizeStatement files arguments).after [startEntry]

/-- The complaint about a name that no command has. If it looks like an option it is taken for one
first. -/
def unknownCommand (surroundings : Surroundings) (name : String) (rest : List String) : Response :=
  match Arguments.read programOptions false (name :: rest) with
  | .error error => surroundings.programMisuse (.arguments error)
  | .ok ⟨given :: _, _⟩ => surroundings.programOption given.meaning
  | .ok ⟨[], _⟩ =>
    surroundings.programMisuse
      (.unknownCommand name (similarNames (Command.all.map (·.name)) name))

/-- The program with its arguments. -/
def run {m : Type → Type} [Monad m] (surroundings : Surroundings) (files : FileAccess m)
    (arguments : List String) : m Response :=
  if arguments.isEmpty then pure (surroundings.programHelp Ending.misuse)
  else
    match Arguments.read programOptions false arguments with
    | .error error => pure (surroundings.programMisuse (.arguments error))
    | .ok ⟨given :: _, _⟩ => pure (surroundings.programOption given.meaning)
    | .ok ⟨[], []⟩ => pure (surroundings.programMisuse .missingCommand)
    | .ok ⟨[], name :: rest⟩ =>
      match Command.ofName? name with
      | some command => surroundings.command files rest command
      | none => pure (surroundings.unknownCommand name rest)

end Surroundings

/-- The name of the program. -/
def programName : String := "sql-recognizer"

/-- The source of the entries about a session. -/
def sessionSource : String := "sql_recognizer.main"

/-- A session with the program on a console with so many columns. -/
def session {m : Type → Type} [Monad m] (columns : Nat) (files : FileAccess m)
    (arguments : List String) : m Response := do
  let response ← Surroundings.run ⟨programName, columns, helpWidthFor columns⟩ files arguments
  return {
    entries := ⟨sessionSource, .info, "SQL Recognizer starting", false⟩ :: response.entries ++
      [⟨sessionSource, .info, "SQL Recognizer session ended", false⟩],
    ending := response.ending }

end SqlInsert.CommandLine
