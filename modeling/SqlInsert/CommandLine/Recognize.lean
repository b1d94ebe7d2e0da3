import SqlInsert.CommandLine.Request
import SqlInsert.CommandLine.Ending
import SqlInsert.Insert.Acceptance
import SqlInsert.Journal.Setup
/-!
# The command that recognizes a statement

The statement is given or read from a file, looked at, recognized, and told in the form that was asked
for. A statement that is not recognized still has a result, which tells what went wrong. A result goes
to a file only in JSON form; nothing is written before its text is complete.
-/

namespace SqlInsert.CommandLine

/-- The source of the entries of the command. -/
def recognizeSource : String := "sql_recognizer.cli.recognize"

/-- Where a statement comes from. -/
inductive Origin
  | text (sql : String)
  | file (path : String)

/-- Where a result goes. -/
inductive Delivery
  /-- It is printed. -/
  | printed (report : Console.Printed)
  /-- It is written to a file. -/
  | stored (path text : String)

section

variable {α : Type}

/-- The end by a complaint, with an entry about it. -/
def refuse (columns : Nat) (entry complaint : String) : Logged Ending α :=
  ⟨[⟨recognizeSource, .error, entry, false⟩], .error (.complaint columns complaint)⟩

/-- The end by an interruption before anything was printed. -/
def interrupt (interruption : Interruption) : Logged Ending α :=
  .fail (.interrupted "" interruption)

end

/-- The text of a report, if all of it was printed. -/
def printedText (report : Console.Printed) : Logged Ending String :=
  match report.failure with
  | none => .ok report.text
  | some error => .fail (.interrupted report.text (.report error))

namespace Request

/-- Where the statement comes from: either the text or the file must be given. -/
def origin (columns : Nat) (request : Request) : Logged Ending Origin :=
  match Journal.nonempty? request.sql, Journal.nonempty? request.file with
  | none, none =>
    refuse columns "No input provided: must specify either --sql or --file"
      "Must provide either --sql or --file"
  | some _, some _ =>
    refuse columns "Invalid input: both --sql and --file specified"
      "Cannot specify both --sql and --file"
  | some sql, none => .ok (.text sql)
  | none, some path => .ok (.file path)

/-- The dialect that was asked for. -/
def chosenDialect (columns : Nat) (request : Request) : Logged Ending Dialect :=
  match Dialect.ofKey? (Text.lower request.dialect) with
  | some dialect => .ok dialect
  | none =>
    let message := (refusedDialect? (Dialect.all.map (·.key)) (some request.dialect)).getD ""
    refuse columns ("Invalid dialect: " ++ message) message

/-- What is decided before anything is read. -/
def opening (columns : Nat) (request : Request) : Logged Ending (Origin × Dialect) := do
  .note recognizeSource .info
    ("Starting recognition - dialect: " ++ request.dialect ++ ", format: " ++ request.form.name)
  let origin ← request.origin columns
  let dialect ← request.chosenDialect columns
  return (origin, dialect)

end Request

/-- The text of a statement. Lines of a file end with a line feed, however they are ended there. -/
def Origin.read {m : Type → Type} [Monad m] (files : FileAccess m) :
    Origin → m (Logged Ending String)
  | .text sql => pure (.ok sql)
  | .file path => do
    match ← files.read path with
    | .error fault => return interrupt (.file path fault)
    | .ok bytes =>
      match Text.decode bytes with
      | .error error => return interrupt (.encoding error)
      | .ok sql =>
        return ⟨[⟨recognizeSource, .info, "Read statement from file: " ++ path, false⟩],
          .ok (String.ofList (Text.plainFeeds sql))⟩

/-- The tree of a text that holds one insert statement, with a way to read its pieces. -/
def acceptedTreeBy (read : Sql.PieceReader) (columns : Nat) (dialect : Dialect) (sql : String) :
    Logged Ending Tree := do
  match refusedTextBy? read dialect.grammar sql with
  | some refusal => refuse columns ("Invalid SQL input: " ++ refusal.message) refusal.message
  | none =>
    let tree ← (readStatementBy read dialect.grammar sql).mapError fun error =>
      Ending.complaint columns error.message
    match refusedStatement? tree with
    | some message => refuse columns ("Invalid statement: " ++ message) message
    | none => return tree

/-- The tree of a text that holds one insert statement. -/
def acceptedTree (columns : Nat) (dialect : Dialect) (sql : String) : Logged Ending Tree :=
  acceptedTreeBy (Sql.readStatement dialect.grammar) columns dialect sql

/-- The result about a statement. -/
def resultOf (statement : Statement) (keyPositions : List Int) : Logged Ending Recognition :=
  let attempt := statement.recognize keyPositions
  match attempt.outcome with
  | .ok result => ⟨attempt.entries, .ok result⟩
  | .error (.recognition error) =>
    ⟨attempt.entries ++
        [⟨recognizeSource, .error, "Recognition failed: " ++ error.message, false⟩],
      .ok (.ofError statement.sql statement.dialect.key error.message)⟩
  | .error (.conversion error) =>
    ⟨attempt.entries, .error (.interrupted "" (.conversion error))⟩
  | .error .unnumbered => ⟨attempt.entries, .error (.interrupted "" .unnumbered)⟩

/-- The indentation of a result in JSON form. -/
def jsonIndent : Nat := 2

/-- Where a result goes. -/
def deliveryOf (columns : Nat) (request : Request) (result : Recognition) :
    Logged Ending Delivery :=
  match request.form with
  | .console => .ok (.printed (Console.report .full columns result))
  | .compact => .ok (.printed (Console.report .compact columns result))
  | .json =>
    match result.json.write (some jsonIndent) with
    | .error error => interrupt (.report (.writing error))
    | .ok text =>
      match Journal.nonempty? request.outputFile with
      | some path => .ok (.stored path text)
      | none => .ok (.printed ⟨text ++ "\n", none⟩)

/-- What a text gives: a result, and where it goes. -/
def answer (columns : Nat) (request : Request) (dialect : Dialect) (sql : String) :
    Logged Ending (Recognition × Delivery) := do
  let tree ← acceptedTree columns dialect sql
  let result ← resultOf ⟨dialect, sql, tree⟩ request.keyPositions
  let delivery ← deliveryOf columns request result
  return (result, delivery)

/-- What is printed when a result went where it should. -/
def Delivery.carryOut {m : Type → Type} [Monad m] (files : FileAccess m) (columns : Nat) :
    Delivery → m (Logged Ending String)
  | .printed report => pure (printedText report)
  | .stored path text => do
    match ← files.write path text with
    | .error fault =>
      let message := fault.message path
      return refuse columns ("Failed to write output file " ++ path ++ ": " ++ message)
        ("Failed to write output file: " ++ message)
    | .ok () =>
      return do
        .note recognizeSource .info ("Results written to file: " ++ path)
        printedText (Console.print columns
          [Console.markupBlock columns ("[green]Results written to:[/green] " ++ path)])

/-- The end behind a result that was told: its errors make it a failure. -/
def conclude (result : Recognition) (output : String) : Logged Ending Ending :=
  if result.hasErrors then do
    .note recognizeSource .warning
      ("Recognition completed with errors: " ++ Text.quotedList result.errors)
    return ⟨output, Ending.failure, none⟩
  else do
    .note recognizeSource .info "Recognition completed successfully"
    return ⟨output, Ending.success, none⟩

/-- The command, on a console with so many columns. -/
def recognize {m : Type → Type} [Monad m] (files : FileAccess m) (columns : Nat)
    (request : Request) : m Response := do
  let calculation ← (request.opening columns).followedBy fun (origin, dialect) => do
    (← origin.read files).followedBy fun sql =>
      (answer columns request dialect sql).followedBy fun (result, delivery) => do
        return (← delivery.carryOut files columns).andThen (conclude result)
  return .ofLogged calculation

end SqlInsert.CommandLine
