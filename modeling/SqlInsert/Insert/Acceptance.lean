import SqlInsert.Sql.Statement
import SqlInsert.Journal.Basic
import SqlInsert.Number.Basic
/-!
# What is accepted

A text is accepted if it holds exactly one statement, a statement if it is an insertion, and a
dialect if it is one of those supported. A refusal has a cause and a wording. The reading of a
statement keeps a journal.
-/

namespace SqlInsert

/-- Why a text is not accepted. -/
inductive TextRefusal
  | notText
  | blank
  | tooLong
  | unreadable (error : Sql.ReadError)
  /-- The number of statements is not one. -/
  | miscounted (count : Nat)
deriving DecidableEq, Repr

/-- The greatest number of characters of a text. -/
def textLengthLimit : Nat := 1000000

/-- The wording of a refused text. -/
def TextRefusal.message : TextRefusal → String
  | .notText => "SQL statement must be a string"
  | .blank => "SQL statement cannot be empty"
  | .tooLong => "SQL statement is too large (max 1MB)"
  | .unreadable error => error.message
  | .miscounted count =>
    "Expected exactly one statement, found " ++ Number.integerText count

/-- Why a text is refused, if it is, with a way to read its pieces. The number of statements is that of the
entries that hold one. -/
def refusedTextBy? (read : Sql.PieceReader) (grammar : Grammar) (text : String) : Option TextRefusal :=
  if text.all Text.isBlank then some .blank
  else if textLengthLimit < text.length then some .tooLong
  else
    match Sql.entriesBy read grammar text with
    | .error error => some (.unreadable error)
    | .ok entries =>
      let count := (entries.filter Option.isSome).length
      if count = 1 then none else some (.miscounted count)

/-- Why a text is refused, if it is. -/
def refusedText? (grammar : Grammar) (text : String) : Option TextRefusal :=
  refusedTextBy? (Sql.readStatement grammar) grammar text

/-- Why a value is refused as a text, if it is. -/
def refusedInput? (grammar : Grammar) (input : Option String) : Option TextRefusal :=
  match input with
  | none => some .notText
  | some text => refusedText? grammar text

/-- Why a statement is refused, if it is. -/
def refusedStatement? (tree : Tree) : Option String :=
  if tree.isA .insert then none
  else some ("Only INSERT statements can be recognized, got " ++ Text.upper tree.className)

/-- Why the name of a dialect is refused, if it is. The case of letters makes no difference. -/
def refusedDialect? (supported : List String) (name : Option String) : Option String :=
  match name.filter (· ≠ "") with
  | none => some "Dialect cannot be empty"
  | some name =>
    let known := supported.map Text.lower
    if known.contains (Text.lower name) then none
    else
      let shown := (known.eraseDups.mergeSort fun a b => !(b < a))
      some ("Unsupported dialect '" ++ name ++ "'. Supported: " ++ ", ".intercalate shown)

/-- The source of the entries about reading. -/
def readingSource : String := "sql_recognizer.utils.sqlglot_helpers"

/-- The entry about a text that cannot be read. -/
def readingReport (error : Sql.ReadError) : Option Entry :=
  some ⟨readingSource, .error, error.message, false⟩

/-- The statement of a text that is meant to hold one, with a way to read its pieces and with a journal. -/
def readStatementBy (read : Sql.PieceReader) (grammar : Grammar) (text : String) : Logged Sql.ReadError Tree := do
  .note readingSource .debug ("Parsing SQL with dialect " ++ grammar.key)
  (Logged.ofExcept (Sql.firstBy read grammar text)).reporting readingReport

/-- The statement of a text that is meant to hold one, with a journal. -/
def readStatement (grammar : Grammar) (text : String) : Logged Sql.ReadError Tree :=
  readStatementBy (Sql.readStatement grammar) grammar text

end SqlInsert
