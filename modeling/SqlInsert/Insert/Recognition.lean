import SqlInsert.Insert.Statement
/-!
# Recognizing an insert statement

All questions about an insert statement are asked in a fixed order and the answers collected; the
first failure ends the recognition. The collected answers have a JSON form.
-/

namespace SqlInsert

/-- The categories of statements. -/
def statementTypes : List String :=
  ["SELECT", "INSERT", "UPDATE", "DELETE", "SELECT_FOR_UPDATE", "REPLACE", "TRUNCATE", "CREATE",
    "DROP", "LOAD", "MERGE", "ALTER", "INSERT_ON_DUPLICATE_UPDATE", "INSERT_IGNORE", "MULTI_UPDATE",
    "MULTI_DELETE"]

/-- What is said of a name that is no category. -/
def unknownTypeText (name : String) : String :=
  Text.quoted name ++ " is not a valid SQLType"

/-- The category of an insert statement. -/
def insertType : String := "INSERT"

/-- What is known about one insert statement. -/
structure Recognition where
  /-- The text of the statement. -/
  sql : String
  /-- The key of its dialect. -/
  dialect : String
  /-- Its category. -/
  sqlType : String
  tableName : Option String
  tableAlias : Option String
  /-- The column list; nothing where the statement has none. -/
  columns : Option (List String)
  rows : List Row
  /-- The positions of primary keys as they were asked for. -/
  keyPositions : List Int
  /-- The columns assigned where a key exists already; nothing without such a clause. -/
  duplicateKeyUpdate : Option (List String)
  /-- What went wrong. -/
  errors : List String

namespace Recognition

/-- A result that tells only what went wrong. -/
def ofError (sql dialect message : String) : Recognition :=
  ⟨sql, dialect, insertType, none, none, none, [], [], none, [message]⟩

/-- Whether something went wrong. -/
def hasErrors (result : Recognition) : Bool :=
  !result.errors.isEmpty

/-- The JSON form of a result. -/
def json (result : Recognition) : Json :=
  .object [
    ("sql", .text result.sql),
    ("dialect", .text result.dialect),
    ("sql_type", .text result.sqlType),
    ("table_name", .ofText? result.tableName),
    ("table_alias", .ofText? result.tableAlias),
    ("insert_columns", .ofTexts? result.columns),
    ("insert_rows", .list (result.rows.map fun row => .list (row.map Value.json))),
    ("primary_key_positions", .list (result.keyPositions.map .int)),
    ("duplicate_key_update", .ofTexts? result.duplicateKeyUpdate),
    ("errors", .ofTexts result.errors)]

end Recognition

namespace Statement

/-- How much of a statement an entry shows. -/
def shownLength : Nat := 200

/-- The start of a statement, marked where it goes on. -/
def shownStart (sql : String) : String :=
  if shownLength < sql.length then String.ofList (sql.toList.take shownLength) ++ "..." else sql

/-- An answer that may fail only because the statement is not recognized. -/
def answer {α : Type} (outcome : Except RecognitionError α) : Logged Failure α :=
  .ofExcept (outcome.mapError .recognition)

/-- All that is known about the statement. -/
def recognize (statement : Statement) (keyPositions : List Int) : Logged Failure Recognition := do
  .note source .info
    ("Recognizing INSERT statement (length: " ++ Number.integerText statement.sql.length ++ ")")
  .note source .debug ("INSERT SQL: " ++ shownStart statement.sql)
  let tableName ← answer statement.tableName
  let tableAlias ← answer statement.tableAlias
  let columns ← statement.columns
  let rows ← statement.rows keyPositions
  let duplicateKeyUpdate ← statement.duplicateKeyUpdate
  .note source .info
    ("INSERT recognition completed - table: " ++ tableName ++ ", " ++
      Number.integerText rows.length ++ " rows")
  return {
    sql := statement.sql, dialect := statement.dialect.key, sqlType := insertType,
    tableName := some tableName, tableAlias, columns, rows, keyPositions, duplicateKeyUpdate,
    errors := [] }

end Statement

end SqlInsert
