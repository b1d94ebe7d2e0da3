import SqlInsert.Recognition.Resolve
import SqlInsert.Render.Node
import SqlInsert.Text.Lines
import SqlInsert.Tree.Outline
/-!
# Questions to an insertion

The names of an insertion, and what can be asked of a statement.
-/

namespace SqlInsert

/-! ## Names in an insert statement

The name of the target table, an alias, and names without their quotes. A table is named by its parts
as written; a part is left out only where the tree has none. -/

namespace Tree

/-- The parts of a table's name as written, between points, without its alias. -/
def tableName (grammar : Grammar) (table : Tree) : String :=
  let parts := ["catalog", "db", "this"].map table.slot
  ".".intercalate ((parts.filter (·.isGiven)).map (·.sql grammar))

/-- A text, unless it is empty. -/
def nonempty? (text : String) : Option String :=
  if text = "" then none else some text

/-- The text of an alias that is given as a node or as a plain item. -/
def aliasText? (grammar : Grammar) (content : Tree) : Option String :=
  match content with
  | .null => none
  | .node kind slots comments => nonempty? ((Tree.node kind slots comments).sql grammar)
  | .text value => nonempty? value
  | item => nonempty? item.outline

/-- The alias that a node carries. -/
def alias? (grammar : Grammar) (tree : Tree) : Option String :=
  let content := tree.slot "alias"
  if content.isA .tableAlias then aliasText? grammar (content.slot "this")
  else aliasText? grammar content

end Tree

/-- A part of a name without the quotes around it. Quotes count only where both ends have the
same. -/
def unescapedPart (escapes : List Char) (part : List Char) : List Char :=
  match part with
  | first :: second :: rest =>
    if escapes.contains first && (second :: rest).getLast? == some first then
      (second :: rest).dropLast
    else part
  | _ => part

/-- A name, which may have several parts, without the quotes around them. -/
def unescapedName (escapes : List Char) (name : String) : String :=
  if escapes.isEmpty then name
  else
    String.ofList (['.'].intercalate
      ((Text.splitAt (· == '.') name.toList).map (unescapedPart escapes)))

/-! ## Insert statements

What a statement tree says about an insertion: the target table and its alias, the columns, the rows
of values, and the columns that are assigned when a key exists already. Each question is answered on
its own and fails on its own. -/

/-- The text of a statement, its dialect, and its tree. -/
structure Statement where
  dialect : Dialect
  /-- The text as it was given. -/
  sql : String
  tree : Tree

namespace Statement

/-- The source of the entries made here. -/
def source : String := "sql_recognizer.recognizers.insert"

/-- A failure of recognition. -/
def refuse {α : Type} (error : RecognitionError) : Logged Failure α :=
  .fail (.recognition error)

/-- The grammar of the statement's dialect. -/
def grammar (statement : Statement) : Grammar :=
  statement.dialect.grammar

/-- The root of the tree, if it is an insert statement. -/
def root (statement : Statement) : Except RecognitionError Tree :=
  if statement.tree.isA .insert then .ok statement.tree else .error (.notInsert statement.tree)

/-- The target with its column list. -/
def target (statement : Statement) : Except RecognitionError Tree :=
  statement.root.map (·.slot "this")

/-- The target table. -/
def table (statement : Statement) : Except RecognitionError Tree := do
  let target ← statement.target
  let table := if target.isA .schema then target.slot "this" else target
  if table.isA .table then return table else throw (.unrecognized table .target)

/-- The entries of the column list; it follows the target or the alias of the table. -/
def columnNodes (statement : Statement) : Except RecognitionError (List Tree) := do
  let target ← statement.target
  if target.isA .schema then return target.itemsAt "expressions"
  else
    let given := (← statement.table).slot "alias"
    return if given.isA .tableAlias then given.itemsAt "columns" else []

/-- The list of values that the rows come from. -/
def values (statement : Statement) : Except RecognitionError Tree := do
  let source := (← statement.root).slot "expression"
  if source.isA .values then return source else throw (.notValues source)

/-- The tuples among the items of a list of values, all of which have to be tuples. -/
def tuples : List (Step × Tree) → Except RecognitionError (List (Step × Tree))
  | [] => .ok []
  | (step, item) :: rest =>
    if item.isA .tuple then (tuples rest).map ((step, item) :: ·)
    else .error (.unrecognized item .values)

/-- The name of the target table as written. -/
def tableName (statement : Statement) : Except RecognitionError String :=
  statement.table.map (·.tableName statement.grammar)

/-- The alias of the statement, or else of its table. -/
def tableAlias (statement : Statement) : Except RecognitionError (Option String) := do
  match (← statement.root).alias? statement.grammar with
  | some given => return some given
  | none => return (← statement.table).alias? statement.grammar

/-- Whether there is no column list. -/
def hasNoColumns (statement : Statement) : Except RecognitionError Bool :=
  statement.columnNodes.map (·.isEmpty)

/-- An entry about a node that is no name. -/
def misplaced (tree : Tree) (position : Position) : Entry :=
  ⟨source, .error, "Unexpected " ++ tree.className ++ " in " ++ position.text, false⟩

/-- The names of nodes as written, all of which have to be plain references. -/
def names (grammar : Grammar) (position : Position) : List Tree → Logged Failure (List String)
  | [] => .ok []
  | tree :: rest =>
    if tree.kind?.any Kind.isName then do
      let others ← names grammar position rest
      return tree.sql grammar :: others
    else ⟨[misplaced tree position], .error (.recognition (.unrecognized tree position))⟩

/-- The column list as written; nothing where there is none. -/
def columns (statement : Statement) : Logged Failure (Option (List String)) :=
  match statement.columnNodes with
  | .error error => refuse error
  | .ok [] => .ok none
  | .ok nodes => do
    let columns ← names statement.grammar .columnList nodes
    .note source .debug ("INSERT columns: " ++ Text.quotedList columns)
    return some columns

/-- The column list without quotes. -/
def unescapedColumns (statement : Statement) : Logged Failure (Option (List String)) := do
  let columns ← statement.columns
  return columns.map (·.map (unescapedName statement.dialect.escapeChars))

/-- The values of the elements of one row. -/
def rowValues (grammar : Grammar) (ordinals : Ordinals) :
    List (Place × Tree) → Logged Failure Row
  | [] => .ok []
  | (place, tree) :: rest => do
    let value ← resolveAt grammar ordinals place tree
    let others ← rowValues grammar ordinals rest
    return value :: others

/-- The elements of a tuple with their places below the list of values. -/
def elements (step : Step) (tuple : Tree) : List (Place × Tree) :=
  (tuple.itemSteps "expressions").map fun (below, tree) => ([step, below], tree)

/-- The values of all rows. -/
def rowsValues (grammar : Grammar) (ordinals : Ordinals) :
    List (Step × Tree) → Logged Failure (List Row)
  | [] => .ok []
  | (step, tuple) :: rest => do
    let row ← rowValues grammar ordinals (elements step tuple)
    let others ← rowsValues grammar ordinals rest
    return row :: others

/-- The rows of a list of values, with the ordinals of its bind parameters. -/
def resolveRows (grammar : Grammar) (values : Tree) (ordinals : Ordinals) :
    Logged Failure (List Row) :=
  match tuples (values.itemSteps "expressions") with
  | .ok found => rowsValues grammar ordinals found
  | .error error => refuse error

/-- The entry about rows that could not be recognized. -/
def rowsReport : Failure → Option Entry
  | .recognition error =>
    some ⟨source, .error, "INSERT row extraction failed: " ++ error.message, true⟩
  | _ => none

/-- A list of positions between square brackets. -/
def positionsText (positions : List Int) : String :=
  "[" ++ ", ".intercalate (positions.map Number.integerText) ++ "]"

/-- One row of values for each tuple, in the order of the statement. The positions of primary keys
are noted and have no influence. -/
def rows (statement : Statement) (keyPositions : List Int) : Logged Failure (List Row) := do
  .note source .debug
    ("Extracting INSERT rows (primary key positions: " ++ positionsText keyPositions ++ ")")
  match statement.values with
  | .error error => refuse error
  | .ok values =>
    match values.ordinals with
    | .error error => .fail (.conversion error)
    | .ok ordinals => do
      let rows ← (resolveRows statement.grammar values ordinals).reporting rowsReport
      .note source .debug
        ("Extracted " ++ Number.integerText rows.length ++ " INSERT rows")
      return rows

/-- The elements of each tuple as SQL text between commas. -/
def parameterTexts (statement : Statement) : Except RecognitionError (List String) := do
  let values ← statement.values
  let found ← tuples (values.itemSteps "expressions")
  return found.map fun (_, tuple) =>
    ", ".intercalate ((tuple.itemsAt "expressions").map (·.sql statement.grammar))

/-- What is assigned: the left side of an assignment, or the node itself. -/
def assignedNode (tree : Tree) : Tree :=
  if tree.isA (.binary .equal) then tree.slot "this" else tree

/-- The columns that are assigned where a key exists already; nothing without such a clause. -/
def duplicateKeyUpdate (statement : Statement) : Logged Failure (Option (List String)) :=
  match statement.root with
  | .error error => refuse error
  | .ok root =>
    let conflict := root.slot "conflict"
    if conflict.isA .onConflict && (conflict.slot "duplicate").isGiven then do
      let columns ← names statement.grammar .duplicateKeyUpdate
        ((conflict.itemsAt "expressions").map assignedNode)
      return some columns
    else .ok none

end Statement

end SqlInsert
