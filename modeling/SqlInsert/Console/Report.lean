import SqlInsert.Console.Markup
import SqlInsert.Console.Frame
import SqlInsert.Insert.Recognition
/-!
# Reports on the console

A result is shown in blocks: the statement, then what went wrong, or else the target and the rows.
The compact form has one line for the statement and one for each row. A block that cannot be shown
ends the report; the blocks before it have been printed.
-/

namespace SqlInsert.Console

/-- Why a block cannot be shown. -/
inductive ReportError
  | markup (error : MarkupError)
  | writing (error : Number.WritingError)
deriving DecidableEq, Repr

/-- The wording of a failure. -/
def ReportError.message : ReportError → String
  | .markup error => error.message
  | .writing error => error.message

/-- What was printed, and what ended it early. -/
structure Printed where
  text : String
  failure : Option ReportError

/-- A block of lines, or why it cannot be shown. -/
abbrev Block := Except ReportError (List (List Char))

/-- What a console with so many columns prints of lines; without columns nothing. -/
def printLines (columns : Nat) (lines : List (List Char)) : String :=
  if columns = 0 then ""
  else String.join (lines.map fun line => String.ofList (cropped columns line ++ ['\n']))

/-- Blocks printed one after the other up to the first that fails. -/
def print (columns : Nat) : List Block → Printed
  | [] => ⟨"", none⟩
  | .ok lines :: rest =>
    let after := print columns rest
    ⟨printLines columns lines ++ after.text, after.failure⟩
  | .error error :: _ => ⟨"", some error⟩

/-- What a text with tags shows. -/
def shown (text : String) : Except ReportError (List Char) :=
  (shownMarkup text.toList).mapError .markup

/-- What a text with tags shows in so many cells. Without any it is not looked at. -/
def shownIn (cells : Nat) (text : String) : Except ReportError (List Char) :=
  if cells = 0 then .ok [] else shown text

/-- A text with tags, wrapped. -/
def markupBlock (columns : Nat) (text : String) : Block :=
  (shown text).map (wrap .fold columns)

/-- A text without tags, wrapped. -/
def plainBlock (columns : Nat) (text : String) : Block :=
  .ok (wrap .fold columns (shownChars text.toList))

/-- How much of a statement is shown. -/
def statementLength : Nat := 100

/-- The start of a statement, marked where it goes on. -/
def statementStart (sql : String) : String :=
  String.ofList (sql.toList.take statementLength) ++
    if statementLength < sql.length then "..." else ""

/-- The cells for the text of a panel on a console with so many columns. -/
def panelRoom (columns : Nat) : Nat :=
  cellsInside (columns - 2)

/-- The panel about the statement. -/
def headerBlock (columns : Nat) (result : Recognition) : Block := do
  let text ← shownIn (panelRoom columns)
    ("[bold]Statement:[/bold] " ++ statementStart result.sql ++ "\n" ++
      "[bold]Dialect:[/bold] " ++ result.dialect ++ "\n" ++
      "[bold]Type:[/bold] " ++ result.sqlType)
  return panel .fit columns "SQL Recognition Results".toList text

/-- The panel about what went wrong. -/
def errorsBlock (columns : Nat) (result : Recognition) : Block := do
  let text ← shownIn (panelRoom columns) ("\n".intercalate (result.errors.map ("• " ++ ·)))
  return panel .full columns "Errors".toList text

/-- What is shown where there is nothing. -/
def missing : String := "N/A"

/-- A text, or what is shown instead of an empty one. -/
def orMissing (text : String) : String :=
  if text = "" then missing else text

/-- The properties of the target with their values. -/
def targetProperties (result : Recognition) : List (String × String) :=
  [("Table", orMissing (result.tableName.getD "")),
    ("Alias", orMissing (result.tableAlias.getD "")),
    ("Columns", match result.columns with
      | some columns => ", ".intercalate columns
      | none => "[dim](all columns)[/dim]"),
    ("Primary key positions",
      orMissing (", ".intercalate (result.keyPositions.map Number.integerText)))] ++
    match result.duplicateKeyUpdate with
    | some columns => [("On duplicate key update", ", ".intercalate columns)]
    | none => []

/-- A property as a row of the table about the target, with at most so many cells for its value. -/
def targetRow (cells : Nat) (property : String × String) :
    Except ReportError (List (List Char)) := do
  return [property.1.toList, ← shownIn cells property.2]

/-- The heads of the table about the target. -/
def targetHeads : List (List Char) :=
  ["Property".toList, "Value".toList]

/-- The cells that a value in the table about the target may fill at most. -/
def targetRoom (columns : Nat) : Nat :=
  cellsInside (tableRoom columns targetHeads.length)

/-- The table about the target. -/
def targetBlock (columns : Nat) (result : Recognition) : Block := do
  let rows ← (targetProperties result).mapM (targetRow (targetRoom columns))
  return Table.lines columns ⟨"Target".toList, targetHeads, rows⟩

/-- The heads of the columns: their names if there is one for each, else their numbers. -/
def rowHeads (result : Recognition) (count : Nat) : List String :=
  let numbers := (List.range count).map fun (index : Nat) => "#" ++ Number.integerText index
  match result.columns with
  | some columns => if columns ≠ [] ∧ columns.length = count then columns else numbers
  | none => numbers

/-- The columns of a table, each a list of cells from its head down, turned into rows. -/
def rowsOfColumns (columns : List (List (List Char))) (count : Nat) : List (List (List Char)) :=
  (List.range count).map fun index => columns.filterMap (·[index]?)

/-- The short forms of the values of a row. -/
def displayRow (row : Row) : Except ReportError (List String) :=
  (row.mapM Value.display).mapError .writing

/-- The table about the rows. Cells are looked at column by column. -/
def rowsTable (columns : Nat) (result : Recognition) : Block := do
  let count := (result.rows.map (·.length)).foldl max 0
  let rows ← result.rows.mapM displayRow
  let numbers := (List.range rows.length).map fun (index : Nat) => Number.integerText index
  let heads := rowHeads result count
  let cells ← (heads.zipIdx).mapM fun (head, index) =>
    (head :: rows.map fun row => (row[index]?).getD "").mapM fun cell =>
      (shownMarkup (escapeMarkup cell.toList)).mapError ReportError.markup
  let all := rowsOfColumns (("Row" :: numbers).map (·.toList) :: cells) (rows.length + 1)
  return Table.lines columns ⟨"Rows".toList, all.headD [], all.tail⟩

/-- The block about the rows. -/
def rowsBlock (columns : Nat) (result : Recognition) : Block :=
  if result.rows.isEmpty then markupBlock columns "  [dim]No rows found[/dim]"
  else rowsTable columns result

/-- The full report, behind an empty line. -/
def fullBlocks (columns : Nat) (result : Recognition) : List Block :=
  .ok [[]] :: headerBlock columns result ::
    if result.hasErrors then [errorsBlock columns result]
    else [targetBlock columns result, rowsBlock columns result]

/-- The line about a row in the compact report. -/
def compactRow (columns : Nat) (row : Row) : Block := do
  let values ← displayRow row
  plainBlock columns ("  (" ++ ", ".intercalate values ++ ")")

/-- The compact report. -/
def compactBlocks (columns : Nat) (result : Recognition) : List Block :=
  if result.hasErrors then
    [markupBlock columns ("[red]Error:[/red] " ++ "; ".intercalate result.errors)]
  else
    let names := match result.columns with
      | some names => " (" ++ ", ".intercalate names ++ ")"
      | none => ""
    markupBlock columns
        ("[bold]" ++ result.sqlType ++ "[/bold] " ++ result.tableName.getD "None" ++ names) ::
      result.rows.map (compactRow columns)

/-- The forms of a report. -/
inductive ReportStyle
  | full
  | compact
deriving DecidableEq, Repr

/-- A report on a result for a console with so many columns. -/
def report (style : ReportStyle) (columns : Nat) (result : Recognition) : Printed :=
  print columns (match style with
    | .full => fullBlocks columns result
    | .compact => compactBlocks columns result)

end SqlInsert.Console
