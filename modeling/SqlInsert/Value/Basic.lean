import SqlInsert.Calendar.Basic
import SqlInsert.Number.Basic
import SqlInsert.Text.Lines
import SqlInsert.Json.Basic
/-!
# Values of a row

An element of a row is a constant, an explicit null, a bind parameter, or an expression that is kept
as text. A value has a short form for display and a form for JSON, in which a constant that JSON
cannot express is given as text.
-/

namespace SqlInsert

/-- A constant of a statement. -/
inductive Constant
  | text (value : String)
  | int (value : Int)
  | flag (value : Bool)
  | decimal (value : Number.Decimal)
  | date (value : Calendar.Date)
  | time (value : Calendar.Time)
  | dateTime (value : Calendar.DateTime)

/-- The sorts of elements that are told apart in a row. -/
inductive ValueKind
  | literal
  | null
  | placeholder
  | expression
  | unrecognized
deriving DecidableEq, Repr

/-- A resolved element of a row. -/
inductive Value
  | literal (constant : Constant)
  | null
  /-- A bind parameter with its ordinal from zero and its name. -/
  | placeholder (index : Int) (name : Option String)
  /-- An expression as SQL text, and the name of its kind. -/
  | expression (text : String) (kindName : String)

/-- The elements of one row. -/
abbrev Row := List Value

/-- The name of a sort of element. -/
def ValueKind.key : ValueKind → String
  | .literal => "LITERAL"
  | .null => "NULL"
  | .placeholder => "PLACEHOLDER"
  | .expression => "OPAQUE"
  | .unrecognized => "UNRECOGNIZED"

/-- The sort of a resolved element. -/
def Value.kind : Value → ValueKind
  | .literal _ => .literal
  | .null => .null
  | .placeholder _ _ => .placeholder
  | .expression _ _ => .expression

namespace Constant

/-- The short form of a constant: a text is quoted, a number is not, and a blank stands between a
date and a time. -/
def display : Constant → Except Number.WritingError String
  | .text value => .ok (Text.quoted value)
  | .int value => Number.writeInteger value
  | .flag value => .ok (if value then "True" else "False")
  | .decimal value => .ok value.text
  | .date value => .ok value.text
  | .time value => .ok value.text
  | .dateTime value => .ok (String.ofList (value.chars ' '))

/-- The JSON form of a constant. -/
def json : Constant → Json
  | .text value => .text value
  | .int value => .int value
  | .flag value => .bool value
  | .decimal value => .text value.text
  | .date value => .text value.text
  | .time value => .text value.text
  | .dateTime value => .text value.text

end Constant

namespace Value

/-- The short form of a value. -/
def display : Value → Except Number.WritingError String
  | .literal constant => constant.display
  | .null => .ok "NULL"
  | .placeholder index none => (Number.writeInteger index).map ("?" ++ ·)
  | .placeholder _ (some name) => .ok (":" ++ name)
  | .expression text _ => .ok text

/-- The JSON form of a value: its sort first, then what it holds. A parameter without a name has no
member for it. -/
def json (value : Value) : Json :=
  .object (("kind", .text value.kind.key) ::
    match value with
    | .literal constant => [("value", constant.json)]
    | .null => []
    | .placeholder index name =>
      ("index", .int index) :: name.toList.map fun name => ("name", .text name)
    | .expression text kindName => [("text", .text text), ("node_type", .text kindName)])

end Value

end SqlInsert
