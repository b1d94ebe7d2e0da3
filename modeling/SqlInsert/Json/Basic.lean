import SqlInsert.Number.Basic
import SqlInsert.Text.Lines
/-!
# JSON

A result is given out as a JSON value whose objects keep the order of their members. The writer
puts everything on one line, or each item on a line of its own, indented by depth. It fails only on
an integer that is too long to be written.
-/

namespace SqlInsert

/-- A JSON value without fractions. -/
inductive Json
  | null
  | bool (value : Bool)
  | int (value : Int)
  | text (value : String)
  | list (items : List Json)
  | object (members : List (String × Json))

namespace Json

/-- A text, or nothing. -/
def ofText? : Option String → Json
  | none => .null
  | some value => .text value

/-- A list of texts. -/
def ofTexts (values : List String) : Json :=
  .list (values.map .text)

/-- A list of texts, or nothing. -/
def ofTexts? : Option (List String) → Json
  | none => .null
  | some values => ofTexts values

/-- One character of a JSON string. All but quotes, backslashes and control characters stands for
itself. -/
def escapeChar (c : Char) : List Char :=
  match c.toNat with
  | 0x22 => ['\\', '"']
  | 0x5C => ['\\', '\\']
  | 0x08 => ['\\', 'b']
  | 0x09 => ['\\', 't']
  | 0x0A => ['\\', 'n']
  | 0x0C => ['\\', 'f']
  | 0x0D => ['\\', 'r']
  | n => if n < 0x20 then '\\' :: 'u' :: Text.hexDigits 4 n else [c]

/-- The characters of a JSON string. -/
def stringChars (value : String) : List Char :=
  '"' :: value.toList.flatMap escapeChar ++ ['"']

/-- A line break and blanks to a depth; nothing where all stands on one line. -/
def lineBreak (indent : Option Nat) (depth : Nat) : List Char :=
  match indent with
  | none => []
  | some width => '\n' :: List.replicate (width * depth) ' '

/-- What stands between two items. -/
def separator (indent : Option Nat) (depth : Nat) : List Char :=
  match indent with
  | none => [',', ' ']
  | some _ => ',' :: lineBreak indent depth

/-- Written items between brackets. -/
def enclose (indent : Option Nat) (depth : Nat) (first last : Char) : List (List Char) → List Char
  | [] => [first, last]
  | items =>
    first :: lineBreak indent (depth + 1) ++
      (separator indent (depth + 1)).intercalate items ++ lineBreak indent depth ++ [last]

mutual

/-- The characters of a value at a depth. -/
def charsAt (indent : Option Nat) (depth : Nat) : Json → Except Number.WritingError (List Char)
  | .null => .ok "null".toList
  | .bool value => .ok (if value then "true" else "false").toList
  | .int value => (Number.writeInteger value).map (·.toList)
  | .text value => .ok (stringChars value)
  | .list items => (itemChars indent (depth + 1) items).map (enclose indent depth '[' ']')
  | .object members =>
    (memberChars indent (depth + 1) members).map (enclose indent depth (Char.ofNat 123) (Char.ofNat 125))

/-- The characters of each item. -/
def itemChars (indent : Option Nat) (depth : Nat) :
    List Json → Except Number.WritingError (List (List Char))
  | [] => .ok []
  | item :: rest => do
    let first ← charsAt indent depth item
    let others ← itemChars indent depth rest
    return first :: others

/-- The characters of each member. -/
def memberChars (indent : Option Nat) (depth : Nat) :
    List (String × Json) → Except Number.WritingError (List (List Char))
  | [] => .ok []
  | (name, value) :: rest => do
    let first ← charsAt indent depth value
    let others ← memberChars indent depth rest
    return (stringChars name ++ ':' :: ' ' :: first) :: others

end

/-- The text of a value, on one line or indented by a width. -/
def write (indent : Option Nat) (value : Json) : Except Number.WritingError String :=
  (charsAt indent 0 value).map String.ofList

end Json

end SqlInsert
