import SqlInsert.Number.Basic
import SqlInsert.Render.Clause
import SqlInsert.Render.Part
import SqlInsert.Render.Function
/-!
# Rendering trees as SQL

A node is rendered from the texts of its parts; no parentheses are added around operands. The text of
a node of each kind comes first, and the walk over the tree, which puts the comments of the nodes
beside their texts, is the last definition.
-/

namespace SqlInsert.Render

/-- The data types without negative numbers, with those that a word makes of them. -/
def unsignedTypes : List (String × String) :=
  ["BIGINT", "INT", "MEDIUMINT", "SMALLINT", "TINYINT", "DECIMAL", "DOUBLE"].map fun type =>
    ("U" ++ type, type)

/-- A data type with its parameters, where the name is written in some way. -/
def sizedType (grammar : Grammar) (name shown parameters : String) : String :=
  if parameters = "" then
    if grammar = .mysql ∧ shown = "VARCHAR" then "TEXT" else shown
  else if grammar = .postgres ∧ (name = "DOUBLE" ∨ name = "FLOAT") then
    "FLOAT(" ++ parameters ++ ")"
  else shown ++ "(" ++ parameters ++ ")"

/-- A data type with its parameters. -/
def dataType (grammar : Grammar) (inCast : Bool) (parts : Parts) : String :=
  let name := parts.text "this"
  let shown := if inCast then castTypeText grammar name else typeText grammar name
  let parameters := parts.commaList "expressions"
  if grammar = .postgres ∧ name = "ARRAY" ∧ parameters ≠ "" then
    parameters ++ "[" ++ parts.commaList "values" ++ "]"
  else if name = "ARRAY" ∧ parameters ≠ "" then "ARRAY<" ++ parameters ++ ">"
  else
    match grammar, unsignedTypes.lookup shown with
    | .mysql, some signed => sizedType grammar name signed parameters ++ " UNSIGNED"
    | _, _ => sizedType grammar name shown parameters

/-- A cast. -/
def cast (grammar : Grammar) (parts : Parts) : String :=
  let operand := parts.text "this"
  let target := ((parts.get? "to").map (·.slots)).getD []
  if isStampType grammar (Parts.text target "this") then call "TIMESTAMP" [operand]
  else
    let type := match parts.get? "to" with
      | some part => if part.tree.isA .dataType then dataType grammar true target else part.text
      | none => ""
    "CAST(" ++ operand ++ " AS " ++ type ++ ")"

/-- A text constant with a prefix; the grammar that lacks a prefix writes the constant without. -/
def prefixedText (grammar : Grammar) (form : TextPrefix) (parts : Parts) : String :=
  let text := parts.text "this"
  match form, grammar with
  | .national, _ => "N" ++ String.ofList (constantChars grammar text)
  | .byte, .mysql => text
  | .byte, .postgres => String.ofList (markedChars text)
  | .unicode, .mysql => "'" ++ text ++ "'"
  | .unicode, .postgres =>
    "U&" ++ String.ofList (enclosed '\'' text.toList) ++ clause " UESCAPE " (parts.text "escape")
  | .raw, _ => String.ofList (constantChars grammar text)

/-- A bind parameter. -/
def placeholder (grammar : Grammar) (tree : Tree) : String :=
  let name := tree.nameText
  if (tree.slot "jdbc").isGiven then "?"
  else
    match grammar with
    | .mysql => if (tree.slot "this").isGiven then ":" ++ name else "?"
    | .postgres => if (tree.slot "this").isGiven then "%(" ++ name ++ ")s" else "%s"

/-- The index that a number constant stands for, possibly with a minus sign. -/
def index? (tree : Tree) : Option Int :=
  let digits (tree : Tree) : Option Nat :=
    if tree.isNumberLiteral then tree.nameText.toNat? else none
  if tree.isA (.unary .minus) then (digits (tree.slot "this")).map fun index => -(index : Int)
  else (digits tree).map fun index => (index : Int)

/-- An item of a bracket: an index counts from zero in the tree and from one in the text. -/
def bracketItem (grammar : Grammar) (item : Part) : String :=
  match grammar, index? item.tree with
  | .postgres, some index => Number.integerText (index + 1)
  | _, _ => item.text

/-- The elements of an array that a bracket chooses. An array that is written out needs parentheses in
one grammar. -/
def bracket (grammar : Grammar) (parts : Parts) : String :=
  let isArray := (parts.get? "this").any (·.tree.isA (.call .array))
  let value := parts.text "this"
  let items := match parts.items "expressions" with
    | [item] => bracketItem grammar item
    | items => ", ".intercalate (items.map (·.text))
  (if grammar = .postgres ∧ isArray = true then "(" ++ value ++ ")" else value) ++ "[" ++ items ++ "]"

/-- A value between two bounds. The bounds may be given in either order; one grammar has a word for
that. -/
def betweenBounds (grammar : Grammar) (parts : Parts) : String :=
  let value := parts.text "this"
  let within (word low high : String) : String :=
    value ++ " BETWEEN" ++ word ++ " " ++ low ++ " AND " ++ high
  let low := parts.text "low"
  let high := parts.text "high"
  match grammar, parts.get? "symmetric" with
  | _, none => within "" low high
  | .mysql, some symmetric =>
    if symmetric.tree.isGiven then "(" ++ within "" low high ++ " OR " ++ within "" high low ++ ")"
    else within "" low high
  | .postgres, some symmetric =>
    within (if symmetric.tree.isGiven then " SYMMETRIC" else " ASYMMETRIC") low high

/-- Different values only. Where one value alone may be told apart, several make a tuple, and rows with a
missing value do not count. -/
def distinctValues (grammar : Grammar) (parts : Parts) : String :=
  let values := (parts.items "expressions").map (·.text)
  let list := parts.commaList "expressions"
  let shown := match grammar, values with
    | .postgres, _ :: _ :: _ =>
      "CASE" ++ String.join (values.map fun value => " WHEN " ++ value ++ " IS NULL THEN NULL") ++
        " ELSE (" ++ list ++ ") END"
    | _, _ => list
  "DISTINCT" ++ clause " " shown ++ clause " ON " (parts.text "on")

/-- The text of a node from its rendered slots. -/
def node (grammar : Grammar) (kind : Kind) (tree : Tree) (parts : Parts) : String :=
  match kind with
  | .binary operator => binary grammar operator tree.comments parts
  | .unary operator => unary operator parts
  | .call callee => function grammar callee parts
  | .cast _ => cast grammar parts
  | .prefixedText form => prefixedText grammar form parts
  | .prefixedDigits .hex => "x'" ++ parts.text "this" ++ "'"
  | .prefixedDigits .bit => "b'" ++ parts.text "this" ++ "'"
  | .literal =>
    if tree.isTextLiteral then String.ofList (constantChars grammar (parts.text "this"))
    else parts.text "this"
  | .null => "NULL"
  | .boolean => if parts.isGiven "this" then "TRUE" else "FALSE"
  | .star => "*"
  | .placeholder => placeholder grammar tree
  | .parameter => (if grammar = .mysql then "@" else "$") ++ parts.text "this"
  | .sessionParameter =>
    "@@" ++ (if parts.isGiven "kind" then parts.text "kind" ++ "." else "") ++ parts.text "this"
  | .introducer => parts.text "this" ++ " " ++ parts.text "expression"
  | .column => parts.pointed ["catalog", "db", "table", "this"]
  | .identifier =>
    String.ofList (nameChars grammar (parts.isGiven "quoted") (parts.text "this"))
  | .variable => parts.text "this"
  | .interval => interval grammar parts
  | .subquery =>
    withNamedQueries parts
      (withClauses parts ("(" ++ parts.text "this" ++ ")" ++ clause " AS " (parts.text "alias")))
  | .dataType => dataType grammar false parts
  | .dataTypeParameter => parts.text "this" ++ clause " " (parts.text "expression")
  | .aliased => parts.text "this" ++ clause " AS " (parts.text "alias")
  | .atTimeZone =>
    if grammar = .mysql then parts.text "this"
    else parts.text "this" ++ " AT TIME ZONE " ++ parts.text "zone"
  | .between => betweenBounds grammar parts
  | .bracket => bracket grammar parts
  | .distinct => distinctValues grammar parts
  | .membership =>
    parts.text "this" ++ " IN " ++
      (if parts.isGiven "query" then parts.text "query"
       else if parts.isGiven "field" then parts.text "field"
       else "(" ++ parts.commaList "expressions" ++ ")")
  | .ordered => ordered grammar parts
  | .select => withNamedQueries parts (select parts)
  | .table => parts.pointed ["catalog", "db", "this"] ++ clause " AS " (parts.text "alias")
  | .tableAlias =>
    let columns := parts.commaList "columns"
    parts.text "this" ++ (if columns = "" then "" else "(" ++ columns ++ ")")
  | .schema =>
    let columns := parts.commaList "expressions"
    let columns := if columns = "" then "" else "(" ++ columns ++ ")"
    " ".intercalate ([parts.text "this", columns].filter (· != ""))
  | .tuple => "(" ++ parts.commaList "expressions" ++ ")"
  | .values =>
    "VALUES " ++ parts.commaList "expressions" ++ clause " AS " (parts.text "alias")
  | .insert => clause "INSERT INTO " (parts.text "this") ++ clause " " (parts.text "expression")
  | .onConflict => "ON CONFLICT"
  | .other name =>
    (named? grammar name tree.comments parts).getD
      (call (Text.upper name) (parts.arguments (parts.map (·.1))))

mutual

/-- A tree with its text and its rendered parts. -/
def part (grammar : Grammar) : Tree → Part
  | .null => ⟨.null, "", [], []⟩
  | .flag value => ⟨.flag value, if value then "True" else "False", [], []⟩
  | .int value => ⟨.int value, Number.integerText value, [], []⟩
  | .text value => ⟨.text value, value, [], []⟩
  | .typeName name => ⟨.typeName name, name, [], []⟩
  | .list items => ⟨.list items, "", [], itemParts grammar items⟩
  | .node kind slots comments =>
    let parts := slotParts grammar slots
    let text := node grammar kind (.node kind slots comments) parts
    ⟨.node kind slots comments, commented kind comments text, parts, []⟩

/-- The items of a list with their texts. -/
def itemParts (grammar : Grammar) : List Tree → List Part
  | [] => []
  | item :: rest => part grammar item :: itemParts grammar rest

/-- The slots of a node with their texts. -/
def slotParts (grammar : Grammar) : List (String × Tree) → List (String × Part)
  | [] => []
  | (name, content) :: rest => (name, part grammar content) :: slotParts grammar rest

end

end SqlInsert.Render

namespace SqlInsert

/-- The SQL text of a tree, without blanks at the ends. -/
def Tree.sql (grammar : Grammar) (tree : Tree) : String :=
  Text.trim (Render.part grammar tree).text

end SqlInsert
