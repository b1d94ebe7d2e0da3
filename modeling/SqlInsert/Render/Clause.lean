import SqlInsert.Dialect
import SqlInsert.Number.Basic
import SqlInsert.Render.Part
import SqlInsert.Text.Character
/-!
# Operators and clauses

The text of operators and of the clauses of a statement, written without recursion over the tree: what stands
for the children is given.
-/

namespace SqlInsert.Document

/-! ## Paths into documents

A path leads from the root of a document to one of its parts, by keys and by places in lists. Its text
may begin with a dollar sign for the root. A key stands behind a point, in brackets or alone; a place
stands in brackets. -/

/-- A step from a part of a document to a part of that. -/
inductive Step
  | key (name : String)
  | place (index : Int)
deriving DecidableEq, Repr

/-- The characters that end a key without quotes. -/
def keyEnds : List Char := "()[]:,-.?@'\"$*".toList

/-- Whether a text may be a key without quotes: no word of it begins with a digit. -/
def isPlainKey : List Char → Bool
  | [] => false
  | first :: rest => !Text.isBlank first && !first.isDigit && wordsArePlain rest
where
  /-- Whether no word behind a blank begins with a digit. -/
  wordsArePlain : List Char → Bool
    | c :: d :: rest => !(Text.isBlank c && d.isDigit) && wordsArePlain (d :: rest)
    | _ => true

/-- A text up to a quote, and what follows the quote; a backslash keeps the quote behind it. -/
def upToQuote (quote : Char) : List Char → Option (List Char × List Char)
  | [] => none
  | '\\' :: c :: rest =>
    (upToQuote quote rest).map fun (text, after) =>
      (if c = quote ∨ c = '\\' then c :: text else '\\' :: c :: text, after)
  | c :: rest =>
    if c = quote then some ([], rest)
    else (upToQuote quote rest).map fun (text, after) => (c :: text, after)

/-- A key at the front of a text, and what follows it. -/
def keyAt? : List Char → Option (Step × List Char)
  | '"' :: rest => (upToQuote '"' rest).map fun (name, after) => (.key (String.ofList name), after)
  | text =>
    let name := text.takeWhile fun c => !keyEnds.contains c
    if isPlainKey name then some (.key (String.ofList name), text.drop name.length) else none

/-- The place that a text of digits, possibly with a minus sign, stands for. -/
def placeOf? (text : List Char) : Option Int :=
  if text.all fun c => c.isDigit || c = '-' then (String.ofList text).toInt? else none

/-- What stands between brackets at the front of a text, behind the first of them. -/
def bracketAt? : List Char → Option (Step × List Char)
  | '\'' :: rest => closedBy (upToQuote '\'' rest)
  | '"' :: rest => closedBy (upToQuote '"' rest)
  | text =>
    let digits := text.takeWhile (· ≠ ']')
    match placeOf? digits, text.drop digits.length with
    | some index, ']' :: after => some (.place index, after)
    | _, _ => none
where
  /-- A key that a bracket closes. -/
  closedBy : Option (List Char × List Char) → Option (Step × List Char)
    | some (name, ']' :: after) => some (.key (String.ofList name), after)
    | _ => none

/-- A step at the front of a text, and what follows it. -/
def stepAt? : List Char → Option (Step × List Char)
  | '.' :: rest | ':' :: rest => keyAt? rest
  | '[' :: rest => bracketAt? rest
  | text => keyAt? text

/-- The steps of a text; none if it is no path. The fuel bounds the number of steps. -/
def stepsFrom : Nat → List Char → Option (List Step)
  | _, [] => some []
  | 0, _ => none
  | fuel + 1, text =>
    match stepAt? text with
    | some (step, rest) => (stepsFrom fuel rest).map (step :: ·)
    | none => none

/-- The steps of a path; none if the text is no path. -/
def steps? (path : String) : Option (List Step) :=
  match path.toList with
  | '$' :: rest => stepsFrom rest.length rest
  | text => stepsFrom text.length text

end SqlInsert.Document

namespace SqlInsert

/-! ## Operators in SQL

An operator with two operands is written between them, and its comments stand behind its sign. Some
operators are calls of a function in one of the grammars. -/

/-- The spelling of a binary operator between blanks. -/
def BinaryOperator.sql (grammar : Grammar) : BinaryOperator → String
  | .add => "+"
  | .subtract => "-"
  | .multiply => "*"
  | .divide => "/"
  | .modulo => "%"
  | .integerDivide => "DIV"
  | .power => "^"
  | .conjunction => "AND"
  | .disjunction => "OR"
  | .exclusive => "XOR"
  | .equal => "="
  | .notEqual => "<>"
  | .nullSafeEqual => if grammar = .mysql then "<=>" else "IS NOT DISTINCT FROM"
  | .nullSafeNotEqual => if grammar = .mysql then "<=>" else "IS DISTINCT FROM"
  | .greater => ">"
  | .greaterEqual => ">="
  | .less => "<"
  | .lessEqual => "<="
  | .identity => "IS"
  | .similarity => "LIKE"
  | .caselessSimilarity => "ILIKE"
  | .similarTo => "SIMILAR TO"
  | .glob => "GLOB"
  | .escape => "ESCAPE"
  | .patternMatch => "~"
  | .caselessPatternMatch => "~*"
  | .concatenation => "||"
  | .collation => "COLLATE"
  | .member => "."
  | .bitAnd => "&"
  | .bitOr => "|"
  | .bitXor => if grammar = .mysql then "^" else "#"
  | .shiftLeft => "<<"
  | .shiftRight => ">>"
  | .assignment => ":="
  | .namedArgument => "=>"
  | .jsonExtract => "->"
  | .jsonExtractScalar => "->>"
  | .pathExtract => "#>"
  | .pathExtractScalar => "#>>"
  | .pathDelete => "#-"
  | .hasKey => "?"
  | .hasAllKeys => "?&"
  | .hasAnyKey => "?|"
  | .containsAll => "@>"
  | .sharesElements => "&&"
  | .overlap => "OVERLAPS"
  | .distance => "<->"
  | .adjacent => "-|-"
  | .extendsLeft => "&<"
  | .extendsRight => "&>"

namespace Render

/-- A call with its arguments. -/
def call (name : String) (arguments : List String) : String :=
  name ++ "(" ++ ", ".intercalate arguments ++ ")"

/-- The texts of the first two slots of a binary operator with a sign between them. -/
def between (sign : String) (comments : List String) (parts : Parts) : String :=
  parts.text "this" ++ " " ++ commentsBehind comments sign ++ " " ++ parts.text "expression"

/-- A step into a document, as the operand of an arrow. -/
def documentStep : Document.Step → String
  | .key name => "'" ++ name ++ "'"
  | .place index => Number.integerText index

/-- The steps of a constant that is a path into a document; a number is one place. -/
def documentSteps? (path : Tree) : Option (List Document.Step) :=
  if path.isTextLiteral then Document.steps? path.nameText
  else if path.isNumberLiteral then path.nameText.toNat?.map fun index => [.place index]
  else none

/-- A part of a document behind an arrow for each step. What is no constant path is an argument of the
function that does the same. -/
def documentPart (arrow name : String) (parts : Parts) : String :=
  let steps := if parts.isGiven "only_json_types" then
      (parts.get? "expression").bind fun path => documentSteps? path.tree
    else none
  match steps with
  | some steps => (" " ++ arrow ++ " ").intercalate (parts.text "this" :: steps.map documentStep)
  | none => call name (parts.arguments ["this", "expression", "expressions"])

/-- An operator with two operands. -/
def binary (grammar : Grammar) (operator : BinaryOperator) (comments : List String)
    (parts : Parts) : String :=
  let left := parts.text "this"
  let right := parts.text "expression"
  let plain := between (operator.sql grammar) comments parts
  let negated := parts.isGiven "negate"
  match operator, grammar with
  | .member, _ => left ++ "." ++ right
  | .similarity, _ => between (if negated then "NOT LIKE" else "LIKE") comments parts
  | .caselessSimilarity, .postgres => between (if negated then "NOT ILIKE" else "ILIKE") comments parts
  | .caselessSimilarity, .mysql => call "LOWER" [left] ++ " LIKE " ++ call "LOWER" [right]
  | .exclusive, .postgres =>
    "(" ++ left ++ " AND (NOT " ++ right ++ ")) OR ((NOT " ++ left ++ ") AND " ++ right ++ ")"
  | .integerDivide, .postgres => call "DIV" [left, right]
  | .power, .mysql => call "POWER" [left, right]
  | .nullSafeNotEqual, .mysql => "NOT " ++ plain
  | .patternMatch, .mysql => call "REGEXP_LIKE" (parts.arguments ["this", "expression", "flag"])
  | .caselessPatternMatch, .mysql => call "REGEXP_ILIKE" [left, right]
  | .jsonExtract, .mysql =>
    call "JSON_EXTRACT" (parts.arguments ["this", "expression", "expressions"])
  | .jsonExtract, .postgres => documentPart "->" "JSON_EXTRACT_PATH" parts
  | .jsonExtractScalar, .postgres => documentPart "->>" "JSON_EXTRACT_PATH_TEXT" parts
  | _, _ => plain

/-- An operator with one operand. A blank keeps two minus signs apart. -/
def unary (operator : UnaryOperator) (parts : Parts) : String :=
  let operand := parts.text "this"
  match operator with
  | .negation => "NOT " ++ operand
  | .bitNot => "~" ++ operand
  | .parentheses => "(" ++ operand ++ ")"
  | .minus => (if operand.toList.head? = some '-' then "- " else "-") ++ operand

end Render

end SqlInsert

namespace SqlInsert.Render

/-! ## Queries and their clauses

A clause is written with a blank in front, because its comments stand before that blank. A query is
its clauses one behind the other. -/

/-- A sort key. Where missing values sort against the grammar's custom this is said, or a further
sort key says it. -/
def ordered (grammar : Grammar) (parts : Parts) : String :=
  let key := parts.text "this"
  let descending := parts.isGiven "desc"
  let firstNulls := parts.isGiven "nulls_first"
  let direction := if descending then " DESC" else if (parts.get? "desc").isSome then " ASC" else ""
  match grammar with
  | .mysql =>
    if firstNulls = descending then
      let direct := if descending then " DESC" else ""
      "CASE WHEN " ++ key ++ " IS NULL THEN 1 ELSE 0 END" ++ direct ++ ", " ++ key ++ direction
    else key ++ direction
  | .postgres =>
    if firstNulls = descending then key ++ direction
    else key ++ direction ++ (if firstNulls then " NULLS FIRST" else " NULLS LAST")

/-- A table behind the ones before it, with what stands between. Tables that nothing is said about
are separated by commas. -/
def joined (parts : Parts) : String :=
  let words := (["method", "side", "kind"].map parts.text).filter (· != "")
  let shared := parts.commaList "using"
  let condition :=
    if parts.text "on" ≠ "" then " ON " ++ parts.text "on"
    else if shared ≠ "" then " USING (" ++ shared ++ ")"
    else ""
  if words.isEmpty ∧ condition = "" then ", " ++ parts.text "this"
  else
    let words := if words = ["STRAIGHT_JOIN"] then words else words ++ ["JOIN"]
    " " ++ " ".intercalate words ++ " " ++ parts.text "this" ++ condition

/-- The slots of the clauses behind the tables of a query, in their order. -/
def clauseSlots : List String := ["where", "group", "having", "order", "limit", "offset"]

/-- A text with named queries in front of it. -/
def withNamedQueries (parts : Parts) (text : String) : String :=
  let queries := parts.text "with_"
  if queries = "" then text else queries ++ " " ++ text

/-- A lock on rows: for changes or against them, and whether and how long it waits. -/
def lock (parts : Parts) : String :=
  let key := parts.isGiven "key"
  let words := if parts.isGiven "update" then
      if key then "FOR NO KEY UPDATE" else "FOR UPDATE"
    else if key then "FOR KEY SHARE" else "FOR SHARE"
  let wait := match (parts.get? "wait").map fun part => (part.tree, part.text) with
    | none => ""
    | some (.flag true, _) => " NOWAIT"
    | some (.flag false, _) => " SKIP LOCKED"
    | some (_, text) => " WAIT " ++ text
  words ++ clause " OF " (parts.commaList "expressions") ++ wait

/-- A text with the clauses of a query behind it. -/
def withClauses (parts : Parts) (text : String) : String :=
  text ++ String.join (clauseSlots.map parts.text) ++
    String.join ((parts.items "locks").map fun part => " " ++ part.text)

/-- A query with its clauses. -/
def select (parts : Parts) : String :=
  withClauses parts
    ("SELECT" ++ clause " " (parts.text "distinct") ++ clause " " (parts.commaList "expressions") ++
      parts.text "from_" ++ String.join ((parts.items "joins").map (·.text)))

/-- Two queries with a set operation between them, which has its comments in front. -/
def setOperation (word : String) (comments : List String) (parts : Parts) : String :=
  let all := match (parts.get? "distinct").map (·.tree) with
    | some (.flag false) => " ALL"
    | _ => ""
  withClauses parts
    (parts.text "this" ++ commentsInFront comments (" " ++ word ++ all) ++ " " ++
      parts.text "expression")

/-- The text of a clause without the blank in front of it. -/
def bareClause (text : String) : String :=
  String.ofList (text.toList.dropWhile (· = ' '))

/-- A range of rows. It ends with the current row if nothing else is said. -/
def rowRange (parts : Parts) : String :=
  let side (slot : String) : String :=
    " ".intercalate ([parts.text slot, parts.text (slot ++ "_side")].filter (· != ""))
  let last := if side "end" = "" then "CURRENT ROW" else side "end"
  parts.text "kind" ++ " BETWEEN " ++ side "start" ++ " AND " ++ last

/-- Rows in a window: a function over the rows that share keys, in an order and a range. -/
def window (parts : Parts) : String :=
  let keys := clause "PARTITION BY " (parts.commaList "partition_by")
  let name := parts.text "alias"
  let details := [keys, bareClause (parts.text "order"), parts.text "spec"].filter (· != "")
  parts.text "this" ++ " OVER " ++
    if details.isEmpty ∧ name ≠ "" then name
    else "(" ++ " ".intercalate ((if name = "" then [] else [name]) ++ details) ++ ")"

/-- Whether a part is a query without parentheses. -/
def isBareQuery (part : Part) : Bool :=
  part.tree.isA .select || setOperationNames.any fun name => part.tree.isA (.other name)

/-- Any of the values of an array or of a query. -/
def anyOf (parts : Parts) : String :=
  let value := parts.text "this"
  match parts.get? "this" with
  | some part =>
    if isBareQuery part then "ANY(" ++ value ++ ")"
    else if part.tree.isA (.unary .parentheses) then "ANY" ++ value
    else "ANY " ++ value
  | none => "ANY "

/-- All of the values of an array or of a query. -/
def allOf (parts : Parts) : String :=
  let value := parts.text "this"
  let isEnclosed := (parts.get? "this").any fun part =>
    part.tree.isA (.unary .parentheses) || part.tree.isA .tuple
  "ALL " ++ if isEnclosed then value else "(" ++ value ++ ")"

/-- The text of a node of a kind that only has a name, if there is a rule for it. -/
def named? (grammar : Grammar) (name : String) (comments : List String) (parts : Parts) :
    Option String :=
  let value := parts.text "this"
  let operand := if (parts.get? "expression").isSome then parts.text "expression" else value
  match name with
  | "Union" => some (withNamedQueries parts (setOperation "UNION" comments parts))
  | "Except" => some (withNamedQueries parts (setOperation "EXCEPT" comments parts))
  | "Intersect" => some (withNamedQueries parts (setOperation "INTERSECT" comments parts))
  | "From" => some (" FROM " ++ value)
  | "Where" => some (" WHERE " ++ value)
  | "Group" => some (" GROUP BY " ++ parts.commaList "expressions")
  | "Having" => some (" HAVING " ++ value)
  | "Order" => some ((if value = "" then " " else value ++ " ") ++ "ORDER BY " ++
      parts.commaList "expressions")
  | "Limit" => some (" LIMIT " ++ operand)
  | "Offset" => some (" OFFSET " ++ operand)
  | "Join" => some (joined parts)
  | "With" => some ("WITH " ++ (if parts.isGiven "recursive" then "RECURSIVE " else "") ++
      parts.commaList "expressions")
  | "CTE" => some (parts.text "alias" ++ " AS (" ++ value ++ ")")
  | "Window" => some (window parts)
  | "WindowSpec" => some (rowRange parts)
  | "WithinGroup" => some (value ++ " WITHIN GROUP (" ++ bareClause (parts.text "expression") ++ ")")
  | "Filter" => some (value ++ " FILTER(" ++ bareClause (parts.text "expression") ++ ")")
  | "Lock" => some (lock parts)
  | "IntervalSpan" => some (value ++ " TO " ++ parts.text "expression")
  | "ObjectIdentifier" => some value
  | "Lambda" => some (parts.commaList "expressions" ++ " -> " ++ value)
  | "Aliases" => some (value ++ " AS (" ++ parts.commaList "expressions" ++ ")")
  | "Any" => some (anyOf parts)
  | "All" => some (allOf parts)
  | "Slice" => some (value ++ " : " ++ parts.text "expression")
  | "JSONKeyValue" => some (value ++ (if grammar = .mysql then "," else ":") ++ " " ++
      parts.text "expression")
  | "CharacterSet" => some ("CHAR CHARACTER SET " ++ value)
  | _ => none

end SqlInsert.Render
