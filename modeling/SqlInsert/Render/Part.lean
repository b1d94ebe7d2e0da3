import SqlInsert.Dialect
import SqlInsert.Text.Case
import SqlInsert.Text.Character
import SqlInsert.Text.Lines
import SqlInsert.Tree.Basic
import SqlInsert.Tree.Kind
/-!
# Parts of a rendering

The pieces from which the text of a tree is put together: the arguments of a node, comments, intervals, quoted
names, reserved words and data types.
-/

namespace SqlInsert

/-! ## Rendered parts

The text of a node is put together from the texts of what its slots hold. A rendered part keeps the
tree it belongs to and its own parts, because some texts depend on what kind of node a part is or on
the parts of a part. -/

/-- A tree with its text and the rendered content of its slots or the rendered items of a list. -/
structure Part where
  /-- What was rendered. -/
  tree : Tree
  /-- Its text; a list has none. -/
  text : String
  /-- The rendered slots of a node. -/
  slots : List (String × Part)
  /-- The rendered items of a list. -/
  items : List Part

/-- The rendered slots of a node. -/
abbrev Parts := List (String × Part)

namespace Parts

/-- The rendered content of a slot that holds something. -/
def get? (parts : Parts) (name : String) : Option Part :=
  (parts.lookup name).filter fun part => !part.tree.isNull

/-- The text of a slot; empty if it holds nothing. -/
def text (parts : Parts) (name : String) : String :=
  ((parts.get? name).map (·.text)).getD ""

/-- The rendered items of a list slot. -/
def items (parts : Parts) (name : String) : List Part :=
  ((parts.get? name).map (·.items)).getD []

/-- Whether a slot's content counts as given. -/
def isGiven (parts : Parts) (name : String) : Bool :=
  (parts.get? name).any (·.tree.isGiven)

/-- The texts of a list slot between commas; items without text are left out. -/
def commaList (parts : Parts) (name : String) : String :=
  ", ".intercalate (((parts.items name).map (·.text)).filter (· != ""))

/-- The texts of the slots that hold something, between points. -/
def pointed (parts : Parts) (names : List String) : String :=
  ".".intercalate ((names.filterMap parts.get?).map (·.text))

/-- The texts of arguments: a list slot gives one for each item, a plain flag none. -/
def arguments (parts : Parts) (names : List String) : List String :=
  (names.filterMap parts.get?).flatMap fun part =>
    match part.tree with
    | .list _ => part.items.map (·.text)
    | .flag _ => []
    | _ => [part.text]

end Parts

/-- A word and a text behind it, nothing if the text is empty. -/
def clause (word text : String) : String :=
  if text = "" then "" else word ++ text

end SqlInsert

namespace SqlInsert.Render

/-! ## Comments in rendered text

The comments of a node are written as block comments beside its text: behind it, or in front of it for
statements and their clauses. An operator between two operands has them behind its own sign instead,
which is where its text is put together. The marks of a block comment are taken apart where they
stand inside a comment. -/

/-- A text with a blank between two characters wherever they stand side by side. -/
def takenApart (first second : Char) : List Char → List Char
  | [] => []
  | [c] => [c]
  | c :: d :: rest =>
    if c = first ∧ d = second then c :: ' ' :: d :: takenApart first second rest
    else c :: takenApart first second (d :: rest)

/-- A text with a blank in front, unless it begins with one. -/
def blankInFront (text : List Char) : List Char :=
  if (text.head?).all Text.isBlank then text else ' ' :: text

/-- A text with a blank behind it, unless it ends in one. -/
def blankBehind (text : List Char) : List Char :=
  if (text.getLast?).all Text.isBlank then text else text ++ [' ']

/-- The content of a comment as it is written. -/
def commentContent (comment : String) : List Char :=
  takenApart '/' '*' (takenApart '*' '/' (blankBehind (blankInFront comment.toList)))

/-- Comments one behind the other; empty ones are left out. -/
def commentsText (comments : List String) : String :=
  " ".intercalate ((comments.filter (· != "")).map fun comment =>
    "/*" ++ String.ofList (commentContent comment) ++ "*/")

/-- A text with comments behind it. -/
def commentsBehind (comments : List String) (text : String) : String :=
  let notes := commentsText comments
  if notes = "" then text else text ++ " " ++ notes

/-- A text with comments in front of it. -/
def commentsInFront (comments : List String) (text : String) : String :=
  let notes := commentsText comments
  if notes = "" then text
  else if (text.toList.head?).all Text.isBlank then " " ++ notes ++ text
  else notes ++ " " ++ text

/-- The kinds of set operations between queries. -/
def setOperationNames : List String := ["Union", "Except", "Intersect"]

/-- The kinds that have their comments in front, apart from queries and insertions. -/
def frontKindNames : List String :=
  ["Command", "Create", "Describe", "Delete", "Drop", "From", "Join", "Order", "Group", "Having",
    "Update", "Where", "With"]

/-- The text of a node of a kind with its comments. -/
def commented (kind : Kind) (comments : List String) (text : String) : String :=
  match kind with
  | .binary _ => text
  | .select | .insert => commentsInFront comments text
  | .other name =>
    if setOperationNames.contains name then text
    else if frontKindNames.contains name then commentsInFront comments text
    else commentsBehind comments text
  | _ => commentsBehind comments text

/-! ## Intervals of time

An interval is a value with a unit. One grammar writes them side by side and the unit in the singular,
the other within one text constant. -/

/-- The units of time with their plural. -/
def unitPlurals : List (String × String) :=
  ["MICROSECOND", "SECOND", "MINUTE", "HOUR", "DAY", "WEEK", "MONTH", "QUARTER", "YEAR"].map
    fun unit => (unit ++ "S", unit)

/-- The value within the text constant of an interval. -/
def intervalValue (value : Part) : String :=
  if value.tree.nameText = "" ∧ value.tree.isA .placeholder = true then "?" else value.tree.nameText

/-- The kinds of values that stand in an interval without parentheses. -/
def bareIntervalKinds : List Kind := [.literal, .column, .unary .minus, .unary .parentheses]

/-- An interval: a value and a unit, within one text constant where the grammar wants it so. A range of
units stays outside of it. -/
def interval (grammar : Grammar) (parts : Parts) : String :=
  let unit := Text.upper (parts.text "unit")
  match grammar with
  | .mysql =>
    let unit := clause " " ((unitPlurals.lookup unit).getD unit)
    match parts.get? "this" with
    | none => "INTERVAL" ++ unit
    | some value =>
      if value.text = "" then "INTERVAL" ++ unit
      else if bareIntervalKinds.any (value.tree.isA ·) then "INTERVAL " ++ value.text ++ unit
      else "INTERVAL (" ++ value.text ++ ")" ++ unit
  | .postgres =>
    let unit := clause " " unit
    let value := ((parts.get? "this").map intervalValue).getD ""
    let isRange := (parts.get? "unit").any (·.tree.isA (.other "IntervalSpan"))
    if value = "" then "INTERVAL" ++ unit
    else if isRange then "INTERVAL '" ++ value ++ "'" ++ unit
    else "INTERVAL '" ++ value ++ unit ++ "'"

/-! ## Reserved words

In the grammar that quotes names with the grave accent, a name that is a reserved word is quoted
wherever it is rendered. -/

/-- The reserved words in small letters. -/
def reservedWords : List String :=
  ["accessible", "add", "all", "alter", "analyze", "and", "as", "asc", "asensitive", "before",
   "between", "bigint", "binary", "blob", "both", "by", "call", "cascade", "case", "change",
   "char", "character", "check", "collate", "column", "condition", "constraint", "continue",
   "convert", "create", "cross", "cube", "cume_dist", "current_date", "current_time",
   "current_timestamp", "current_user", "cursor", "database", "databases", "day_hour",
   "day_microsecond", "day_minute", "day_second", "dec", "decimal", "declare", "default",
   "delayed", "delete", "dense_rank", "desc", "describe", "deterministic", "distinct",
   "distinctrow", "div", "double", "drop", "dual", "each", "else", "elseif", "empty", "enclosed",
   "escaped", "except", "exists", "exit", "explain", "false", "fetch", "first_value", "float",
   "float4", "float8", "for", "force", "foreign", "from", "fulltext", "function", "generated",
   "get", "grant", "group", "grouping", "groups", "having", "high_priority", "hour_microsecond",
   "hour_minute", "hour_second", "if", "ignore", "in", "index", "infile", "inner", "inout",
   "insensitive", "insert", "int", "int1", "int2", "int3", "int4", "int8", "integer", "intersect",
   "interval", "into", "io_after_gtids", "io_before_gtids", "is", "iterate", "join", "json_table",
   "key", "keys", "kill", "lag", "last_value", "lateral", "lead", "leading", "leave", "left",
   "like", "limit", "linear", "lines", "load", "localtime", "localtimestamp", "lock", "long",
   "longblob", "longtext", "loop", "low_priority", "master_bind", "master_ssl_verify_server_cert",
   "match", "maxvalue", "mediumblob", "mediumint", "mediumtext", "middleint", "minute_microsecond",
   "minute_second", "mod", "modifies", "natural", "no_write_to_binlog", "not", "nth_value",
   "ntile", "null", "numeric", "of", "on", "optimize", "optimizer_costs", "option", "optionally",
   "or", "order", "out", "outer", "outfile", "over", "partition", "percent_rank", "precision",
   "primary", "procedure", "purge", "range", "rank", "read", "read_write", "reads", "real",
   "recursive", "references", "regexp", "release", "rename", "repeat", "replace", "require",
   "resignal", "restrict", "return", "revoke", "right", "rlike", "row", "row_number", "rows",
   "schema", "schemas", "second_microsecond", "select", "sensitive", "separator", "set", "show",
   "signal", "smallint", "spatial", "specific", "sql", "sql_big_result", "sql_calc_found_rows",
   "sql_small_result", "sqlexception", "sqlstate", "sqlwarning", "ssl", "starting", "stored",
   "straight_join", "system", "table", "terminated", "then", "tinyblob", "tinyint", "tinytext",
   "to", "trailing", "trigger", "true", "undo", "union", "unique", "unlock", "unsigned", "update",
   "usage", "use", "using", "utc_date", "utc_time", "utc_timestamp", "values", "varbinary",
   "varchar", "varcharacter", "varying", "virtual", "when", "where", "while", "window", "with",
   "write", "xor", "year_month", "zerofill"]

/-- Whether a name in small letters is a reserved word. -/
def isReserved (name : String) : Bool :=
  reservedWords.contains name

/-! ## Quoting in SQL

Names and text constants stand between quotes, and a quote inside them is written twice. One grammar
also escapes the backslash and some control characters in text constants; the other does so only in
constants that are marked for it. -/

/-- A text with every occurrence of a character written twice. -/
def doubled (quote : Char) (text : List Char) : List Char :=
  text.flatMap fun c => if c = quote then [c, c] else [c]

/-- A text between quotes, quotes inside it doubled. -/
def enclosed (quote : Char) (text : List Char) : List Char :=
  quote :: doubled quote text ++ [quote]

/-- Whether a name needs quotes that it was not written with. -/
def needsQuotes (grammar : Grammar) (name : String) : Bool :=
  match grammar with
  | .mysql => isReserved (Text.lower name)
  | .postgres => (name.toList.head?).any Text.isDigitLike

/-- A name as it is written: its quotes doubled in any case, and between quotes if it asks for them
or needs them. -/
def nameChars (grammar : Grammar) (quoted : Bool) (name : String) : List Char :=
  if quoted || needsQuotes grammar name then enclosed grammar.nameQuote name.toList
  else doubled grammar.nameQuote name.toList

/-- A character of a text constant in the grammar with escapes. -/
def escapedChar (c : Char) : List Char :=
  match c.toNat with
  | 0x00 => ['\\', '0']
  | 0x08 => ['\\', 'b']
  | 0x09 => ['\\', 't']
  | 0x0A => ['\\', 'n']
  | 0x0D => ['\\', 'r']
  | 0x1A => ['\\', 'Z']
  | 0x5C => ['\\', '\\']
  | _ => [c]

/-- The content of a text constant. -/
def constantContent (grammar : Grammar) (text : List Char) : List Char :=
  match grammar with
  | .mysql => text.flatMap escapedChar
  | .postgres => text

/-- A text constant. -/
def constantChars (grammar : Grammar) (text : String) : List Char :=
  enclosed '\'' (constantContent grammar text.toList)

/-- A character of a text constant that is marked for escapes. -/
def markedChar (c : Char) : List Char :=
  match c.toNat with
  | 0x08 => ['\\', 'b']
  | 0x09 => ['\\', 't']
  | 0x0A => ['\\', 'n']
  | 0x0B => ['\\', 'v']
  | 0x0C => ['\\', 'f']
  | 0x0D => ['\\', 'r']
  | 0x5C => ['\\', '\\']
  | n => if n < 0x20 ∨ n = 0x7F then '\\' :: 'x' :: Text.hexDigits 2 n else [c]

/-- A text constant that is marked for escapes. -/
def markedChars (text : String) : List Char :=
  'e' :: enclosed '\'' (text.toList.flatMap markedChar)

/-! ## Names of data types

Each grammar has names of its own for some data types, and one of them further names for the target
of a cast. -/

/-- The name of a data type. -/
def typeText (grammar : Grammar) (name : String) : String :=
  match grammar with
  | .mysql =>
    if ["DATETIME2", "SMALLDATETIME", "TIMESTAMP", "TIMESTAMPNTZ"].contains name then "DATETIME"
    else if ["TIMESTAMPTZ", "TIMESTAMPLTZ"].contains name then "TIMESTAMP"
    else if name = "NCHAR" then "CHAR"
    else if name = "NVARCHAR" then "VARCHAR"
    else name
  | .postgres =>
    if ["BINARY", "VARBINARY", "BLOB", "ROWVERSION"].contains name then "BYTEA"
    else if ["DATETIME", "DATETIME2", "SMALLDATETIME", "TIMESTAMPNTZ"].contains name then "TIMESTAMP"
    else if ["MEDIUMTEXT", "LONGTEXT", "TINYTEXT"].contains name then "TEXT"
    else if name = "DOUBLE" then "DOUBLE PRECISION"
    else if name = "FLOAT" then "REAL"
    else if name = "TINYINT" then "SMALLINT"
    else if name = "NCHAR" then "CHAR"
    else if name = "NVARCHAR" then "VARCHAR"
    else name

/-- The name of a data type as the target of a cast. -/
def castTypeText (grammar : Grammar) (name : String) : String :=
  match grammar with
  | .mysql =>
    if ["BIGINT", "BOOLEAN", "INT", "MEDIUMINT", "SMALLINT", "TINYINT"].contains name then "SIGNED"
    else if name = "UBIGINT" then "UNSIGNED"
    else if ["LONGBLOB", "LONGTEXT", "MEDIUMBLOB", "MEDIUMTEXT", "TEXT", "TINYBLOB", "TINYTEXT",
        "VARCHAR"].contains name then "CHAR"
    else typeText grammar name
  | .postgres => typeText grammar name

/-- Whether a cast to the type is a call of the function that makes time stamps. -/
def isStampType (grammar : Grammar) (name : String) : Bool :=
  grammar == .mysql && ["TIMESTAMPTZ", "TIMESTAMPLTZ"].contains name

end SqlInsert.Render
