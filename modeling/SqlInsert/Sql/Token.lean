import SqlInsert.Dialect
import SqlInsert.Tree.Kind
/-!
# Tokens and words

The tokens of a text, and the words that have a meaning of their own.
-/

namespace SqlInsert.Sql

/-! ## Tokens of a statement text

The text of statements is a row of tokens with blanks and comments between them. A token is a word, a
quoted name, a constant, a number or a sign, and the comments around it belong to it. The two grammars
differ in their signs and in the characters that may continue a word. -/

/-- A token. -/
inductive Token
  /-- A word without quotes: a keyword or a name. -/
  | word (text : String)
  /-- A name in quotes. -/
  | name (text : String)
  /-- A text constant. -/
  | constant (text : String)
  | prefixedText (form : TextPrefix) (text : String)
  | prefixedDigits (form : DigitPrefix) (text : String)
  | number (text : String)
  | sign (text : String)
  /-- A semicolon. -/
  | stop
deriving DecidableEq, Repr

/-- A token with the comments that belong to it. -/
structure Lexeme where
  token : Token
  comments : List String
deriving DecidableEq, Repr

/-- Why a text cannot be read. -/
inductive ReadError
  /-- A constant, name or comment has no end. -/
  | unterminated
  /-- The digits of a constant do not belong to its base. -/
  | invalidDigits
  /-- Something is missing in front of what follows. -/
  | expected (what : String)
  /-- The statement goes on where it should have ended. -/
  | leftover
  /-- There is no statement. -/
  | nothing
deriving DecidableEq, Repr

/-- The wording of a refusal to read. -/
def ReadError.message : ReadError → String
  | .unterminated => "Failed to parse SQL: unterminated constant, name or comment"
  | .invalidDigits => "Failed to parse SQL: invalid digits"
  | .expected what => "Failed to parse SQL: expected " ++ what
  | .leftover => "Failed to parse SQL: unexpected text after the statement"
  | .nothing => "Failed to parse SQL: no statement"

/-- The character that quotes names in the first grammar. -/
def graveAccent : Char := Char.ofNat 96

/-- The characters that are tokens by themselves and end a word. -/
def signChars (grammar : Grammar) : List Char :=
  let common := "()[]&^:,-.=><%!|+;/\\*~?@#'\"".toList ++
    [graveAccent, Char.ofNat 123, Char.ofNat 125]
  match grammar with
  | .mysql => common
  | .postgres => '$' :: common

/-- The signs of more than one character, the longest first. -/
def longSigns (grammar : Grammar) : List (List Char) :=
  let three := ["-|-", "->>", "#>>", "<=>", "<->", "?::", "~~~", "~~*"]
  let two := ["&<", "&>", "==", "::", "||", "|>", ">=", "<=", "<>", "!=", ":=", "->", "=>", "#>",
    "&&", "??", "~~", "~*", "@@"]
  (match grammar with
    | .mysql => three ++ two
    | .postgres => three ++ ["||/"] ++ two ++ ["@>", "<@", "?&", "?|", "#-", "|/"]).map String.toList

/-- Whether a character may continue a word. -/
def continuesWord (grammar : Grammar) (c : Char) : Bool :=
  (grammar == .postgres && c == '$') || !(signChars grammar).contains c

/-! ## Words with a meaning

The words that no plain name may be, the words for data types, the character sets that may stand in
front of a text constant, and the units of time. All words stand here in capitals. -/

/-- The words that are no plain names. -/
def reservedWords : List String :=
  ["ALTER", "AND", "AS", "BETWEEN", "CREATE", "CROSS", "DISTINCT", "DROP", "ELSE", "EXCEPT",
    "FETCH", "FOR", "FROM", "GLOB", "GRANT", "GROUP BY", "HAVING", "ILIKE", "IN", "INNER", "INSERT",
    "INTERSECT", "INTO", "JOIN", "LATERAL", "LIKE", "NOT", "NOTNULL", "NULL", "ON", "OR", "ORDER BY",
    "OUTER", "PARTITION BY", "QUALIFY", "REGEXP", "RETURNING", "REVOKE", "RLIKE", "ROLLBACK",
    "SELECT", "SORT BY", "CLUSTER BY", "DISTRIBUTE BY", "CONNECT BY", "STRAIGHT_JOIN", "TABLESAMPLE",
    "THEN", "UNION", "USING", "VALUES", "WHEN", "WHERE", "WITH", "XOR"]

/-- The further words that are no plain names in the first grammar. -/
def furtherReservedWords : List String :=
  ["DISTINCTROW", "FORCE", "IGNORE", "KEY", "MOD", "SEPARATOR"]

/-- Whether a word in capitals is no plain name. -/
def isReserved (grammar : Grammar) (word : String) : Bool :=
  reservedWords.contains word || (grammar == .mysql && furtherReservedWords.contains word)

/-- The reserved words that may be the name of a function. -/
def callableWords : List String :=
  ["GLOB", "ILIKE", "INSERT", "LIKE", "MOD", "RLIKE", "XOR"]

/-- The words that are a plain name and yet name no function. -/
def uncallableWords : List String :=
  ["ASC", "CASE", "DEFAULT", "DELETE", "DESC", "END", "ESCAPE", "FALSE", "IS", "LIMIT", "SET",
    "SHOW", "TRUE", "UPDATE", "USE"]

/-- The words that cannot name a table in a query, although they are plain names. -/
def joinWords : List String :=
  ["ANTI", "ASOF", "FULL", "LEFT", "LOCK", "NATURAL", "RIGHT", "SEMI", "WINDOW"]

/-- The data types with one word in both grammars. -/
def commonTypes : List (String × String) :=
  [("BIGINT", "BIGINT"), ("BINARY", "BINARY"), ("BIT", "BIT"), ("BOOL", "BOOLEAN"),
    ("BOOLEAN", "BOOLEAN"), ("BPCHAR", "BPCHAR"), ("BYTE", "TINYINT"), ("CHAR", "CHAR"),
    ("CHARACTER", "CHAR"), ("CLOB", "TEXT"), ("DATE", "DATE"), ("DATETIME", "DATETIME"),
    ("DEC", "DECIMAL"), ("DECIMAL", "DECIMAL"), ("DOUBLE", "DOUBLE"), ("FIXED", "DECIMAL"),
    ("FLOAT4", "FLOAT"), ("FLOAT8", "DOUBLE"), ("GEOGRAPHY", "GEOGRAPHY"), ("GEOMETRY", "GEOMETRY"),
    ("INET", "INET"), ("INT", "INT"), ("INT1", "TINYINT"), ("INT16", "SMALLINT"),
    ("INT2", "SMALLINT"), ("INT32", "INT"), ("INT4", "INT"), ("INT64", "BIGINT"),
    ("INTEGER", "INT"), ("JSON", "JSON"), ("JSONB", "JSONB"), ("LONG", "BIGINT"),
    ("LONGTEXT", "LONGTEXT"), ("MEDIUMINT", "MEDIUMINT"), ("MEDIUMTEXT", "MEDIUMTEXT"),
    ("NCHAR", "NCHAR"), ("NUMBER", "DECIMAL"), ("NUMERIC", "DECIMAL"), ("NVARCHAR", "NVARCHAR"),
    ("NVARCHAR2", "NVARCHAR"), ("REAL", "FLOAT"), ("SHORT", "SMALLINT"), ("SMALLINT", "SMALLINT"),
    ("STR", "TEXT"), ("STRING", "TEXT"), ("TEXT", "TEXT"), ("TIME", "TIME"),
    ("TIMESTAMPLTZ", "TIMESTAMPLTZ"), ("TIMESTAMPNTZ", "TIMESTAMPNTZ"),
    ("TIMESTAMPTZ", "TIMESTAMPTZ"), ("TIMETZ", "TIMETZ"), ("TINYINT", "TINYINT"),
    ("TINYTEXT", "TINYTEXT"), ("UUID", "UUID"), ("VARBINARY", "VARBINARY"), ("VARCHAR", "VARCHAR"),
    ("VARCHAR2", "VARCHAR")]

/-- The data types with one word in one grammar only. -/
def specialTypes : Grammar → List (String × String)
  | .mysql =>
    [("BLOB", "BLOB"), ("FLOAT", "FLOAT"), ("INT8", "TINYINT"), ("LONGBLOB", "LONGBLOB"),
      ("MEDIUMBLOB", "MEDIUMBLOB"), ("SIGNED", "BIGINT"), ("TIMESTAMP", "TIMESTAMPTZ"),
      ("TINYBLOB", "TINYBLOB"), ("UNSIGNED", "UBIGINT"), ("YEAR", "YEAR")]
  | .postgres =>
    [("BLOB", "VARBINARY"), ("BYTEA", "VARBINARY"), ("FLOAT", "DOUBLE"), ("HSTORE", "HSTORE"),
      ("INT8", "BIGINT"), ("MONEY", "MONEY"), ("NAME", "NAME"), ("TIMESTAMP", "TIMESTAMP"),
      ("XML", "XML"), ("BIGSERIAL", "BIGSERIAL"), ("SERIAL", "SERIAL"),
      ("SMALLSERIAL", "SMALLSERIAL")] ++
    ["INT4RANGE", "INT4MULTIRANGE", "INT8RANGE", "INT8MULTIRANGE", "NUMRANGE", "NUMMULTIRANGE",
      "TSRANGE", "TSMULTIRANGE", "TSTZRANGE", "TSTZMULTIRANGE", "DATERANGE", "DATEMULTIRANGE"].map
      fun name => (name, name)

/-- The data types with two words. -/
def pairedTypes (grammar : Grammar) : List ((String × String) × String) :=
  [(("DOUBLE", "PRECISION"), "DOUBLE"), (("CHAR", "VARYING"), "VARCHAR"),
    (("CHARACTER", "VARYING"), "VARCHAR")] ++
  match grammar with
  | .mysql => [(("SIGNED", "INTEGER"), "BIGINT"), (("UNSIGNED", "INTEGER"), "UBIGINT")]
  | .postgres => []

/-- The data type of a word. -/
def typeOf? (grammar : Grammar) (word : String) : Option String :=
  (commonTypes.lookup word).or ((specialTypes grammar).lookup word)

/-- The data type with a time zone for one that may have it. -/
def zonedType? (type : String) : Option String :=
  if type = "TIME" then some "TIMETZ"
  else if type = "TIMESTAMP" ∨ type = "TIMESTAMPTZ" then some "TIMESTAMPTZ"
  else none

/-- The data type without negative numbers for one that may have it. -/
def unsignedType? (type : String) : Option String :=
  if ["BIGINT", "INT", "MEDIUMINT", "SMALLINT", "TINYINT", "DECIMAL", "DOUBLE"].contains type then
    some ("U" ++ type)
  else none

/-- The data types for the names of parts of the second grammar's catalog. -/
def catalogTypes : List String :=
  ["OID", "REGCLASS", "REGCOLLATION", "REGCONFIG", "REGDICTIONARY", "REGNAMESPACE", "REGOPER",
    "REGOPERATOR", "REGPROC", "REGPROCEDURE", "REGROLE", "REGTYPE"]

/-- The words that are a unit of time. -/
def unitWords : List String :=
  ["YEAR", "YEARS", "QUARTER", "MONTH", "MONTHS", "WEEK", "WEEKS", "DAY", "DAYS", "HOUR", "HOURS",
    "MINUTE", "MINUTES", "SECOND", "SECONDS", "MILLISECOND", "MICROSECOND", "DECADE", "CENTURY",
    "YEAR_MONTH", "DAY_HOUR", "DAY_MINUTE", "DAY_SECOND", "DAY_MICROSECOND", "HOUR_MINUTE",
    "HOUR_SECOND", "HOUR_MICROSECOND", "MINUTE_SECOND", "MINUTE_MICROSECOND", "SECOND_MICROSECOND"]

/-- The character sets that may stand in front of a text constant, with their mark. -/
def charsetWords : List String :=
  ["ARMSCII8", "ASCII", "BIG5", "BINARY", "CP1250", "CP1251", "CP1256", "CP1257", "CP850", "CP852",
    "CP866", "CP932", "DEC8", "EUCJPMS", "EUCKR", "GB18030", "GB2312", "GBK", "GEOSTD8", "GREEK",
    "HEBREW", "HP8", "KEYBCS2", "KOI8R", "KOI8U", "LATIN1", "LATIN2", "LATIN5", "LATIN7", "MACCE",
    "MACROMAN", "SJIS", "SWE7", "TIS620", "UCS2", "UJIS", "UTF8", "UTF16", "UTF16LE", "UTF32",
    "UTF8MB3", "UTF8MB4"].map ("_" ++ ·)

end SqlInsert.Sql
