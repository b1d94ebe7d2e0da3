/-!
# Dialects

The dialects that a statement may be in, and the patterns of dates and times that they use.
-/

namespace SqlInsert

/-! ## Dialects and their grammars

A recognizer exists for three dialects. Two of them share a grammar, which decides how a statement
is read, how a tree is rendered, and which character quotes a name. -/

/-- The rules by which statements are read and rendered. -/
inductive Grammar
  | mysql
  | postgres
deriving DecidableEq, Repr

namespace Grammar

/-- The name of a grammar. -/
def key : Grammar → String
  | .mysql => "mysql"
  | .postgres => "postgres"

/-- The character around a quoted name. -/
def nameQuote : Grammar → Char
  | .mysql => Char.ofNat 96
  | .postgres => '"'

end Grammar

/-- The dialects with a recognizer. -/
inductive Dialect
  | mysql
  | mariadb
  | postgresql
deriving DecidableEq, Repr

namespace Dialect

/-- The dialects in the order of their keys. -/
def all : List Dialect := [.mariadb, .mysql, .postgresql]

/-- The key by which a dialect is chosen. -/
def key : Dialect → String
  | .mysql => "mysql"
  | .mariadb => "mariadb"
  | .postgresql => "postgresql"

/-- The grammar of a dialect. -/
def grammar : Dialect → Grammar
  | .mysql | .mariadb => .mysql
  | .postgresql => .postgres

/-- The characters that quote a name. -/
def escapeChars (dialect : Dialect) : List Char :=
  [dialect.grammar.nameQuote]

/-- The dialect with a key. -/
def ofKey? (key : String) : Option Dialect :=
  all.find? (·.key == key)

end Dialect

end SqlInsert

namespace SqlInsert.Calendar

/-! ## Patterns for dates and times

Functions that write or read a date or a time take a pattern. In a tree a pattern is kept in one common
notation, where every field is a percent sign and a letter; each grammar has a notation of its own. A
pattern is translated from left to right, and of several fields that match the longest counts. What is
no field stays as it is. -/

/-- The fields of a grammar's patterns with the common ones. -/
def patternFields : Grammar → List (String × String)
  | .mysql =>
    [("%M", "%B"), ("%c", "%-m"), ("%e", "%-d"), ("%h", "%I"), ("%i", "%M"), ("%s", "%S"),
      ("%u", "%W"), ("%k", "%-H"), ("%l", "%-I"), ("%T", "%H:%M:%S"), ("%W", "%A")]
  | .postgres =>
    [("d", "%u"), ("D", "%u"), ("dd", "%d"), ("DD", "%d"), ("ddd", "%j"), ("DDD", "%j"),
      ("FMDD", "%-d"), ("FMDDD", "%-j"), ("FMHH12", "%-I"), ("FMHH24", "%-H"), ("FMMI", "%-M"),
      ("FMMM", "%-m"), ("FMSS", "%-S"), ("HH12", "%I"), ("HH24", "%H"), ("mi", "%M"), ("MI", "%M"),
      ("mm", "%m"), ("MM", "%m"), ("OF", "%z"), ("ss", "%S"), ("SS", "%S"), ("TMDay", "%A"),
      ("TMDy", "%a"), ("TMMon", "%b"), ("TMMonth", "%B"), ("TZ", "%Z"), ("US", "%f"), ("ww", "%U"),
      ("WW", "%U"), ("yy", "%y"), ("YY", "%y"), ("yyyy", "%Y"), ("YYYY", "%Y")]

/-- The longest field at the front of a text, with its translation. -/
def fieldAt? (fields : List (String × String)) (text : List Char) : Option (String × String) :=
  fields.foldl (fun best field =>
    if field.1.toList.isPrefixOf text && best.all (·.1.length < field.1.length) then some field
    else best) none

/-- A pattern with its fields translated. The fuel bounds the number of characters. -/
def translateFrom (fields : List (String × String)) : Nat → List Char → List Char
  | 0, text => text
  | _, [] => []
  | fuel + 1, c :: rest =>
    match fieldAt? fields (c :: rest) with
    | some (field, meaning) =>
      meaning.toList ++ translateFrom fields fuel ((c :: rest).drop field.length)
    | none => c :: translateFrom fields fuel rest

/-- A pattern of a grammar in the common notation. -/
def commonPattern (grammar : Grammar) (pattern : String) : String :=
  String.ofList (translateFrom (patternFields grammar) pattern.length pattern.toList)

/-- A common pattern in the notation of a grammar. Of several fields for the same the last counts. -/
def grammarPattern (grammar : Grammar) (pattern : String) : String :=
  let fields := (patternFields grammar).reverse.map fun (field, meaning) => (meaning, field)
  String.ofList (translateFrom fields pattern.length pattern.toList)

/-- The letters of the fields that tell a time of day in the first grammar. -/
def timeLetters : List Char := "fHhIiklprSsT".toList

/-- Whether a pattern of the first grammar has a field for a time of day. -/
def hasTimeField : List Char → Bool
  | '%' :: letter :: rest => timeLetters.contains letter || hasTimeField rest
  | _ :: rest => hasTimeField rest
  | [] => false

end SqlInsert.Calendar
