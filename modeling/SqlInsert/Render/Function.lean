import SqlInsert.Dialect
import SqlInsert.Render.Part
import SqlInsert.Render.Clause
import SqlInsert.Tree.Basic
/-!
# Function calls in SQL

A known function is written with its name and its arguments in the order of its slots. The grammars
have names of their own for some functions, and some functions are written in a form of their own or
need no parentheses. Functions of a date drop the conversion of their argument to a date.
-/

namespace SqlInsert

/-- The slots that hold a function's arguments, in the order of the arguments. -/
def Callee.arguments (callee : Callee) : List String :=
  match callee, FunctionForm.ofKind? callee.name with
  | .anonymous, _ => ["expressions"]
  | .known "Uuid", _ => []
  | _, some form => form.slots
  | _, none => ["this"]

/-- The names of functions that a grammar calls differently. -/
def specialNames : Grammar → List (String × String)
  | .mysql =>
    [("ArrayAgg", "GROUP_CONCAT"), ("BitwiseAndAgg", "BIT_AND"), ("BitwiseCount", "BIT_COUNT"),
      ("BitwiseOrAgg", "BIT_OR"), ("BitwiseXorAgg", "BIT_XOR"), ("CurrentSchema", "SCHEMA"),
      ("CurrentVersion", "VERSION"), ("DayOfMonth", "DAYOFMONTH"), ("DayOfWeek", "DAYOFWEEK"),
      ("DayOfYear", "DAYOFYEAR"), ("LogicalAnd", "MIN"), ("LogicalOr", "MAX"),
      ("NumberToStr", "FORMAT"), ("Stuff", "INSERT"), ("TimeFromParts", "MAKETIME"),
      ("Trunc", "TRUNCATE"), ("TsOrDsToDate", "DATE"), ("WeekOfYear", "WEEKOFYEAR")]
  | .postgres =>
    [("BitwiseAndAgg", "BIT_AND"), ("BitwiseOrAgg", "BIT_OR"), ("BitwiseXorAgg", "BIT_XOR"),
      ("CurrentVersion", "VERSION"), ("Explode", "UNNEST"),
      ("ExplodingGenerateSeries", "GENERATE_SERIES"), ("Getbit", "GET_BIT"),
      ("JSONArrayAgg", "JSON_AGG"), ("JSONObjectAgg", "JSON_OBJECT_AGG"),
      ("LogicalAnd", "BOOL_AND"), ("LogicalOr", "BOOL_OR"), ("Rand", "RANDOM"),
      ("TimeFromParts", "MAKE_TIME"), ("TimestampFromParts", "MAKE_TIMESTAMP"),
      ("Unicode", "ASCII"), ("Uuid", "GEN_RANDOM_UUID"), ("Variance", "VAR_SAMP"),
      ("VariancePop", "VAR_POP")]

/-- The name of a function in a grammar. -/
def Callee.sql (grammar : Grammar) (callee : Callee) : String :=
  match (specialNames grammar).lookup callee.name with
  | some name => name
  | none => (((FunctionForm.ofKind? callee.name).bind (·.names.head?))).getD ""

/-- The functions that are written without parentheses where they have no argument. -/
def unparenthesized : Grammar → List String
  | .mysql => ["CurrentCatalog", "Localtime", "Localtimestamp"]
  | .postgres =>
    ["CurrentCatalog", "CurrentSchema", "CurrentUser", "Localtime", "Localtimestamp", "SessionUser"]

namespace Render

/-- The conditions and results of a case expression, and its default. -/
def caseOf (branches : List Part) (subject default : String) : String :=
  let whens := branches.map fun branch =>
    "WHEN " ++ Parts.text branch.slots "this" ++ " THEN " ++ Parts.text branch.slots "true"
  " ".intercalate ((if subject = "" then ["CASE"] else ["CASE " ++ subject]) ++ whens ++
    (if default = "" then [] else ["ELSE " ++ default]) ++ ["END"])

/-- The functions of a date that convert their argument, with the slots of such arguments. -/
def dateSlots : List (String × List String) :=
  [("Year", ["this"]), ("Month", ["this"]), ("Day", ["this"]), ("Week", ["this"]),
    ("DayOfMonth", ["this"]), ("DayOfWeek", ["this"]), ("DayOfYear", ["this"]),
    ("WeekOfYear", ["this"]), ("TimeToStr", ["this"]), ("DateAdd", ["this"]), ("DateSub", ["this"]),
    ("DateDiff", ["this", "expression"])]

/-- A part without its conversion to a date; a conversion with a pattern stays. -/
def unconverted (part : Part) : Part :=
  if part.tree.isA (.call (.known "TsOrDsToDate")) && (Parts.get? part.slots "format").isNone then
    (Parts.get? part.slots "this").getD ⟨.null, "", [], []⟩
  else part

/-- The parts of a call, where the arguments that are dates need no conversion. -/
def withoutConversions (grammar : Grammar) (callee : Callee) (parts : Parts) : Parts :=
  match grammar with
  | .mysql =>
    let slots := (dateSlots.lookup callee.name).getD []
    parts.map fun (name, part) => (name, if slots.contains name then unconverted part else part)
  | .postgres => parts

/-- The pattern of a call in the notation of the grammar. -/
def pattern (grammar : Grammar) (parts : Parts) : List String :=
  let text := Calendar.grammarPattern grammar (parts.text "format")
  if text = "" then [] else [text]

/-- The name of the unit of a call: that of a word or a constant, a day if there is none. -/
def unitName (parts : Parts) : String :=
  match parts.get? "unit" with
  | none => "DAY"
  | some unit => if unit.tree.isA .variable then unit.text else unit.tree.nameText

/-- A date moved by an interval. -/
def shifted (grammar : Grammar) (forwards : Bool) (parts : Parts) : String :=
  match grammar with
  | .mysql =>
    let unit : Part := ⟨.word (unitName parts), unitName parts, [], []⟩
    let span := interval grammar
      (((parts.get? "expression").map fun part => ("this", part)).toList ++ [("unit", unit)])
    call (if forwards then "DATE_ADD" else "DATE_SUB") [parts.text "this", span]
  | .postgres =>
    let slots := ["expression", "unit"].filterMap fun name =>
      (parts.get? name).map fun part => (if name = "unit" then name else "this", part)
    parts.text "this" ++ (if forwards then " + " else " - ") ++ interval grammar slots

/-- A text without characters at its ends. -/
def trim (parts : Parts) : String :=
  let side := parts.text "position"
  let removed := parts.text "expression"
  if removed = "" then
    call (if side = "LEADING" then "LTRIM" else if side = "TRAILING" then "RTRIM" else "TRIM")
      (parts.arguments ["this"])
  else
    let collation := clause " COLLATE " (parts.text "collation")
    "TRIM(" ++ (if side = "" then "" else side ++ " ") ++ removed ++ " FROM " ++
      parts.text "this" ++ collation ++ ")"

/-- A part of a text. -/
def substring (grammar : Grammar) (parts : Parts) : String :=
  match grammar with
  | .mysql => call "SUBSTRING" (parts.arguments ["this", "start", "length"])
  | .postgres =>
    "SUBSTRING(" ++ parts.text "this" ++ clause " FROM " (parts.text "start") ++
      clause " FOR " (parts.text "length") ++ ")"

/-- The place of a text in another one. -/
def position (grammar : Grammar) (parts : Parts) : String :=
  match grammar with
  | .mysql => call "LOCATE" (parts.arguments ["substr", "this", "position"])
  | .postgres =>
    let place (text : String) := "POSITION(" ++ parts.text "substr" ++ " IN " ++ text ++ ")"
    match parts.get? "position" with
    | none => place (parts.text "this")
    | some start =>
      let found := place ("SUBSTRING(" ++ parts.text "this" ++ " FROM " ++ start.text ++ ")")
      "CASE WHEN " ++ found ++ " = 0 THEN 0 ELSE " ++ found ++ " + " ++ start.text ++ " - 1 END"

/-- A text filled up to a length. -/
def pad (grammar : Grammar) (parts : Parts) : String :=
  let filling := parts.arguments ["fill_pattern"]
  let filling := if filling.isEmpty ∧ grammar = .mysql then ["' '"] else filling
  call (if parts.isGiven "is_left" then "LPAD" else "RPAD")
    (parts.arguments ["this", "expression"] ++ filling)

/-- The texts of a group in one. -/
def groupConcat (grammar : Grammar) (parts : Parts) : String :=
  let separator := parts.text "separator"
  let separator := if separator = "" then "','" else separator
  match grammar with
  | .mysql => "GROUP_CONCAT(" ++ parts.text "this" ++ " SEPARATOR " ++ separator ++ ")"
  | .postgres =>
    match parts.get? "this" with
    | some content =>
      if content.tree.isA (.other "Order") then
        let order := " ORDER BY " ++ Parts.commaList content.slots "expressions"
        call "STRING_AGG" [Parts.text content.slots "this", separator ++ order]
      else call "STRING_AGG" [content.text, separator]
    | none => call "STRING_AGG" [separator]

/-- A call with its name and its arguments, possibly without parentheses. -/
def plainCall (grammar : Grammar) (callee : Callee) (arguments : List String) : String :=
  if arguments.isEmpty && (unparenthesized grammar).contains callee.name then callee.sql grammar
  else call (callee.sql grammar) arguments

/-- The name of a function that is not known: in capitals, unless it stands in quotes. -/
def anonymousName (parts : Parts) : String :=
  if (parts.get? "this").any (·.tree.isA .identifier) then parts.text "this"
  else Text.upper (parts.text "this")

/-- A function call. -/
def function (grammar : Grammar) (callee : Callee) (parts : Parts) : String :=
  let parts := withoutConversions grammar callee parts
  let arguments := parts.arguments callee.arguments
  let value := parts.text "this"
  match callee, grammar with
  | .anonymous, _ => call (anonymousName parts) arguments
  | .caseOf, _ => caseOf (parts.items "ifs") value (parts.text "default")
  | .existence, _ => call "EXISTS" [value]
  | .ifThen, .postgres =>
    " ".intercalate (["CASE", "WHEN " ++ value ++ " THEN " ++ parts.text "true"] ++
      (if parts.text "false" = "" then [] else ["ELSE " ++ parts.text "false"]) ++ ["END"])
  | .concat, .postgres =>
    if parts.isGiven "coalesce" then call "CONCAT" arguments else " || ".intercalate arguments
  | .array, .postgres =>
    let items := parts.commaList "expressions"
    if ((parts.items "expressions").head?).any (·.tree.isA .select) then "ARRAY(" ++ items ++ ")"
    else "ARRAY[" ++ items ++ "]"
  | .length, .mysql => call (if parts.isGiven "binary" then "LENGTH" else "CHAR_LENGTH") [value]
  | .max, _ => call (if parts.isGiven "expressions" then "GREATEST" else "MAX") arguments
  | .min, _ => call (if parts.isGiven "expressions" then "LEAST" else "MIN") arguments
  | .currentDate, _ => "CURRENT_DATE" ++ clause " AT TIME ZONE " value
  | .currentTimestamp, .postgres => "CURRENT_TIMESTAMP"
  | .dateAdd, grammar => shifted grammar true parts
  | .dateSub, grammar => shifted grammar false parts
  | .stampDifference, .mysql =>
    call "TIMESTAMPDIFF" (unitName parts :: parts.arguments ["expression", "this"])
  | .truncatedStamp, .postgres =>
    call "DATE_TRUNC" (("'" ++ unitName parts ++ "'") :: parts.arguments ["this", "zone"])
  | .timeText, .mysql => call "DATE_FORMAT" (value :: pattern grammar parts)
  | .timeText, .postgres => call "TO_CHAR" (value :: pattern grammar parts)
  | .textDate, .postgres => call "TO_DATE" (value :: pattern grammar parts)
  | .textTime, .postgres => call "TO_TIMESTAMP" (value :: pattern grammar parts)
  | .textDate, .mysql | .textTime, .mysql => call "STR_TO_DATE" (value :: pattern grammar parts)
  | .epochTime, .mysql => call "FROM_UNIXTIME" (value :: pattern grammar parts)
  | .epochTime, .postgres => call "TO_TIMESTAMP" [value]
  | .extract, _ => "EXTRACT(" ++ value ++ " FROM " ++ parts.text "expression" ++ ")"
  | .substring, grammar => substring grammar parts
  | .trim, _ => trim parts
  | .position, grammar => position grammar parts
  | .pad, grammar => pad grammar parts
  | .chr, grammar =>
    call (if grammar = .mysql then "CHAR" else "CHR")
      [parts.commaList "expressions" ++ clause " USING " (parts.text "charset")]
  | .overlay, _ =>
    "OVERLAY(" ++ value ++ " PLACING " ++ parts.text "expression" ++ " FROM " ++
      parts.text "from_" ++ clause " FOR " (parts.text "for_") ++ ")"
  | .lowerHex, _ => call "LOWER" [call "HEX" [value]]
  | .digest, .postgres =>
    let length := parts.text "length"
    call ("SHA" ++ if length = "" then "256" else length) [value]
  | .groupConcat, grammar => groupConcat grammar parts
  | .jsonObject, _ => call "JSON_OBJECT" (parts.arguments ["expressions"])
  | .parsedJson, .mysql => value
  | .parsedJson, .postgres => "CAST(" ++ value ++ " AS JSON)"
  | .known "MatchAgainst", _ =>
    call "MATCH" (parts.arguments ["expressions"]) ++ " AGAINST(" ++ value ++
      clause " " (parts.text "modifier") ++ ")"
  | .known "DateDiff", .mysql => call "DATEDIFF" (parts.arguments ["this", "expression"])
  | .known "ConvertTimezone", .mysql =>
    call "CONVERT_TZ" (parts.arguments ["timestamp", "source_tz", "target_tz"])
  | .known "ArraySize", .postgres =>
    call "ARRAY_LENGTH" (if arguments.length = 1 then arguments ++ ["1"] else arguments)
  | .known "SessionUser", .mysql => "SESSION_USER()"
  | callee, grammar => plainCall grammar callee arguments

end Render

end SqlInsert
