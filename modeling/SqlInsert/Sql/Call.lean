import SqlInsert.Dialect
import SqlInsert.Text.Case
import SqlInsert.Tree.Basic
/-!
# Calls by name

What a call of a known function is depends on its name and its arguments. Most calls fill the slots of
the function's form in their order. Some names stand for another function, for an operator, or for a
function in which the arguments have other places; the two grammars differ in these. A call with too
few or too many arguments is none.
-/

namespace SqlInsert.Sql

/-- The argument at a place; nothing if there is none. -/
def argumentAt (arguments : List Tree) (place : Nat) : Tree :=
  .optional arguments[place]?

/-- The slots that arguments fill by their order. -/
def filledSlots (form : FunctionForm) (arguments : List Tree) : List (String × Tree) :=
  if form.isOpen then
    let fixed := form.slots.dropLast
    fixed.zip arguments ++
      form.slots.getLast?.toList.map fun last => (last, .list (arguments.drop fixed.length))
  else form.slots.zip arguments

/-- Whether a slot that has to be filled is. -/
def isFilled (slots : List (String × Tree)) (name : String) : Bool :=
  match slots.lookup name with
  | none | some .null | some (.list []) => false
  | some _ => true

/-- A call of a kind with its slots, made from a number of arguments; none if the arguments do not fit
the form of the function. -/
def callOf (kind : String) (count : Nat) (slots : List (String × Tree)) : Option Tree :=
  match FunctionForm.ofKind? kind with
  | none => some (.bare (Kind.ofName kind) slots)
  | some form =>
    if (form.slots.take form.required).all (isFilled slots) &&
        (form.isOpen || count ≤ form.slots.length) then
      some (.bare (Kind.ofName kind) slots)
    else none

/-- A call whose arguments fill the slots of a kind in their order. -/
def plainCallOf (kind : String) (arguments : List Tree) : Option Tree :=
  match FunctionForm.ofKind? kind with
  | none => none
  | some form => callOf kind arguments.length (filledSlots form arguments)

/-- An operator between the first two arguments. -/
def operatorOf (operator : BinaryOperator) (left right : Tree) : Option Tree :=
  if left.isNull || right.isNull then none else some (.binary operator left right)

/-- An operand of an operator that was written as a call: operators in it need parentheses. -/
def enclosedOperand (operand : Tree) : Tree :=
  match operand.kind? with
  | some (.binary _) => .unary .parentheses operand
  | _ => operand

/-- An argument taken for a date. -/
def asDate (argument : Tree) : Tree :=
  .bare (.call (.known "TsOrDsToDate")) [("this", argument)]

/-- A pattern of a grammar in the common notation. Only constants are translated. -/
def asPattern (grammar : Grammar) (pattern : Tree) : Tree :=
  if pattern.isTextLiteral then .textLiteral (Calendar.commonPattern grammar pattern.nameText)
  else pattern

/-- A path into a document. The first grammar marks its beginning with a dollar sign. -/
def asPath (grammar : Grammar) (path : Tree) : Tree :=
  match grammar with
  | .postgres => path
  | .mysql =>
    if path.isNumberLiteral then .textLiteral ("$[" ++ path.nameText ++ "]")
    else if path.isTextLiteral && path.nameText.toList.head? ≠ some '$' then
      .textLiteral ("$." ++ path.nameText)
    else path

/-- The names of units of time for their abbreviations. -/
def unitAbbreviations : List (String × String) :=
  [("D", "DAY"), ("H", "HOUR"), ("M", "MINUTE"), ("MS", "MILLISECOND"), ("NS", "NANOSECOND"),
    ("Q", "QUARTER"), ("S", "SECOND"), ("US", "MICROSECOND"), ("W", "WEEK"), ("Y", "YEAR")]

/-- A unit of time: a word or a constant becomes the name of the unit in capitals. -/
def asUnit (unit : Tree) : Tree :=
  let isWord := unit.isA .variable || unit.isA .literal ||
    (unit.isA .column && !(unit.slot "table").isGiven)
  if isWord then
    .word (Text.upper ((unitAbbreviations.lookup unit.nameText).getD unit.nameText))
  else unit

/-- A date moved by an interval; none if the second argument is no interval. -/
def shiftedDate (kind : String) (arguments : List Tree) : Option Tree :=
  let span := argumentAt arguments 1
  if span.isA .interval then
    let unit := span.slot "unit"
    callOf kind arguments.length [("this", argumentAt arguments 0),
      ("expression", span.slot "this"), ("unit", if unit.isNull then .word "DAY" else unit)]
  else none

/-- A text filled up on one side. -/
def padded (left : Bool) (arguments : List Tree) : Option Tree :=
  callOf "Pad" arguments.length [("this", argumentAt arguments 0),
    ("expression", argumentAt arguments 1), ("fill_pattern", argumentAt arguments 2),
    ("is_left", .flag left)]

/-- A text without characters on one side. -/
def trimmed (side : String) (arguments : List Tree) : Option Tree :=
  callOf "Trim" arguments.length [("this", argumentAt arguments 0),
    ("expression", argumentAt arguments 1), ("position", .text side)]

/-- A concatenation by a call. -/
def concatCall (grammar : Grammar) (kind : String) (arguments : List Tree) : Option Tree :=
  callOf kind arguments.length [("expressions", .list arguments), ("safe", .flag true),
    ("coalesce", .flag (grammar == .postgres))]

/-- A logarithm to a base. -/
def logarithm (base : String) (arguments : List Tree) : Option Tree :=
  callOf "Log" arguments.length [("this", .numberLiteral base),
    ("expression", argumentAt arguments 0)]

/-- A call of a function that has its argument converted to a date. -/
def datePart (kind : String) (arguments : List Tree) : Option Tree :=
  match arguments with
  | [] => none
  | first :: others => callOf kind arguments.length
      (("this", asDate first) :: (others.head?.toList.map fun mode => ("mode", mode)))

/-- A call with a pattern. -/
def patternCall (grammar : Grammar) (kind : String) (arguments : List Tree) : Option Tree :=
  callOf kind arguments.length [("this", argumentAt arguments 0),
    ("format", asPattern grammar (argumentAt arguments 1))]

/-- The greatest or the least of several values. -/
def extreme (grammar : Grammar) (kind : String) (arguments : List Tree) : Option Tree :=
  callOf kind arguments.length [("this", argumentAt arguments 0),
    ("expressions", .list (arguments.drop 1)), ("ignore_nulls", .flag (grammar == .postgres))]

/-- The calls that mean the same in both grammars and do not fill a form in its order. -/
def commonCall (grammar : Grammar) (key : String) (arguments : List Tree) :
    Option (Option Tree) :=
  let count := arguments.length
  let first := argumentAt arguments 0
  let second := argumentAt arguments 1
  match key with
  | "CHARINDEX" | "LOCATE" => some (callOf "StrPosition" count [("this", second),
      ("substr", first), ("position", argumentAt arguments 2)])
  | "INSTR" | "STRPOS" => some (plainCallOf "StrPosition" arguments)
  | "CONCAT" => some (concatCall grammar "Concat" arguments)
  | "CONCAT_WS" => some (concatCall grammar "ConcatWs" arguments)
  | "COUNT" => some (callOf "Count" count [("this", first),
      ("expressions", .list (arguments.drop 1)), ("big_int", .flag true)])
  | "GLOB" => some (operatorOf .glob second first)
  | "GREATEST" => some (extreme grammar "Greatest" arguments)
  | "LEAST" => some (extreme grammar "Least" arguments)
  | "JSON_EXTRACT" => some (callOf "JSONExtract" count [("this", first),
      ("expression", asPath grammar second), ("expressions", .list (arguments.drop 2))])
  | "LIKE" =>
    let similarity := operatorOf .similarity second first
    some (if count < 3 then similarity
      else similarity.bind fun tree => operatorOf .escape tree (argumentAt arguments 2))
  | "LOG" => some (if grammar = .mysql ∧ count = 1 then plainCallOf "Ln" arguments
      else plainCallOf "Log" arguments)
  | "LOG2" => some (logarithm "2" arguments)
  | "LOG10" => some (logarithm "10" arguments)
  | "LOWER" => some (if count = 1 ∧ first.kind? = some (.call (.known "Hex")) then
        callOf "LowerHex" 1 [("this", first.slot "this")]
      else plainCallOf "Lower" arguments)
  | "UPPER" => some (if count = 1 ∧ first.kind? = some (.call (.known "Hex")) then some first
      else plainCallOf "Upper" arguments)
  | "LPAD" => some (padded true arguments)
  | "RPAD" => some (padded false arguments)
  | "LTRIM" => some (trimmed "LEADING" arguments)
  | "RTRIM" => some (trimmed "TRAILING" arguments)
  | "MOD" => some (operatorOf .modulo (enclosedOperand first) (enclosedOperand second))
  | "TO_HEX" => some (plainCallOf "Hex" arguments)
  | "UUID" | "GEN_RANDOM_UUID" => some (callOf "Uuid" 0 [])
  | "XOR" => some (operatorOf .exclusive first second)
  | _ => none

/-- The calls of the first grammar that do not fill a form in its order. -/
def mysqlCall (key : String) (arguments : List Tree) : Option (Option Tree) :=
  let count := arguments.length
  let first := argumentAt arguments 0
  match key with
  | "BIT_AND" => some (plainCallOf "BitwiseAndAgg" arguments)
  | "BIT_COUNT" => some (plainCallOf "BitwiseCount" arguments)
  | "BIT_OR" => some (plainCallOf "BitwiseOrAgg" arguments)
  | "BIT_XOR" => some (plainCallOf "BitwiseXorAgg" arguments)
  | "CONVERT_TZ" => some (callOf "ConvertTimezone" count [("source_tz", argumentAt arguments 1),
      ("target_tz", argumentAt arguments 2), ("timestamp", first)])
  | "CURDATE" => some (plainCallOf "CurrentDate" arguments)
  | "CURTIME" => some (plainCallOf "CurrentTime" arguments)
  | "DATABASE" | "SCHEMA" => some (plainCallOf "CurrentSchema" arguments)
  | "DATE" => some (callOf "TsOrDsToDate" count [("this", first)])
  | "DATE_ADD" => some (shiftedDate "DateAdd" arguments)
  | "DATE_SUB" => some (shiftedDate "DateSub" arguments)
  | "DATE_FORMAT" => some (patternCall .mysql "TimeToStr" arguments)
  | "DAY" => some (datePart "Day" arguments)
  | "DAYOFMONTH" => some (datePart "DayOfMonth" arguments)
  | "DAYOFWEEK" => some (datePart "DayOfWeek" arguments)
  | "DAYOFYEAR" => some (datePart "DayOfYear" arguments)
  | "FORMAT" => some (plainCallOf "NumberToStr" arguments)
  | "FROM_UNIXTIME" => some (patternCall .mysql "UnixToTime" arguments)
  | "ISNULL" => some ((operatorOf .identity first (.bare .null [])).map (.unary .parentheses))
  | "LENGTH" => some (callOf "Length" count [("this", first), ("binary", .flag true)])
  | "MAKETIME" => some (plainCallOf "TimeFromParts" arguments)
  | "MONTH" => some (datePart "Month" arguments)
  | "MONTHNAME" => some (callOf "TimeToStr" count [("this", asDate first),
      ("format", .textLiteral "%B")])
  | "STR_TO_DATE" =>
    let pattern := argumentAt arguments 1
    let kind := if Calendar.hasTimeField pattern.nameText.toList then "StrToTime" else "StrToDate"
    some (patternCall .mysql kind arguments)
  | "TIMESTAMPDIFF" => some (callOf "TimestampDiff" count [("this", argumentAt arguments 2),
      ("expression", argumentAt arguments 1), ("unit", asUnit first)])
  | "TO_DAYS" =>
    let days := callOf "DateDiff" count [("this", asDate first),
      ("expression", asDate (.textLiteral "0000-01-01")), ("unit", .word "DAY")]
    some (days.map fun days => .unary .parentheses (.binary .add days (.numberLiteral "1")))
  | "VERSION" => some (plainCallOf "CurrentVersion" arguments)
  | "WEEK" => some (datePart "Week" arguments)
  | "WEEKOFYEAR" => some (datePart "WeekOfYear" arguments)
  | "YEAR" => some (datePart "Year" arguments)
  | _ => none

/-- The calls of the second grammar that do not fill a form in its order. -/
def postgresCall (key : String) (arguments : List Tree) : Option (Option Tree) :=
  let count := arguments.length
  let first := argumentAt arguments 0
  let second := argumentAt arguments 1
  match key with
  | "BIT_AND" => some (plainCallOf "BitwiseAndAgg" arguments)
  | "BIT_OR" => some (plainCallOf "BitwiseOrAgg" arguments)
  | "BIT_XOR" => some (plainCallOf "BitwiseXorAgg" arguments)
  | "DATE_TRUNC" => some (callOf "TimestampTrunc" count [("this", second), ("unit", asUnit first),
      ("zone", argumentAt arguments 2)])
  | "DIV" => some ((operatorOf .integerDivide first second).map fun quotient =>
      .cast quotient (.dataType "DECIMAL" []))
  | "GENERATE_SERIES" => some (plainCallOf "ExplodingGenerateSeries" arguments)
  | "GET_BIT" => some (callOf "Getbit" count [("this", first), ("expression", second),
      ("zero_is_msb", .flag true)])
  | "JSON_EXTRACT_PATH" => some (callOf "JSONExtract" count [("this", first),
      ("expression", second), ("expressions", .list (arguments.drop 2))])
  | "JSON_EXTRACT_PATH_TEXT" => some (callOf "JSONExtractScalar" count [("this", first),
      ("expression", second), ("expressions", .list (arguments.drop 2))])
  | "JSON_AGG" => some (plainCallOf "JSONArrayAgg" arguments)
  | "JSON_OBJECT_AGG" => some (plainCallOf "JSONObjectAgg" arguments)
  | "LENGTH" => some (callOf "Length" count [("this", first), ("encoding", second)])
  | "MAKE_TIME" => some (plainCallOf "TimeFromParts" arguments)
  | "MAKE_TIMESTAMP" => some (plainCallOf "TimestampFromParts" arguments)
  | "NOW" => some (plainCallOf "CurrentTimestamp" arguments)
  | "SHA256" => some (callOf "SHA2" count [("this", first), ("length", .numberLiteral "256")])
  | "SHA384" => some (callOf "SHA2" count [("this", first), ("length", .numberLiteral "384")])
  | "SHA512" => some (callOf "SHA2" count [("this", first), ("length", .numberLiteral "512")])
  | "TO_CHAR" => some (patternCall .postgres "TimeToStr" arguments)
  | "TO_DATE" => some (patternCall .postgres "StrToDate" arguments)
  | "TO_TIMESTAMP" => some (if count = 1 then callOf "UnixToTime" 1 [("this", first)]
      else patternCall .postgres "StrToTime" arguments)
  | "UNNEST" => some (plainCallOf "Explode" arguments)
  | "VERSION" => some (plainCallOf "CurrentVersion" arguments)
  | _ => none

/-- The calls of a grammar that do not fill a form in its order. -/
def specialCall : Grammar → String → List Tree → Option (Option Tree)
  | .mysql => mysqlCall
  | .postgres => postgresCall

/-- What a call of a known function by its name in capitals is. There is no such function, or there is
one, and the arguments fit or not. -/
def namedCall (grammar : Grammar) (key : String) (arguments : List Tree) : Option (Option Tree) :=
  match (specialCall grammar key arguments).or (commonCall grammar key arguments) with
  | some call => some call
  | none => (FunctionForm.ofName? key).map fun form => plainCallOf form.kind arguments

end SqlInsert.Sql
