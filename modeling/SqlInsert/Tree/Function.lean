/-!
# The functions known by name

A function that is known has a kind of its own. Its form says by which names it is called and in which
slots of the call its arguments stand; some of the slots have to be filled, and the last one may take
all further arguments. A call is written with the first name. The functions whose text follows a rule
of its own are here with all others, because their arguments are told apart in the same way. A function
that is not listed is a call by name: its arguments are not told apart, and its name is written in capitals
unless it is quoted.
-/

namespace SqlInsert

/-- How a known function is called. -/
structure FunctionForm where
  /-- The name of the kind of a call. -/
  kind : String
  /-- The names of the function in capitals, the written one first. -/
  names : List String
  /-- The slots of the arguments in their order. -/
  slots : List String
  /-- How many of the slots have to be filled. -/
  required : Nat
  /-- Whether the last slot is a list of all further arguments. -/
  isOpen : Bool

namespace FunctionForm

/-- A function without arguments. -/
def bare (kind name : String) : FunctionForm := ⟨kind, [name], [], 0, false⟩

/-- A function of one value. -/
def single (kind : String) (names : List String) : FunctionForm := ⟨kind, names, ["this"], 1, false⟩

/-- A function of one value or of none. -/
def optional (kind : String) (names : List String) : FunctionForm :=
  ⟨kind, names, ["this"], 0, false⟩

/-- A function of two values. -/
def pair (kind : String) (names : List String) : FunctionForm :=
  ⟨kind, names, ["this", "expression"], 2, false⟩

/-- A function of a value with another one that may be left out. -/
def extended (kind name slot : String) : FunctionForm := ⟨kind, [name], ["this", slot], 1, false⟩

/-- A function of one value or more. -/
def several (kind : String) (names : List String) : FunctionForm :=
  ⟨kind, names, ["this", "expressions"], 1, true⟩

/-- A function of any number of values in one list. -/
def listed (kind : String) (names : List String) (required : Nat) : FunctionForm :=
  ⟨kind, names, ["expressions"], required, true⟩

/-- The functions of numbers. -/
def numeric : List FunctionForm :=
  [single "Abs" ["ABS"], single "Acos" ["ACOS"], single "Acosh" ["ACOSH"], single "Asin" ["ASIN"],
    single "Asinh" ["ASINH"], extended "Atan" "ATAN" "expression", pair "Atan2" ["ATAN2"],
    single "Atanh" ["ATANH"], single "Cbrt" ["CBRT"],
    ⟨"Ceil", ["CEIL", "CEILING"], ["this", "decimals", "to"], 1, false⟩,
    single "Cos" ["COS"], single "Cosh" ["COSH"], single "Cot" ["COT"], single "Coth" ["COTH"],
    single "Csc" ["CSC"], single "Csch" ["CSCH"], single "Degrees" ["DEGREES"],
    single "Exp" ["EXP"], single "Factorial" ["FACTORIAL"],
    ⟨"Floor", ["FLOOR"], ["this", "decimals", "to"], 1, false⟩,
    several "Greatest" ["GREATEST"], several "Least" ["LEAST"], single "Ln" ["LN"],
    extended "Log" "LOG" "expression", bare "Pi" "PI", pair "Pow" ["POWER", "POW"],
    single "Radians" ["RADIANS"], ⟨"Rand", ["RAND", "RANDOM"], ["this", "lower", "upper"], 0, false⟩,
    ⟨"Round", ["ROUND"], ["this", "decimals", "truncate", "casts_non_integer_decimals"], 1, false⟩,
    pair "SafeDivide" ["SAFE_DIVIDE"], single "Sec" ["SEC"], single "Sech" ["SECH"],
    single "Sign" ["SIGN", "SIGNUM"], single "Sin" ["SIN"], single "Sinh" ["SINH"],
    single "Sqrt" ["SQRT"], single "Tan" ["TAN"], single "Tanh" ["TANH"],
    ⟨"Trunc", ["TRUNC", "TRUNCATE"], ["this", "decimals"], 1, false⟩,
    ⟨"WidthBucket", ["WIDTH_BUCKET"], ["this", "min_value", "max_value", "num_buckets"], 1, false⟩,
    single "IsInf" ["IS_INF", "ISINF"], single "IsNan" ["IS_NAN", "ISNAN"]]

/-- The functions of texts. -/
def textual : List FunctionForm :=
  [single "Ascii" ["ASCII"], single "BitLength" ["BIT_LENGTH"], single "ByteLength" ["BYTE_LENGTH"],
    listed "Chr" ["CHR", "CHAR"] 1, single "Collation" ["COLLATION"],
    listed "Concat" ["CONCAT"] 1, listed "ConcatWs" ["CONCAT_WS"] 1,
    extended "Compress" "COMPRESS" "method", pair "Contains" ["CONTAINS"], pair "Decode" ["DECODE"],
    ⟨"Elt", ["ELT"], ["this", "expressions"], 2, true⟩, pair "Encode" ["ENCODE"],
    pair "EndsWith" ["ENDS_WITH", "ENDSWITH"], several "Format" ["FORMAT"],
    single "FromBase64" ["FROM_BASE64"], pair "FromBase" ["FROM_BASE"], single "Hex" ["HEX"],
    single "LowerHex" ["LOWER_HEX"], extended "Initcap" "INITCAP" "expression",
    pair "Left" ["LEFT"], pair "Right" ["RIGHT"],
    ⟨"Length", ["LENGTH", "LEN", "CHAR_LENGTH", "CHARACTER_LENGTH"],
      ["this", "binary", "encoding"], 1, false⟩,
    ⟨"Levenshtein", ["LEVENSHTEIN", "EDITDISTANCE"],
      ["this", "expression", "ins_cost", "del_cost", "sub_cost", "max_dist"], 1, false⟩,
    ⟨"MatchAgainst", ["MATCH_AGAINST"], ["this", "expressions", "modifier"], 2, false⟩,
    single "Lower" ["LOWER", "LCASE"], single "Upper" ["UPPER", "UCASE"], single "MD5" ["MD5"],
    several "MD5Digest" ["MD5_DIGEST"], ⟨"Normalize", ["NORMALIZE"], ["this", "form"], 1, false⟩,
    ⟨"NumberToStr", ["NUMBER_TO_STR"], ["this", "format", "culture"], 2, false⟩,
    ⟨"Overlay", ["OVERLAY"], ["this", "expression", "from_", "for_"], 3, false⟩,
    ⟨"RegexpCount", ["REGEXP_COUNT"], ["this", "expression", "position", "parameters"], 2, false⟩,
    ⟨"RegexpExtract", ["REGEXP_EXTRACT"],
      ["this", "expression", "position", "occurrence", "parameters", "group"], 2, false⟩,
    ⟨"RegexpInstr", ["REGEXP_INSTR"],
      ["this", "expression", "position", "occurrence", "option", "parameters", "group"], 2, false⟩,
    ⟨"RegexpLike", ["REGEXP_LIKE"], ["this", "expression", "flag"], 2, false⟩,
    ⟨"RegexpReplace", ["REGEXP_REPLACE"],
      ["this", "expression", "replacement", "position", "occurrence", "modifiers"], 2, false⟩,
    ⟨"Repeat", ["REPEAT"], ["this", "times"], 2, false⟩,
    ⟨"Replace", ["REPLACE"], ["this", "expression", "replacement"], 2, false⟩,
    single "Reverse" ["REVERSE"], single "SHA" ["SHA", "SHA1"], extended "SHA2" "SHA2" "length",
    single "Soundex" ["SOUNDEX"], single "Space" ["SPACE"],
    ⟨"Split", ["SPLIT"], ["this", "expression", "limit"], 2, false⟩,
    ⟨"SplitPart", ["SPLIT_PART"], ["this", "delimiter", "part_index"], 1, false⟩,
    pair "StartsWith" ["STARTS_WITH", "STARTSWITH"],
    ⟨"StrPosition", ["STR_POSITION"], ["this", "substr", "position", "occurrence"], 2, false⟩,
    ⟨"StringToArray", ["STRING_TO_ARRAY", "SPLIT_BY_STRING", "STRTOK_TO_ARRAY"],
      ["this", "expression", "null"], 1, false⟩,
    ⟨"Stuff", ["STUFF", "INSERT"], ["this", "start", "length", "expression"], 4, false⟩,
    ⟨"Substring", ["SUBSTRING", "SUBSTR"], ["this", "start", "length"], 1, false⟩,
    ⟨"SubstringIndex", ["SUBSTRING_INDEX"], ["this", "delimiter", "count"], 3, false⟩,
    single "ToBase64" ["TO_BASE64"], ⟨"ToChar", ["TO_CHAR"], ["this", "format", "nls_param"], 1, false⟩,
    ⟨"ToNumber", ["TO_NUMBER"], ["this", "format", "nls_param"], 1, false⟩,
    ⟨"Translate", ["TRANSLATE"], ["this", "from_", "to"], 3, false⟩,
    ⟨"Trim", ["TRIM"], ["this", "expression", "position", "collation"], 1, false⟩,
    ⟨"Pad", ["PAD"], ["this", "expression", "fill_pattern"], 2, false⟩,
    extended "Unhex" "UNHEX" "expression", single "Unicode" ["UNICODE"]]

/-- The functions of dates and times. -/
def temporal : List FunctionForm :=
  [pair "AddMonths" ["ADD_MONTHS"], optional "CurrentDate" ["CURRENT_DATE"],
    optional "CurrentDatetime" ["CURRENT_DATETIME"], optional "CurrentTime" ["CURRENT_TIME"],
    ⟨"CurrentTimestamp", ["CURRENT_TIMESTAMP"], ["this", "sysdate"], 0, false⟩,
    bare "CurrentTimezone" "CURRENT_TIMEZONE",
    ⟨"ConvertTimezone", ["CONVERT_TIMEZONE"], ["source_tz", "target_tz", "timestamp"], 2, false⟩,
    ⟨"Date", ["DATE"], ["this", "zone", "expressions"], 0, true⟩,
    ⟨"DateAdd", ["DATE_ADD"], ["this", "expression", "unit"], 2, false⟩,
    ⟨"DateSub", ["DATE_SUB"], ["this", "expression", "unit"], 2, false⟩,
    ⟨"DateDiff", ["DATEDIFF", "DATE_DIFF"], ["this", "expression", "unit"], 2, false⟩,
    ⟨"DateFromParts", ["DATE_FROM_PARTS", "DATEFROMPARTS"], ["year", "month", "day"], 1, false⟩,
    ⟨"DateBin", ["DATE_BIN"], ["this", "expression", "unit", "zone", "origin_offset"], 2, false⟩,
    ⟨"DateTrunc", ["DATE_TRUNC"], ["unit", "this", "zone"], 2, false⟩,
    extended "Datetime" "DATETIME" "expression", single "Day" ["DAY"],
    single "DayOfMonth" ["DAY_OF_MONTH", "DAYOFMONTH"],
    single "DayOfWeek" ["DAY_OF_WEEK", "DAYOFWEEK"],
    single "DayOfWeekIso" ["DAYOFWEEK_ISO", "ISODOW"],
    single "DayOfYear" ["DAY_OF_YEAR", "DAYOFYEAR"], extended "Dayname" "DAYNAME" "abbreviated",
    pair "Extract" ["EXTRACT"], single "Hour" ["HOUR"],
    single "JustifyDays" ["JUSTIFY_DAYS"], single "JustifyHours" ["JUSTIFY_HOURS"],
    single "JustifyInterval" ["JUSTIFY_INTERVAL"],
    ⟨"LastDay", ["LAST_DAY", "LAST_DAY_OF_MONTH"], ["this", "unit"], 1, false⟩,
    optional "Localtime" ["LOCALTIME"], optional "Localtimestamp" ["LOCALTIMESTAMP"],
    ⟨"MakeInterval", ["MAKE_INTERVAL"],
      ["year", "month", "week", "day", "hour", "minute", "second"], 0, false⟩,
    single "Minute" ["MINUTE"], single "Month" ["MONTH"],
    extended "Monthname" "MONTHNAME" "abbreviated", pair "MonthsBetween" ["MONTHS_BETWEEN"],
    single "Quarter" ["QUARTER"], single "Second" ["SECOND"],
    ⟨"StrToDate", ["STR_TO_DATE"], ["this", "format"], 1, false⟩,
    ⟨"StrToTime", ["STR_TO_TIME"], ["this", "format", "zone"], 2, false⟩,
    ⟨"Time", ["TIME"], ["this", "zone"], 0, false⟩,
    ⟨"TimeDiff", ["TIME_DIFF"], ["this", "expression", "unit"], 2, false⟩,
    ⟨"TimeFromParts", ["TIME_FROM_PARTS", "TIMEFROMPARTS"],
      ["hour", "min", "sec", "nano", "fractions", "precision"], 3, false⟩,
    ⟨"TimeToStr", ["TIME_TO_STR"], ["this", "format", "culture", "zone"], 2, false⟩,
    ⟨"Timestamp", ["TIMESTAMP"], ["this", "zone", "with_tz"], 0, false⟩,
    ⟨"TimestampAdd", ["TIMESTAMP_ADD"], ["this", "expression", "unit"], 2, false⟩,
    ⟨"TimestampSub", ["TIMESTAMP_SUB"], ["this", "expression", "unit"], 2, false⟩,
    ⟨"TimestampDiff", ["TIMESTAMPDIFF", "TIMESTAMP_DIFF"], ["this", "expression", "unit"], 2, false⟩,
    ⟨"TimestampFromParts", ["TIMESTAMP_FROM_PARTS", "TIMESTAMPFROMPARTS"],
      ["year", "month", "day", "hour", "min", "sec", "nano", "zone"], 6, false⟩,
    ⟨"TimestampTrunc", ["TIMESTAMP_TRUNC"], ["this", "unit", "zone"], 2, false⟩,
    single "ToDays" ["TO_DAYS"],
    ⟨"TsOrDsToDate", ["TS_OR_DS_TO_DATE"], ["this", "format", "safe"], 1, false⟩,
    ⟨"UnixToTime", ["UNIX_TO_TIME"], ["this", "scale", "zone", "hours", "minutes", "format"],
      1, false⟩,
    bare "UtcDate" "UTC_DATE", optional "UtcTime" ["UTC_TIME"],
    optional "UtcTimestamp" ["UTC_TIMESTAMP"], extended "Week" "WEEK" "mode",
    single "WeekOfYear" ["WEEK_OF_YEAR", "WEEKOFYEAR"], single "Year" ["YEAR"]]

/-- The functions of documents and arrays. -/
def structured : List FunctionForm :=
  [listed "Array" ["ARRAY"] 0, pair "ArrayAppend" ["ARRAY_APPEND"],
    several "ArrayConcat" ["ARRAY_CONCAT", "ARRAY_CAT"],
    pair "ArrayContains" ["ARRAY_CONTAINS", "ARRAY_HAS"], pair "ArrayPrepend" ["ARRAY_PREPEND"],
    pair "ArrayRemove" ["ARRAY_REMOVE"], single "ArrayReverse" ["ARRAY_REVERSE"],
    ⟨"ArraySize", ["ARRAY_LENGTH", "ARRAY_SIZE"], ["this", "expression"], 1, false⟩,
    ⟨"ArrayToString", ["ARRAY_TO_STRING", "ARRAY_JOIN"], ["this", "expression", "null"], 2, false⟩,
    single "Explode" ["EXPLODE"], single "Flatten" ["FLATTEN"],
    ⟨"GenerateSeries", ["GENERATE_SERIES"], ["start", "end", "step"], 2, false⟩,
    ⟨"ExplodingGenerateSeries", ["EXPLODING_GENERATE_SERIES"], ["start", "end", "step"], 2, false⟩,
    single "JSONArrayAgg" ["JSON_ARRAY_AGG"],
    ⟨"JSONArrayAppend", ["JSON_ARRAY_APPEND"], ["this", "expressions"], 2, true⟩,
    ⟨"JSONArrayInsert", ["JSON_ARRAY_INSERT"], ["this", "expressions"], 2, true⟩,
    pair "JSONBExists" ["JSONB_EXISTS"], pair "JSONBObjectAgg" ["JSONB_OBJECT_AGG"],
    ⟨"JSONExtract", ["JSON_EXTRACT"], ["this", "expression", "expressions"], 2, true⟩,
    ⟨"JSONKeys", ["JSON_KEYS"], ["this", "expression", "expressions"], 1, true⟩,
    listed "JSONObject" ["JSON_OBJECT"] 0, listed "JSONObjectAgg" ["JSON_OBJECTAGG"] 0,
    ⟨"JSONRemove", ["JSON_REMOVE"], ["this", "expressions"], 2, true⟩,
    several "JSONSet" ["JSON_SET"],
    ⟨"JSONStripNulls", ["JSON_STRIP_NULLS"], ["this", "expression", "include_arrays"], 1, false⟩,
    extended "JSONType" "JSON_TYPE" "expression",
    ⟨"ParseJSON", ["PARSE_JSON", "JSON_PARSE"], ["this", "expression"], 1, false⟩]

/-- The functions of whole groups of rows. -/
def aggregate : List FunctionForm :=
  [single "AnyValue" ["ANY_VALUE"], single "ArrayAgg" ["ARRAY_AGG"], single "Avg" ["AVG"],
    single "BitwiseAndAgg" ["BITWISE_AND_AGG"], single "BitwiseOrAgg" ["BITWISE_OR_AGG"],
    single "BitwiseXorAgg" ["BITWISE_XOR_AGG"], single "BitwiseCount" ["BITWISE_COUNT"],
    pair "Corr" ["CORR"], ⟨"Count", ["COUNT"], ["this", "expressions"], 0, true⟩,
    single "CountIf" ["COUNT_IF", "COUNTIF"],
    pair "CovarPop" ["COVAR_POP"], pair "CovarSamp" ["COVAR_SAMP"],
    listed "CumeDist" ["CUME_DIST"] 0, listed "DenseRank" ["DENSE_RANK"] 0,
    single "FirstValue" ["FIRST_VALUE"], single "LastValue" ["LAST_VALUE"],
    ⟨"Lag", ["LAG"], ["this", "offset", "default"], 1, false⟩,
    ⟨"Lead", ["LEAD"], ["this", "offset", "default"], 1, false⟩,
    ⟨"NthValue", ["NTH_VALUE"], ["this", "offset"], 2, false⟩, optional "Ntile" ["NTILE"],
    listed "PercentRank" ["PERCENT_RANK"] 0, listed "Rank" ["RANK"] 0,
    optional "RowNumber" ["ROW_NUMBER"],
    ⟨"GroupConcat", ["GROUP_CONCAT"], ["this", "separator"], 1, false⟩,
    listed "Grouping" ["GROUPING"] 1, single "LogicalAnd" ["LOGICAL_AND", "BOOL_AND", "BOOLAND_AGG"],
    single "LogicalOr" ["LOGICAL_OR", "BOOL_OR", "BOOLOR_AGG"], several "Max" ["MAX"],
    several "Min" ["MIN"], single "Median" ["MEDIAN"], optional "Mode" ["MODE"],
    single "Stddev" ["STDDEV", "STDEV"], single "StddevPop" ["STDDEV_POP"],
    single "StddevSamp" ["STDDEV_SAMP"], single "Sum" ["SUM"],
    extended "PercentileCont" "PERCENTILE_CONT" "expression",
    extended "PercentileDisc" "PERCENTILE_DISC" "expression",
    pair "RegrAvgx" ["REGR_AVGX"], pair "RegrAvgy" ["REGR_AVGY"], pair "RegrCount" ["REGR_COUNT"],
    pair "RegrIntercept" ["REGR_INTERCEPT"], pair "RegrR2" ["REGR_R2"],
    pair "RegrSlope" ["REGR_SLOPE"], pair "RegrSxx" ["REGR_SXX"], pair "RegrSxy" ["REGR_SXY"],
    pair "RegrSyy" ["REGR_SYY"],
    single "Variance" ["VARIANCE", "VARIANCE_SAMP", "VAR_SAMP"],
    single "VariancePop" ["VARIANCE_POP", "VAR_POP"]]

/-- The functions that choose among values or tell of the session. -/
def general : List FunctionForm :=
  [several "Coalesce" ["COALESCE", "IFNULL", "NVL"], bare "CurrentCatalog" "CURRENT_CATALOG",
    bare "CurrentDatabase" "CURRENT_DATABASE", bare "CurrentRole" "CURRENT_ROLE",
    optional "CurrentSchema" ["CURRENT_SCHEMA"], optional "CurrentSchemas" ["CURRENT_SCHEMAS"],
    optional "CurrentUser" ["CURRENT_USER"], bare "CurrentVersion" "CURRENT_VERSION",
    bare "SessionUser" "SESSION_USER", ⟨"If", ["IF", "IIF"], ["this", "true", "false"], 2, false⟩,
    pair "Nullif" ["NULLIF"], ⟨"Nvl2", ["NVL2"], ["this", "true", "false"], 2, false⟩,
    ⟨"Uuid", ["UUID", "GEN_RANDOM_UUID", "GENERATE_UUID", "UUID_STRING"],
      ["this", "name", "is_string"], 0, false⟩,
    pair "Getbit" ["GETBIT", "GET_BIT"], single "TypeOf" ["TYPEOF"],
    single "ZeroIfNull" ["ZEROIFNULL"]]

/-- All known functions. -/
def all : List FunctionForm :=
  numeric ++ textual ++ temporal ++ structured ++ aggregate ++ general

/-- The form of the function with a kind. -/
def ofKind? (kind : String) : Option FunctionForm :=
  all.find? (·.kind == kind)

/-- The form of the function with a name in capitals. -/
def ofName? (name : String) : Option FunctionForm :=
  all.find? (·.names.contains name)

end FunctionForm

end SqlInsert
