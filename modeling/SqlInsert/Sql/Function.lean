import SqlInsert.Sql.Name
import SqlInsert.Sql.Call
/-!
# Reading calls of functions

A call is a name with arguments in parentheses. Some functions have words of their own between the
arguments, some need no parentheses, and cases are made of branches. What is known about the rows that
a function works on stands behind the call. A call has the comments of its name and of its closing
parenthesis.

The words of `JSON_VALUE` and `JSON_TABLE` and those of the functions for XML are left out: such a call is
refused where it uses them, and a call by name where it does not.
-/

namespace SqlInsert.Sql

open Reader

variable (grammar : Grammar) (read : Grammatical)

/-! ## Arguments -/

/-- The names in front of an arrow, or of what might be one. -/
def arrowNames : Reader (List Tree) := do
  let place ← get
  if ← takeSign "(" then
    let names ← commaList (anyName grammar)
    if ← takeSign ")" then return names
    else
      backTo place
      return []
  else return (← anyName grammar).toList

/-- A function that stands for itself, or an argument by its name. -/
def arrowArgument : Reader (Option Tree) := do
  let place ← get
  let names ← arrowNames grammar
  if ← takeSign "->" then
    let body ← need "a value" (← read .disjunction)
    return some (← make (.other "Lambda") [("this", body), ("expressions", .list names)])
  else if ← takeSign "=>" then
    let value ← need "a value" (← read .disjunction)
    let name := ((names.head?.map (·.nameText)).getD "")
    return some (← make (.binary .namedArgument) [("this", .word name), ("expression", value)])
  else
    backTo place
    return none

/-- Different values only, behind the word for that. -/
def distinctValues : Reader Tree := do
  let values ← commaList (read .disjunction)
  make .distinct [("expressions", .list values)]

/-- A query or an expression, which may have another name if that is announced. -/
def queryOrValue (mayBeNamed : Bool) : Reader (Option Tree) := do
  match ← read .query with
  | some query => return some query
  | none =>
    match ← read .assignment with
    | none => return none
    | some value => read (.united (← if mayBeNamed then named grammar read true value else pure value))

/-- An argument of a function. -/
def argument (mayBeNamed : Bool) : Reader (Option Tree) := do
  match ← arrowArgument grammar read with
  | some argument => return some argument
  | none =>
    let value ← do
      if ← takeWord "DISTINCT" then some <$> distinctValues read
      else
        let _ ← takeWord "ALL"
        queryOrValue grammar read mayBeNamed
    order grammar read value

/-! ## Functions with words of their own -/

/-- A text constant. -/
def constant : Reader (Option Tree) :=
  leaf fun
    | .constant text => some (.textLiteral text)
    | _ => none

/-- A word or a text constant. -/
def wordOrConstant : Reader (Option Tree) :=
  firstOf [constant, anyWord grammar]

/-- A cast to a data type, behind the opening parenthesis. -/
def castCall (tolerant : Bool) : Reader Tree := do
  let value ← need "a value" (← read .assignment)
  needWord "AS"
  let type ← need "a data type" (← dataType grammar true)
  let type ← do
    if type.slot "this" matches .typeName "CHAR" then
      if ← takeWords ["CHARACTER", "SET"] then
        make (.other "CharacterSet") [("this", .optional (← wordOrConstant grammar))]
      else pure type
    else pure type
  make (.cast tolerant) [("this", value), ("to", type)]

/-- A conversion to a data type or to a character set. -/
def convertCall : Reader Tree := do
  let value ← need "a value" (← read .bitwise)
  let target ← do
    if ← takeWord "USING" then
      let name ← need "a character set" (← anyWord grammar)
      some <$> make (.other "CharacterSet") [("this", name)]
    else if ← takeSign "," then dataType grammar true
    else pure none
  make (.cast false) [("this", value), ("to", ← need "a data type" target)]

/-- Characters by their codes. -/
def charCall : Reader Tree := do
  let codes ← commaList (read .assignment)
  if codes.isEmpty then fail "a code"
  let charset ← do if ← takeWord "USING" then anyWord grammar else pure none
  make (.call .chr) [("expressions", .list codes), ("charset", .optional charset)]

/-- A field of a date. -/
def extractCall : Reader Tree := do
  let unit ← need "a field" (← firstOf [constant, capitalWord grammar])
  if !(← takeWord "FROM") then needSign ","
  let source ← need "a date" (← read .bitwise)
  make (.call .extract) [("this", unit), ("expression", source)]

/-- A field of a date, given as a text. -/
def datePartCall : Reader Tree := do
  let field ← need "a field" (← read .operand)
  let _ ← takeSign ","
  let source ← need "a date" (← read .bitwise)
  let field := if field.isA .column || field.isA .literal then .word field.nameText else field
  make (.call .extract) [("this", field), ("expression", source)]

/-- A key and a value of a document. -/
def keyValue : Reader (Option Tree) := do
  let _ ← takeWord "KEY"
  let key ← read .column
  if !(← takeSign ",") && !(← takeSign ":") then
    let _ ← takeWord "IS"
  let _ ← takeWord "VALUE"
  let value ← read .bitwise
  if key.isNone && value.isNone then return none
  else return some (← make (.other "JSONKeyValue") [("this", .optional key),
    ("expression", .optional value)])

/-- A document made of keys and values. -/
def documentCall (kind : Kind) : Reader Tree := do
  let pairs ← commaList (keyValue read)
  make kind [("expressions", .list pairs)]

/-- The words for how a search in texts is done. -/
def searchMode : Reader (Option String) := do
  let inLanguage ← takeWords ["IN", "NATURAL", "LANGUAGE", "MODE"]
  let isBoolean ← if inLanguage then pure false else takeWords ["IN", "BOOLEAN", "MODE"]
  let expands ← if isBoolean then pure false else takeWords ["WITH", "QUERY", "EXPANSION"]
  let words := (if inLanguage then ["IN NATURAL LANGUAGE MODE"] else []) ++
    (if isBoolean then ["IN BOOLEAN MODE"] else []) ++
    (if expands then ["WITH QUERY EXPANSION"] else [])
  return if words.isEmpty then none else some (" ".intercalate words)

/-- A search for a text in columns. -/
def searchCall : Reader Tree := do
  let columns ← commaList (read .column)
  needSign ")"
  needWord "AGAINST"
  needSign "("
  let sought ← need "a text" (← constant)
  let mode ← searchMode
  make (.call (.known "MatchAgainst")) [("this", sought), ("expressions", .list columns),
    ("modifier", .optional (mode.map .text))]

/-- An operand behind a comma or a word. -/
def operandBehind (word : String) : Reader Tree := do
  if (← takeSign ",") || (← takeWord word) then return .optional (← read .bitwise)
  else return .null

/-- A text with another text in the place of a part. -/
def overlayCall : Reader Tree := do
  let text ← need "a text" (← read .bitwise)
  let other ← operandBehind read "PLACING"
  let start ← operandBehind read "FROM"
  let length ← operandBehind read "FOR"
  if other.isNull || start.isNull then fail "a part"
  make (.call .overlay) [("this", text), ("expression", other), ("from_", start), ("for_", length)]

/-- The place of a text in another one. -/
def positionCall : Reader Tree := do
  let values ← commaList (read .bitwise)
  if ← takeWord "IN" then
    let text ← need "a text" (← read .bitwise)
    make (.call .position) [("this", text), ("substr", argumentAt values 0)]
  else if values.length < 2 then fail "a text"
  else make (.call .position) [("this", argumentAt values 1), ("substr", argumentAt values 0),
    ("position", argumentAt values 2)]

/-- The clauses about a part of a text: where it begins and how long it is. -/
def partClauses : Nat → Option Tree → Option Tree → Reader (List Tree)
  | 0, start, length => return start.toList ++ length.toList
  | bound + 1, start, length => do
    if ← takeWord "FROM" then partClauses bound (← read .bitwise) length
    else if ← takeWord "FOR" then
      partClauses bound (start.or (some (.numberLiteral "1"))) (← read .bitwise)
    else return start.toList ++ length.toList

/-- A part of a text. -/
def substringCall : Reader Tree := do
  let values ← commaList (read .bitwise)
  let clauses ← partClauses read (← stepBound) none none
  need "a text" (plainCallOf "Substring" (values ++ clauses))

/-- A text without characters at its ends. -/
def trimCall : Reader Tree := do
  let side ← takeOneOf ["LEADING", "TRAILING", "BOTH"]
  let first ← read .bitwise
  let (text, removed) ← do
    if ← takeWord "FROM" then pure (← read .bitwise, first)
    else if ← takeSign "," then pure (first, ← read .bitwise)
    else pure (first, none)
  let collation ← do if ← takeWord "COLLATE" then read .bitwise else pure none
  make (.call .trim) [("this", ← need "a text" text), ("expression", .optional removed),
    ("position", .optional (side.map .text)), ("collation", .optional collation)]

/-- The texts of a group in one, with a separator between them and possibly in an order. -/
def textsCall : Reader Tree := do
  let values ← do
    if ← takeWord "DISTINCT" then
      let first ← make .distinct [("expressions", .list (← read .disjunction).toList)]
      if ← takeSign "," then pure (first :: (← commaList (read .disjunction))) else pure [first]
    else commaList (read .disjunction)
  match values with
  | [] => fail "a text"
  | first :: others =>
    let ordered ← order grammar read (some first)
    need "a text" (plainCallOf "GroupConcat" (ordered.toList ++ others))

/-- Several texts of a group side by side. -/
def besides (texts : List Tree) : Reader Tree :=
  match texts with
  | [text] => pure text
  | texts => make (.call .concat) [("expressions", .list texts), ("safe", .flag true)]

/-- The texts of a group in one, where the separator stands behind a word. -/
def groupConcatCall : Reader Tree := do
  let values ← commaList (argument grammar read false)
  let content ← match values.reverse with
    | [] => pure Tree.null
    | last :: earlier =>
      if last.isA (.other "Order") then
        let texts := earlier.reverse ++ [last.slot "this"]
        pure (Tree.bare (.other "Order") [("this", ← besides texts),
          ("expressions", last.slot "expressions")])
      else besides values
  let separator ← do if ← takeWord "SEPARATOR" then read .column else pure none
  if content.isNull then fail "a text"
  make (.call .groupConcat) [("this", content), ("separator", .optional separator)]

/-- The value that a row would have had. -/
def valuesCall : Reader Tree := do
  let name ← anyName grammar
  make (.call .anonymous) [("this", .text "VALUES"), ("expressions", .list name.toList)]

/-- The functions with words of their own between their arguments, by their names in capitals. -/
def ownSyntax (key : String) : Option (Reader Tree) :=
  match key, grammar with
  | "CAST", _ => some (castCall grammar read false)
  | "TRY_CAST", _ | "SAFE_CAST", _ => some (castCall grammar read true)
  | "CONVERT", _ => some (convertCall grammar read)
  | "CHAR", _ | "CHR", _ => some (charCall grammar read)
  | "EXTRACT", _ => some (extractCall grammar read)
  | "JSON_OBJECT", _ => some (documentCall read (.call .jsonObject))
  | "JSON_OBJECTAGG", _ => some (documentCall read (.call (.known "JSONObjectAgg")))
  | "MATCH", _ => some (searchCall read)
  | "OVERLAY", _ => some (overlayCall read)
  | "POSITION", _ => some (positionCall read)
  | "STRING_AGG", _ => some (textsCall grammar read)
  | "SUBSTRING", _ => some (substringCall read)
  | "TRIM", _ => some (trimCall read)
  | "SUBSTR", .mysql => some (substringCall read)
  | "GROUP_CONCAT", .mysql => some (groupConcatCall grammar read)
  | "VALUES", .mysql => some (valuesCall grammar)
  | "DATE_PART", .postgres => some (datePartCall read)
  | _, _ => none

/-! ## Rows that a function works on -/

/-- One end of a range of rows. -/
def rangeEnd (slot : String) : Reader (List (String × Tree)) := do
  let value ← do
    if ← takeWord "UNBOUNDED" then pure (some (Tree.text "UNBOUNDED"))
    else if ← takeWords ["CURRENT", "ROW"] then pure (some (.text "CURRENT ROW"))
    else read .bitwise
  let side ← takeOneOf ["PRECEDING", "FOLLOWING"]
  return [(slot, .optional value), (slot ++ "_side", .optional (side.map .text))]

/-- A range of rows around a row. -/
def rowRange : Reader (Option Tree) := do
  match ← takeOneOf ["ROWS", "RANGE"] with
  | none => return none
  | some kind =>
    let _ ← takeWord "BETWEEN"
    let first ← rangeEnd read "start"
    let last ← do if ← takeWord "AND" then rangeEnd read "end" else pure []
    return some (← make (.other "WindowSpec") (("kind", .text kind) :: first ++ last))

/-- The rows over which a function is taken, behind the word for them. -/
def windowOver (call : Tree) : Reader Tree := do
  let given := call.comments
  let call := call.withoutComments
  if !(← takeSign "(") then
    let name ← need "a name" (← plainName grammar)
    attachOr given (.bare (.other "Window") [("this", call), ("alias", name), ("over", .text "OVER")])
  else
    let name ← do
      if (← atWord "ROWS") || (← atWord "RANGE") then pure none else plainName grammar
    let keys ← do if ← takeWord "PARTITION BY" then commaList (read .disjunction) else pure []
    let order ← order grammar read none
    let range ← rowRange read
    needSign ")"
    attachOr given (.bare (.other "Window") [("this", call), ("partition_by", .list keys),
      ("order", .optional order), ("spec", .optional range), ("alias", .optional name),
      ("over", .text "OVER")])

/-- What is said behind a call about the rows that the function works on. -/
def window (call : Tree) : Reader Tree := do
  let call ← do
    if ← takeWords ["WITHIN", "GROUP"] then
      needSign "("
      let order ← order grammar read none
      needSign ")"
      make (.other "WithinGroup") [("this", call), ("expression", .optional order)]
    else pure call
  let call ← do
    match ← look with
    | .word text :: .sign "(" :: _ =>
      if Text.upper text = "FILTER" then
        advance 2
        let filter ← need "a condition" (← condition read "WHERE" "Where")
        let filtered ← make (.other "Filter") [("this", call), ("expression", filter)]
        needSign ")"
        pure filtered
      else pure call
    | _ => pure call
  if ← takeWord "OVER" then windowOver grammar read call
  else return call

/-! ## Calls -/

/-- A condition with two results, behind the word for it. -/
def ifThen (place : Cursor) : Reader (Option Tree) := do
  if ← takeSign "(" then
    let values ← closedList do
      match ← read .assignment with
      | some value => return some (← named grammar read true value)
      | none => return none
    return some (← need "other arguments" (plainCallOf "If" values))
  else
    match ← read .disjunction with
    | none =>
      backTo place
      return none
    | some condition =>
      let _ ← takeWord "THEN"
      let result ← need "a result" (← read .disjunction)
      let other ← do if ← takeWord "ELSE" then read .disjunction else pure none
      let _ ← takeWord "END"
      return some (← make (.call .ifThen) [("this", condition), ("true", result),
        ("false", .optional other)])

/-- A branch of a case expression. -/
def branch : Reader (Option Tree) := do
  if ← takeWord "WHEN" then
    let condition ← need "a condition" (← read .disjunction)
    let _ ← takeWord "THEN"
    let result ← need "a result" (← read .disjunction)
    return some (← make (.call .ifThen) [("this", condition), ("true", result)])
  else return none

/-- The branches of a case expression and its end, behind the word for it. -/
def caseOf : Reader Tree := do
  let given ← waiting
  let subject ← read .disjunction
  let branches ← many (branch read) (← stepBound) []
  if branches.isEmpty then fail "a branch"
  let default ← do if ← takeWord "ELSE" then read .disjunction else pure none
  needWord "END"
  attachOr given (.bare (.call .caseOf) [("this", .optional subject), ("ifs", .list branches),
    ("default", .optional default)])

/-- The predicates about a query, with their kinds. -/
def queryPredicates : List (String × Kind) :=
  [("EXISTS", .call .existence), ("ALL", .other "All"), ("SOME", .other "Any")]

/-- The kind of a predicate about a query, if a name is one and a query follows. -/
def queryPredicate? (key : String) : Reader (Option Kind) := do
  if (← atWord "SELECT") || (← atWord "WITH") then return queryPredicates.lookup key
  else return none

/-- A call of a function that is not known, behind the opening parenthesis. -/
def unknownCall (name : Tree) : Reader Tree := do
  let arguments ← commaList (argument grammar read true)
  make (.call .anonymous) [("this", name), ("expressions", .list arguments)]

/-- A call by a name in capitals, behind the opening parenthesis. -/
def callByName (key : String) (name : Tree) : Reader Tree := do
  match ownSyntax grammar read key with
  | some reading => reading
  | none =>
    if (namedCall grammar key []).isNone then unknownCall grammar read name
    else
      let arguments ← commaList (argument grammar read false)
      need "other arguments" (namedCall grammar key arguments).join

/-- The end of a call: its closing parenthesis, the comments of its name, and its rows. -/
def finished (comments : List String) (call : Tree) : Reader Tree := do
  window grammar read (← close (call.withComments comments))

/-- The comments of the token at the front. -/
def commentsAhead : Reader (List String) := do
  return ((← get).rest.head?.map (·.comments)).getD []

/-- A call of a function by a word or a quoted name, which is followed by a parenthesis. -/
def functionCall (key : String) (name : Tree) : Reader Tree := do
  let given ← commentsAhead
  advance 2
  match ← if name.isA .identifier then pure none else queryPredicate? key with
  | some predicate =>
    let query ← need "a query" (← read .query)
    needSign ")"
    attachOr given (.bare predicate [("this", query)])
  | none => finished grammar read given (← callByName grammar read key name)

/-- The functions that need no parentheses, with their kinds. -/
def bareFunctions (grammar : Grammar) : List (String × String) :=
  [("CURRENT_DATE", "CurrentDate"), ("CURRENT_TIME", "CurrentTime"),
    ("CURRENT_TIMESTAMP", "CurrentTimestamp"), ("CURRENT_USER", "CurrentUser"),
    ("LOCALTIME", "Localtime"), ("LOCALTIMESTAMP", "Localtimestamp")] ++
  match grammar with
  | .mysql => [("UTC_DATE", "UtcDate"), ("UTC_TIME", "UtcTime"), ("UTC_TIMESTAMP", "UtcTimestamp")]
  | .postgres => [("CURRENT_SCHEMA", "CurrentSchema"), ("CURRENT_CATALOG", "CurrentCatalog"),
      ("SESSION_USER", "SessionUser")]

/-- Whether a word in capitals may be the name of a function. -/
def isCallable (key : String) : Bool :=
  if isReserved grammar key then
    callableWords.contains key || (grammar == .mysql && key == "VALUES")
  else !uncallableWords.contains key

/-- A call, or a function that needs no parentheses. -/
def call : Reader (Option Tree) := do
  let place ← get
  match ← look with
  | .name name :: .sign "(" :: _ =>
    return some (← functionCall grammar read (Text.upper name) (.identifier name true))
  | .word name :: next =>
    match Text.upper name, next.head? with
    | "CASE", some (.sign ".") => return none
    | "CASE", _ =>
      advance 1
      return some (← window grammar read (← caseOf read))
    | "IF", _ =>
      advance 1
      match ← ifThen grammar read place with
      | some value => return some (← window grammar read value)
      | none => return none
    | "ANY", _ =>
      advance 1
      let values ← need "values" (← read .bitwise)
      return some (← window grammar read (← make (.other "Any") [("this", values)]))
    | key, some (.sign "(") =>
      if isCallable grammar key then return some (← functionCall grammar read key (.text name))
      else return none
    | key, _ =>
      match (bareFunctions grammar).lookup key with
      | some kind =>
        advance 1
        return some (← make (Kind.ofName kind) [])
      | none => return none
  | _ => return none

/-- A call behind a point, where the function has no kind of its own. -/
def memberCall : Reader (Option Tree) := do
  let given ← commentsAhead
  let name ← match ← look with
    | .word name :: .sign "(" :: _ =>
      pure (if (neverNames grammar).contains (Text.upper name) then none else some (Tree.text name))
    | .name name :: .sign "(" :: _ => pure (some (.identifier name true))
    | _ => pure none
  match name with
  | none => return none
  | some name =>
    advance 2
    return some (← finished grammar read given (← unknownCall grammar read name))

end SqlInsert.Sql
