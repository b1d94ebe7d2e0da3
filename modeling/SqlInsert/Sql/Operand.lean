import SqlInsert.Number.Basic
import SqlInsert.Sql.Function
/-!
# Operands

Constants, columns, what may follow them, and intervals.
-/

namespace SqlInsert.Sql

/-! ## Reading operands

An operand is a constant, a call, a column or something in parentheses, with the members, elements,
casts and document paths that follow it. A data type in front of a constant casts the constant. The
comments of a name go up to the column that it names, and those of a member to the whole. -/

section

open Reader

variable (grammar : Grammar) (read : Grammatical)

/-! ### Constants and parentheses -/

/-- A text constant, and with further ones side by side the concatenation of all. -/
def constants (text : String) : Reader Tree := do
  advance 1
  let first ← attach (.textLiteral text)
  let further ← many constantPart (← stepBound) []
  if further.isEmpty then return first
  else
    make (.call .concat) [("expressions", .list (first :: further)),
      ("coalesce", .flag (grammar == .postgres))]
where
  /-- One more text constant. -/
  constantPart : Reader (Option Tree) :=
    takeIf fun
      | .constant text => some (.textLiteral text)
      | _ => none

/-- A text constant with escapes by code points, possibly with another mark for them. -/
def unicodeConstant (text : String) : Reader Tree := do
  advance 1
  let mark ← do if ← takeWord "UESCAPE" then constant else pure none
  make (.prefixedText .unicode) (("this", .text text) ::
    mark.toList.map fun mark => ("escape", mark))

/-- A session variable, behind its sign. -/
def sessionVariable : Reader Tree := do
  let name ← need "the name of a variable" (← anyName grammar)
  if ← takeSign "." then
    let inner ← need "the name of a variable" (← anyWord grammar)
    make .sessionParameter [("this", inner), ("kind", .text name.nameText)]
  else make .sessionParameter [("this", name)]

/-- A query in parentheses within another pair, with what follows it. -/
def innerQuery (query : Tree) : Reader Tree := do
  let limited ← read (.limited query)
  let united ← read (.united (limited.getD query))
  let whole ← read (.limited (united.getD query))
  make .subquery [("this", .optional whole)]

/-- Parentheses around a query, a list of values or one value. They have the comments of both. -/
def parentheses : Reader Tree := do
  advance 1
  let given ← waiting
  let content ← match ← read .query with
    | some query => make .subquery [("this", query)]
    | none =>
      let (values, endsOpen) ← commaListOpen (read .expression)
      match values with
      | [] => make .tuple []
      | [value] =>
        if value.isA .subquery then innerQuery read value
        else if endsOpen then attach (.tuple [value])
        else attach (.unary .parentheses value)
      | values => attach (.tuple values)
  close (content.withComments given)

/-- A constant, a star or parentheses. -/
def plainConstant : Reader (Option Tree) := do
  match ← look with
  | .constant text :: _ => return some (← constants grammar text)
  | .prefixedText .unicode text :: _ => return some (← unicodeConstant text)
  | .sign "." :: .number digits :: _ =>
    advance 2
    return some (.numberLiteral ("0." ++ digits))
  | .sign "(" :: _ => return some (← parentheses read)
  | .sign "@@" :: _ =>
    if grammar = .mysql then
      advance 1
      return some (← sessionVariable grammar)
    else return none
  | _ =>
    leaf fun
      | .number digits => some (.numberLiteral digits)
      | .prefixedText form text => some (.bare (.prefixedText form) [("this", .text text)])
      | .prefixedDigits form digits => some (.bare (.prefixedDigits form) [("this", .text digits)])
      | .sign "*" => some (.bare .star [])
      | .word text =>
        match Text.upper text with
        | "NULL" => some (.bare .null [])
        | "TRUE" => some (.boolean true)
        | "FALSE" => some (.boolean false)
        | _ => none
      | _ => none

/-- A constant with the name of its character set in front; without a constant the name itself. -/
def introduced : Reader (Option Tree) := do
  match ← look with
  | .word text :: _ =>
    if grammar = .mysql ∧ charsetWords.contains (Text.upper text) then
      advance 1
      match ← plainConstant grammar read with
      | some constant => return some (← make .introducer [("this", .text text),
          ("expression", constant)])
      | none => return some (← attach (.identifier text false))
    else return none
  | _ => return none

/-- A constant, a star or parentheses, possibly with a character set. -/
def primary : Reader (Option Tree) :=
  firstOf [plainConstant grammar read, introduced grammar read]

/-! ### Columns and what follows them -/

/-- A constant, a call or a name. -/
def field : Reader (Option Tree) :=
  firstOf [primary grammar read, call grammar read, plainName grammar]

/-- A constant, a call or a name where any token may be one. -/
def anyField : Reader (Option Tree) :=
  firstOf [primary grammar read, call grammar read, anyName grammar]

/-- What may stand behind a point. -/
def member : Reader (Option Tree) :=
  firstOf [memberCall grammar read, primary grammar read, anyName grammar]

/-- A word for rows of values that no rows follow, which is a name in one grammar. -/
def valuesName : Reader (Option Tree) := do
  match ← look with
  | .word _ :: .sign "(" :: _ => return none
  | .word text :: _ =>
    if grammar = .postgres ∧ Text.upper text = "VALUES" then anyName grammar else return none
  | _ => return none

/-- A constant, a call or a column; a column has the comments of its name. -/
def columnReference : Reader (Option Tree) := do
  match ← firstOf [field grammar read, valuesName grammar] with
  | none => return none
  | some value =>
    if value.isA .identifier then
      return some (← attachOr value.comments (.column value.withoutComments))
    else return some value

/-- The parts of a column, the outermost first. -/
def columnParts (column : Tree) : List Tree :=
  (["catalog", "db", "table", "this"].map column.slot).filter (!·.isNull)

/-- A column with points between its parts instead. -/
def pointedColumn (value : Tree) : Tree :=
  if value.isA .column then
    match columnParts value with
    | first :: others => others.foldl (.binary .member) first
    | [] => value
  else value

/-- Whether a tree is a call or a window over one. -/
def isCall (tree : Tree) : Bool :=
  match tree.kind? with
  | some (.call _) | some (.cast _) => true
  | some kind => kind == .other "Window"
  | none => false

/-- A value with its member: the name of a column moves down by one part. A column with all parts, any
other value, and a call have members by an operator. -/
def withMember (value part : Tree) : Reader Tree := do
  let value := if isCall part then pointedColumn value else value
  let bare := part.withoutComments
  let whole ←
    if value.isA .column && !(value.slot "catalog").isGiven then
      attachOr value.comments (.bare .column [("this", bare), ("table", value.slot "this"),
        ("db", value.slot "table"), ("catalog", value.slot "db")])
    else if part.isA (.other "Window") then
      let function ← attach (.binary .member value (bare.slot "this"))
      pure (.bare (.other "Window") (bare.slots.map fun (name, content) =>
        (name, if name = "this" then function else content)))
    else attach (.binary .member value bare)
  return whole.withComments part.comments

/-- The index of an element in the tree. In one grammar indices count from one in the text and from
zero in the tree. -/
def elementIndex (indices : List Tree) : List Tree :=
  let below (digits : Tree) (step : Int) : Option Tree :=
    if digits.isNumberLiteral then
      (digits.nameText.toNat?).map fun index =>
        let moved := (if step < 0 then - (index : Int) else index) - 1
        let literal := Tree.numberLiteral (String.ofList (Nat.toDigits 10 moved.natAbs))
        if moved < 0 then .unary .minus literal else literal
    else none
  match grammar, indices with
  | .postgres, [index] =>
    let moved := if index.isA (.unary .minus) then below (index.slot "this") (-1) else below index 1
    [moved.getD index]
  | _, indices => indices

/-- An index, a key or a range of them. -/
def element : Reader (Option Tree) := do
  match ← read .disjunction with
  | none => return none
  | some first =>
    let first ← named grammar read true first
    if ← takeSign ":" then
      let last ← need "an index" (← read .assignment)
      return some (← make (.other "Slice") [("this", first), ("expression", last)])
    else return some first

/-- The elements in brackets behind a value, as long as there are any. A value with the name of an
array makes an array of them. -/
def elements : Nat → Tree → Reader Tree
  | 0, value => return value
  | bound + 1, value => do
    if !(← takeSign "[") then return value
    else
      let indices ← commaList (element grammar read)
      needSign "]"
      if Text.upper value.nameText = "ARRAY" then
        return .bare (.call .array) [("expressions", .list indices)]
      else
        let chosen ← attachOr value.comments (.bare .bracket [("this", value.withoutComments),
          ("expressions", .list (elementIndex grammar indices))])
        elements bound (← attach chosen)

/-- A list of elements in brackets. -/
def arrayConstant : Reader (Option Tree) := do
  if ← takeSign "[" then
    let values ← commaList (element grammar read)
    needSign "]"
    return some (← elements grammar read (← stepBound)
      (← attach (.bare (.call .array) [("expressions", .list values)])))
  else return none

/-- The operators behind a value that lead into a document, with what each makes of a path. -/
def pathOperators : List (String × Join) :=
  let arrow (operator : BinaryOperator) (value path : Tree) : Tree :=
    .bare (.binary operator) [("this", value), ("expression", asPath grammar path),
      ("only_json_types", .flag (grammar == .postgres))]
  [("->", arrow .jsonExtract), ("->>", arrow .jsonExtractScalar), ("#>", .binary .pathExtract),
    ("#>>", .binary .pathExtractScalar), ("?", .binary .hasKey)]

/-- A value with what follows it: members, elements, casts and paths. -/
def suffixes : Nat → Tree → Reader Tree
  | 0, value => return value
  | bound + 1, value => do
    let value ← elements grammar read (← stepBound) value
    if ← takeSign "." then
      suffixes bound (← withMember value (← need "a name" (← member grammar read)))
    else if ← takeSign "::" then
      let type ← need "a data type" (← dataType grammar true)
      let cast ← attach (.cast value type.withoutComments)
      suffixes bound (cast.withComments type.comments)
    else
      match ← signOperator (pathOperators grammar) with
      | none => return value
      | some join =>
        let path ← need "a path" (← firstOf [columnReference grammar read, read .bitwise])
        let path ← if path.isA .column && (← atSign ".") then suffixes bound path else pure path
        let led ← attach (join value path.withoutComments)
        suffixes bound (led.withComments path.comments)

/-- A value with what follows it. -/
def withSuffixes (value : Tree) : Reader Tree := do
  suffixes grammar read (← stepBound) value

/-- A constant, a call or a column, with what follows it. -/
def column : Reader (Option Tree) := do
  match ← firstOf [columnReference grammar read, arrayConstant grammar read] with
  | none => return none
  | some value => return some (← withSuffixes grammar read value)

/-! ### Typed constants -/

/-- The constant behind a data type. A type with parameters only stands before a text. -/
def constantFor (sized : Bool) : Reader (Option Tree) := do
  match ← look with
  | .constant _ :: .constant _ :: _ => return none
  | .constant _ :: _ => primary grammar read
  | .number _ :: _ | .sign "." :: .number _ :: _ =>
    if sized then return none else primary grammar read
  | _ => return none

/-- A data type with a constant behind it, which is cast to the type. -/
def typedConstant : Reader (Option Tree) := do
  let place ← get
  match ← sizedType grammar false with
  | none => return none
  | some (type, sized) =>
    match ← constantFor grammar read sized with
    | none =>
      backTo place
      return none
    | some value =>
      let value ← withSuffixes grammar read value
      if type.slot "this" matches .typeName "JSON" then
        return some (← make (.call .parsedJson) [("this", value)])
      else return some (← attach (.cast value type))

/-- A value without a sign: with a data type in front, or a column with all that follows it. -/
def operand : Reader (Option Tree) := do
  match ← firstOf [typedConstant grammar read, column grammar read] with
  | none => return none
  | some value => return some (← withSuffixes grammar read value)

end

/-! ## Reading intervals of time

An interval is a value with a unit behind it. Where the value is a text, it may hold the number and the
unit together; a number counts as a text. Without a value the word for intervals is a name. -/

section

open Reader

variable (grammar : Grammar) (read : Grammatical)

/-- A number with a unit at the front of a text, and what follows both. -/
def spanAt? (text : List Char) : Option ((String × String) × List Char) :=
  let (sign, unsigned) := match text with
    | '-' :: rest => (['-'], rest)
    | rest => ([], rest)
  let digits := unsigned.takeWhile Char.isDigit
  let (fraction, rest) := match unsigned.drop digits.length with
    | '.' :: more =>
      let places := more.takeWhile Char.isDigit
      if places.isEmpty then ([], '.' :: more) else ('.' :: places, more.drop places.length)
    | rest => ([], rest)
  let rest := rest.dropWhile Text.isBlank
  let unit := rest.takeWhile Char.isAlpha
  if digits.isEmpty || unit.isEmpty then none
  else some ((String.ofList (sign ++ digits ++ fraction), String.ofList unit),
    rest.drop unit.length)

/-- The numbers with units in a text, from left to right. The fuel bounds the number of characters. -/
def spansIn : Nat → List Char → List (String × String)
  | 0, _ | _, [] => []
  | fuel + 1, c :: rest =>
    match spanAt? (c :: rest) with
    | some (span, after) => span :: spansIn fuel after
    | none => spansIn fuel rest

/-- The number that a constant with any signs in front of it is. -/
def constantNumber? : Tree → Option (Except Unit Number.Decimal)
  | .node .literal slots _ =>
    let literal := Tree.bare .literal slots
    if literal.isTextLiteral then none
    else
      match Number.readInteger 10 literal.nameText.toList with
      | .ok value => some (.ok (.ofInt value))
      | .error _ => some (((Number.Decimal.read? literal.nameText).map .ok).getD (.error ()))
  | .node (.unary .minus) [("this", operand)] _ =>
    (constantNumber? operand).map fun number =>
      number.bind fun value =>
        (value.negated .arithmetic).mapError fun _ => ()
  | _ => none

/-- The value of an interval: a number becomes a text. -/
def spanValue (value : Tree) : Reader Tree :=
  match constantNumber? value with
  | none => pure value
  | some (.ok number) => pure (.textLiteral number.text)
  | some (.error _) => fail "a number"

/-- The unit behind the value of an interval. -/
def spanUnit : Reader (Option Tree) := do
  match ← call grammar read with
  | some unit => return some unit
  | none => if ← atWord "AS" then return none else capitalWord grammar

/-- The last unit of a range of units. -/
def spanRange (unit : Tree) : Reader Tree := do
  if ← takeWord "TO" then
    let last ← need "a unit" (← firstOf [call grammar read, capitalWord grammar])
    make (.other "IntervalSpan") [("this", unit), ("expression", last)]
  else return unit

/-- Whether a value is a name that could be taken for the word behind an interval. -/
def isBareName (value : Tree) : Bool :=
  value.isA .column && !(value.slot "table").isGiven && !((value.slot "this").slot "quoted").isGiven

/-- An interval behind its value. The unit that a text holds comes before one that follows. -/
def intervalOf (value : Tree) : Reader Tree := do
  let place ← get
  let unit ← spanUnit grammar read
  let spans := if value.isTextLiteral then
      spansIn (value.nameText.length + 1) value.nameText.toList
    else []
  if !spans.isEmpty then backTo place
  let (value, unit) ← match spans with
    | [(number, unit)] =>
      let unit ← attach (.word (Text.upper unit))
      pure (Tree.textLiteral number, unit.withoutComments)
    | [] => pure (← spanValue value, Tree.optional unit)
    | _ => pure (value, Tree.null)
  make .interval [("this", value), ("unit", asUnit (← spanRange grammar read unit).withoutComments)]

/-- An interval of time. -/
def interval : Reader (Option Tree) := do
  let place ← get
  if !(← takeWord "INTERVAL") then return none
  else
    let value ← match ← look with
      | .constant _ :: _ => primary grammar read
      | _ => read .term
    match value with
    | none =>
      backTo place
      return none
    | some value =>
      if isBareName value && !(← peekKey).any unitWords.contains && !(← atEnd) then
        backTo place
        return none
      else return some (← intervalOf grammar read value)

end

end SqlInsert.Sql
