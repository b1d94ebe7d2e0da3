import SqlInsert.Sql.Reader
/-!
# Names, data types and goals

The small readers that all others use: names and parameters, data types, and aliases, together with the goals
that a reader may ask for from the whole grammar.
-/

namespace SqlInsert.Sql

/-! ## Reading names and parameters

A name is a word or stands in quotes. In most places keywords keep their meaning; in some places any
token that is no single sign may be a name. A bind parameter may stand in the place of a name. -/

section

open Reader

variable (grammar : Grammar)

/-- The words that are no name even where every other word may be one. -/
def neverNames : List String :=
  ["SELECT", "NOT", "UNKNOWN"] ++ if grammar = .mysql then ["MOD"] else []

/-- The text of a token that may stand where any token may. -/
def anyText? : Token → Option String
  | .word text => if (neverNames grammar).contains (Text.upper text) then none else some text
  | .name text | .constant text | .number text => some text
  | .prefixedText _ text | .prefixedDigits _ text => some text
  | .sign sign => if sign.length < 2 ∨ sign = "==" then none else some sign
  | .stop => none

/-- The name that a token is where any token may be a name; a text constant counts as quoted. -/
def anyName? (token : Token) : Option Tree :=
  (anyText? grammar token).map fun text =>
    .identifier text (token matches .name _ || token matches .constant _)

/-- The name that a token is where keywords keep their meaning. -/
def plainName? : Token → Option Tree
  | .word text => if isReserved grammar (Text.upper text) then none else some (.identifier text false)
  | .name text => some (.identifier text true)
  | _ => none

/-- Takes a token that makes a node by itself. -/
def leaf (sort : Token → Option Tree) : Reader (Option Tree) := do
  match ← takeIf sort with
  | some tree => return some (← attach tree)
  | none => return none

/-- Any token as a word that stands for itself. -/
def anyWord : Reader (Option Tree) :=
  leaf fun token => (anyText? grammar token).map .word

/-- Any token as a word in capitals. -/
def capitalWord : Reader (Option Tree) :=
  leaf fun token => (anyText? grammar token).map fun text => .word (Text.upper text)

/-- Takes a text constant as a quoted name. -/
def constantName : Reader (Option Tree) :=
  takeIf fun
    | .constant text => some (.identifier text true)
    | _ => none

/-! ### Parameters -/

/-- A bind parameter with a percent sign, behind the sign. -/
def percentParameter : Reader Tree := do
  let name ← do
    if ← takeSign "(" then
      let name ← leaf (anyName? grammar)
      needSign ")"
      pure name
    else pure none
  let _ ← takeWord "S"
  make .placeholder [("this", .optional name)]

/-- What a parameter sign stands before: a name, a number or another constant. -/
def parameterName : Reader (Option Tree) :=
  leaf fun
    | .name text => some (.identifier text true)
    | .number digits => some (.numberLiteral digits)
    | .constant text => some (.textLiteral text)
    | .word text => some (.word text)
    | _ => none

/-- A bind parameter or a variable. Behind a colon stands the name of a parameter, never its number. -/
def parameter : Reader (Option Tree) := do
  match ← look with
  | .sign "?" :: _ =>
    advance 1
    return some (← make .placeholder (if grammar = .postgres then [("jdbc", .flag true)] else []))
  | .sign "@" :: _ | .sign "$" :: _ =>
    advance 1
    let name ← need "the name of a parameter" (← parameterName)
    return some (← make .parameter [("this", name)])
  | .sign ":" :: .word name :: _ =>
    if isReserved grammar (Text.upper name) then return none
    else
      advance 2
      return some (← make .placeholder [("this", .text name)])
  | .sign "%" :: _ =>
    if grammar = .postgres then
      advance 1
      return some (← percentParameter grammar)
    else return none
  | _ => return none

/-- A name where keywords keep their meaning, or a parameter in its place. -/
def plainName : Reader (Option Tree) :=
  firstOf [parameter grammar, leaf (plainName? grammar)]

/-- A name where any token may be one, or a parameter in its place. -/
def anyName : Reader (Option Tree) :=
  firstOf [parameter grammar, leaf (anyName? grammar)]

end

/-! ## Reading data types

A data type is one word or two, with parameters in parentheses and possibly a clause about the time
zone; brackets behind it make it the type of arrays of it. In one grammar any other name may be a data
type as well, and the names of its catalog have types of their own. -/

section

open Reader

variable (grammar : Grammar)

/-- A parameter of a data type. -/
def typeParameter : Reader (Option Tree) := do
  match ← leaf fun
    | .number digits => some (.numberLiteral digits)
    | .word text => some (.word (Text.upper text))
    | _ => none with
  | some value =>
    let further := (← anyWord grammar).toList.map fun word => ("expression", word)
    return some (← make .dataTypeParameter (("this", value) :: further))
  | none => return none

/-- The name that a token gives to a data type of one's own. -/
def ownType? : Token → Option String
  | .word text => if isReserved grammar (Text.upper text) then none else some text
  | .name text => some text
  | _ => none

/-- The name of a data type. -/
def typeName (anyName : Bool) : Reader (Option String) := do
  let tokens ← look
  let keys := tokens.map keyOf
  let paired := match keys with
    | some first :: some second :: _ => (pairedTypes grammar).lookup (first, second)
    | _ => none
  match paired, keys.head?.join.bind (typeOf? grammar) with
  | some type, _ =>
    advance 2
    return some type
  | none, some type =>
    advance 1
    return some type
  | none, none =>
    if anyName && grammar == .postgres then takeIf (ownType? grammar) else return none

/-- The parameters of a data type; none if what follows cannot be that. -/
def typeParameters : Reader (Option (List Tree)) := do
  if ← takeSign "(" then
    let parameters ← commaList (typeParameter grammar)
    if !parameters.isEmpty && (← takeSign ")") then return some parameters else return none
  else return some []

/-- The data type that a clause about the sign or the time zone makes of a data type. -/
def typeClause (type : String) : Reader String := do
  match unsignedType? type, zonedType? type with
  | some unsigned, _ => return if ← takeWord "UNSIGNED" then unsigned else type
  | none, some zoned =>
    if ← takeWords ["WITH", "TIME", "ZONE"] then return zoned
    else if ← takeWords ["WITH", "LOCAL", "TIME", "ZONE"] then return "TIMESTAMPLTZ"
    else
      let _ ← takeWords ["WITHOUT", "TIME", "ZONE"]
      return type
  | none, none => return type

/-- The brackets behind a data type, each pair for one more dimension. -/
def arrayType : Nat → Tree → Reader Tree
  | 0, type => return type
  | bound + 1, type => do
    match ← look with
    | .sign "[" :: .sign "]" :: _ =>
      advance 2
      arrayType bound (.bare .dataType [("this", .typeName "ARRAY"), ("expressions", .list [type]),
        ("nested", .flag true)])
    | _ => return type

/-- The type of intervals of time, behind the word for it: possibly of one unit only. -/
def intervalType : Reader Tree := do
  let unit ← leaf fun
    | .word text =>
      if unitWords.contains (Text.upper text) then some (.word (Text.upper text)) else none
    | _ => none
  match unit with
  | none => make .dataType [("this", .typeName "INTERVAL")]
  | some unit =>
    let unit ← do
      if ← takeWord "TO" then
        let last ← need "a unit" (← capitalWord grammar)
        pure (Tree.bare (.other "IntervalSpan") [("this", unit), ("expression", last)])
      else pure unit
    make .dataType [("this", ← make .interval [("unit", unit)])]

/-- A data type, and whether it has parameters. Where it cannot be read as one nothing is taken. -/
def sizedType (anyName : Bool) : Reader (Option (Tree × Bool)) := do
  let place ← get
  if ← takeWord "INTERVAL" then return some (← intervalType grammar, false)
  else
    match ← if grammar = .postgres then takeOneOf catalogTypes else pure none with
    | some name => return some (← make (.other "ObjectIdentifier") [("this", .text name)], false)
    | none =>
      match ← typeName grammar anyName with
      | none => return none
      | some name =>
        match ← typeParameters grammar with
        | none =>
          backTo place
          return none
        | some parameters =>
          let type := Tree.dataType (← typeClause name) parameters
          return some (← arrayType (← stepBound) type, !parameters.isEmpty)

/-- A data type. -/
def dataType (anyName : Bool) : Reader (Option Tree) := do
  return (← sizedType grammar anyName).map (·.1)

end

/-! ## Goals of the grammar

What lies inside parentheses or behind a sign is read by the reader for a goal that every reader of
the grammar is given; this is where the recursion of the grammar passes. The clauses that queries
share with the calls of functions need nothing but that reader. -/

section

open Reader

/-- What may have to be read inside an expression. -/
inductive Goal
  /-- An expression with another name. -/
  | expression
  /-- An expression without another name. -/
  | assignment
  | disjunction
  | equality
  | bitwise
  | term
  | signed
  /-- A value without a sign. -/
  | operand
  /-- A constant, a call or a column, with what follows it. -/
  | column
  /-- A query. -/
  | query
  /-- A query that may stand in parentheses. -/
  | closedQuery
  | statement
  /-- The set operations that follow a query. -/
  | united (query : Tree)
  /-- The clauses that follow a query. -/
  | limited (query : Tree)

/-- A reader for every goal. -/
abbrev Grammatical := Goal → Reader (Option Tree)

variable (grammar : Grammar) (read : Grammatical)

/-- A condition behind a word for it. -/
def condition (word kind : String) : Reader (Option Tree) := do
  if ← takeWord word then
    let given ← waiting
    let condition ← need "a condition" (← read .disjunction)
    return some (← attachOr given (.bare (.other kind) [("this", condition)]))
  else return none

/-- A sort key. Without words about it, missing values come first or last by the grammar's custom. -/
def sortKey : Reader (Option Tree) := do
  match ← read .disjunction with
  | none => return none
  | some key =>
    let ascending ← takeWord "ASC"
    let descending ← takeWord "DESC"
    let first ← takeWords ["NULLS", "FIRST"]
    let last ← takeWords ["NULLS", "LAST"]
    let direction : List (String × Tree) :=
      if descending then [("desc", .flag true)]
      else if ascending then [("desc", .flag false)]
      else []
    let byCustom := match grammar with
      | .mysql => !descending
      | .postgres => descending
    return some (← make .ordered ([("this", key)] ++ direction ++
      [("nulls_first", .flag (first || (!last && byCustom)))]))

/-- The sort keys of a query or, within a call, of a value. -/
def order (value : Option Tree) : Reader (Option Tree) := do
  if ← takeWord "ORDER BY" then
    let given ← waiting
    let keys ← commaList (sortKey grammar read)
    return some (← attachOr given (.bare (.other "Order")
      (value.toList.map (("this", ·)) ++ [("expressions", .list keys)])))
  else return value

end

/-! ## Reading other names

An expression may have another name behind it, with or without a word in front of the name; several
names stand in parentheses. The clauses about limits begin with words that may be names as well, and
they come first. -/

section

open Reader

variable (grammar : Grammar) (read : Grammatical)

/-- Whether a clause about limits comes next, and not a name spelled like it. -/
def atLimit : Reader Bool :=
  wouldFind do
    match ← takeOneOf ["LIMIT", "OFFSET"] with
    | some _ => read .term
    | none => return none

/-- An expression under another name. Comments of the word and of the name belong to both together; if
there are none, those of the expression do. -/
def namedAs (given : List String) (value name : Tree) : Reader Tree := do
  let named ← attachOr (given ++ name.comments) (.aliased value name.withoutComments)
  if named.comments.isEmpty then
    return (Tree.aliased value.withoutComments name.withoutComments).withComments value.comments
  else return named

/-- An expression with the other name that may follow it; where the name has to be announced by a
word, not without that. -/
def named (announced : Bool) (value : Tree) : Reader Tree := do
  if ← atLimit read then return value
  else
    let hasWord ← takeWord "AS"
    let given ← waiting
    let name := if hasWord then anyName grammar else plainName grammar
    if announced && !hasWord then return value
    else if ← takeSign "(" then
      let names ← commaList name
      let severally ← attachOr given (.bare (.other "Aliases")
        [("this", value), ("expressions", .list names)])
      close severally
    else
      match ← firstOf [name, if grammar = .mysql then constantName else pure none] with
      | some name => namedAs given value name
      | none => return value

end

end SqlInsert.Sql
