import SqlInsert.Sql.Operand
/-!
# Reading expressions

An expression is made of operators in ranks, from assignments down to signs, around operands. A reader
here knows one rank and what it is made of. Where operators of a rank bind to the left, the node of
each has its comments or, in the ranks for bits, those behind its operands.
-/

namespace SqlInsert.Sql

open Reader

variable (grammar : Grammar) (read : Grammatical)

/-! ## Signs, products and sums -/

/-- A negation by a sign. In one grammar it binds as closely as other signs and counts as enclosed. -/
def signedNegation : Reader Tree := do
  match grammar with
  | .mysql =>
    let operand ← need "an operand" (← read .signed)
    attach (.unary .parentheses (← attach (.unary .negation operand)))
  | .postgres =>
    let operand ← need "an operand" (← read .equality)
    attach (.unary .negation operand)

/-- A sign or a negation in front of a value, behind which a value of some rank follows. -/
def prefixed (operator : UnaryOperator) (goal : Goal) : Reader (Option Tree) := do
  let operand ← need "an operand" (← read goal)
  return some (← attach (.unary operator operand))

/-- A root in front of a value. -/
def root (kind : String) : Reader (Option Tree) := do
  let operand ← need "an operand" (← read .signed)
  return some (← make (Kind.ofName kind) [("this", operand)])

/-- A value with its sign or negation, an interval, or an operand. -/
def signed : Reader (Option Tree) := do
  let sign? ← takeIf fun
    | .sign sign => if ["+", "-", "~", "!", "|/", "||/"].contains sign then some sign else none
    | .word text => if Text.upper text = "NOT" then some "NOT" else none
    | _ => none
  match sign? with
  | some "+" => read .signed
  | some "-" => prefixed read .minus .signed
  | some "~" => prefixed read .bitNot .signed
  | some "NOT" => prefixed read .negation .equality
  | some "|/" => root read "Sqrt"
  | some "||/" => root read "Cbrt"
  | some _ => some <$> signedNegation grammar read
  | none =>
    match ← interval grammar read with
    | some value => return some (← withSuffixes grammar read value)
    | none => operand grammar read

/-- Powers, which one grammar has. -/
def power : Reader (Option Tree) :=
  match grammar with
  | .mysql => signed grammar read
  | .postgres => chain true (signed grammar read) (signOperator [("^", .binary .power)])

/-- The clauses about the time zone of a value. -/
def zoned : Nat → Tree → Reader Tree
  | 0, value => return value
  | bound + 1, value => do
    if ← takeWords ["AT", "TIME", "ZONE"] then
      let zone ← need "a time zone" (← signed grammar read)
      zoned bound (← make .atTimeZone [("this", value), ("zone", zone)])
    else return value

/-- A value with the clauses about its time zone. -/
def zonedValue : Reader (Option Tree) := do
  match ← power grammar read with
  | none => return none
  | some value => return some (← zoned grammar read (← stepBound) value)

/-- A quotient, with what the grammar says about its type and about zero. -/
def quotient (left right : Tree) : Tree :=
  .bare (.binary .divide) [("this", left), ("expression", right),
    ("typed", .flag (grammar == .postgres)), ("safe", .flag (grammar == .mysql))]

/-- Whether a token may begin a factor. -/
def beginsFactor : Token → Bool
  | .word text =>
    let key := Text.upper text
    !reservedWords.contains key || key = "NULL" || key = "NOT"
  | .sign sign => ["(", "[", "-", "+", "~", "!", "?", "@", "@@", ":", "*", "."].contains sign
  | .stop => false
  | _ => true

/-- The word for whole quotients, where a factor follows it; otherwise the word is a name. -/
def wholeQuotient : Reader (Option Join) := do
  match grammar, ← look with
  | .mysql, .word text :: next :: _ =>
    if Text.upper text = "DIV" ∧ beginsFactor next = true then
      advance 1
      return some (.binary .integerDivide)
    else return none
  | _, _ => return none

/-- Products and quotients. The clauses about a time zone belong to the first factor only. -/
def factor : Reader (Option Tree) := do
  let first ← zonedValue grammar read
  let operator : Reader (Option Join) := do
    match ← signOperator [("*", .binary .multiply), ("/", quotient grammar),
      ("<->", .binary .distance)] with
    | some join => return some join
    | none => wholeQuotient grammar
  chainRest true (power grammar read) operator (← stepBound) first

/-- A text under the rules of a collation; the plain name of one stands for itself. -/
def collated (value collation : Tree) : Tree :=
  let isBare := collation.isA .column && !(collation.slot "table").isGiven &&
    (collation.slot "this").isA .identifier
  let name := collation.slot "this"
  .binary .collation value
    (if !isBare then collation
     else if (name.slot "quoted").isGiven then name
     else .word name.nameText)

/-- Sums, differences, remainders and collations. -/
def term : Reader (Option Tree) :=
  chain true (factor grammar read) do
    match ← signOperator [("+", .binary .add), ("-", .binary .subtract), ("%", .binary .modulo)] with
    | some join => return some join
    | none => wordOperator ([("COLLATE", collated)] ++
        if grammar = .mysql then [("MOD", .binary .modulo)] else [])

/-- A concatenation. -/
def concatenation (left right : Tree) : Tree :=
  .bare (.binary .concatenation) [("this", left), ("expression", right), ("safe", .flag true)]

/-- The first of two values that is there. -/
def fallback (left right : Tree) : Tree :=
  .bare (.call (.known "Coalesce")) [("this", left), ("expressions", .list [right])]

/-- Operators on bits, shifts, and in one grammar concatenation. -/
def bitwise : Reader (Option Tree) :=
  chain false (term grammar read) do
    let special := match grammar with
      | .mysql => [("^", Tree.binary .bitXor)]
      | .postgres => [("#", .binary .bitXor), ("||", concatenation)]
    match ← look with
    | .sign "<" :: .sign "<" :: _ =>
      advance 2
      return some (.binary .shiftLeft)
    | .sign ">" :: .sign ">" :: _ =>
      advance 2
      return some (.binary .shiftRight)
    | _ => signOperator ([("&", .binary .bitAnd), ("|", .binary .bitOr), ("??", fallback)] ++
        special)

/-! ## Conditions about one value -/

/-- A value or a condition, and whether it is negated. -/
def negatedIf (negated : Bool) (tree : Tree) : Reader Tree :=
  if negated then attach (.unary .negation tree) else pure tree

/-- The statement that a value is missing. -/
def isMissing (value : Tree) : Reader Tree :=
  attach (.binary .identity value (.bare .null []))

/-- The bounds of a range, behind the word for it. -/
def between (value : Tree) : Reader Tree := do
  let symmetric ← takeOneOf ["SYMMETRIC", "ASYMMETRIC"]
  let low ← need "a bound" (← bitwise grammar read)
  let _ ← takeWord "AND"
  let high ← need "a bound" (← bitwise grammar read)
  make .between ([("this", value), ("low", low), ("high", high)] ++
    symmetric.toList.map fun word => ("symmetric", .flag (word == "SYMMETRIC")))

/-- Whether a tree is a query. -/
def isQuery (tree : Tree) : Bool :=
  [Kind.select, .subquery, .other "Union", .other "Except", .other "Intersect"].any tree.isA

/-- The members of a set or the query for them, behind the word for it. -/
def membership (value : Tree) : Reader Tree := do
  if ← takeSign "(" then
    let members ← commaList (queryOrValue grammar read false)
    let set ← match members with
      | [only] =>
        if isQuery only then
          let limited ← read (.limited only)
          pure ("query", Tree.bare .subquery [("this", .optional limited)])
        else pure ("expressions", .list members)
      | members => pure ("expressions", .list members)
    close (← make .membership [("this", value), set])
  else
    let source ← need "a set" (← column grammar read)
    make .membership [("this", value), ("field", source)]

/-- Words for a missing value. -/
def missing (words : List String) : Reader (Option Tree) :=
  leaf fun token => if (keyOf token).any words.contains then some (.bare .null []) else none

/-- The mark that a pattern has for its escapes. -/
def escaped (pattern : Tree) : Reader Tree := do
  if ← takeWord "ESCAPE" then
    let mark ← need "an escape" (← firstOf [constant, missing ["NULL"], parameter grammar])
    attach (.binary .escape pattern mark)
  else return pattern

/-- A comparison with a pattern. One with wild cards has its negation within. -/
def compared (operator : BinaryOperator) (negated : Bool) (value : Tree) : Reader Tree := do
  let pattern ← need "a pattern" (← bitwise grammar read)
  let isWithin := operator = .similarity ∨ operator = .caselessSimilarity
  let slots := [("this", value), ("expression", pattern)] ++
    if negated ∧ isWithin then [("negate", .flag true)] else []
  let comparison ← escaped grammar (← make (.binary operator) slots)
  negatedIf (negated && !isWithin) comparison

/-- What a value is said to be, behind the word for it; nothing if nothing is said. -/
def identity (place : Cursor) (value : Tree) : Reader (Option Tree) := do
  let negated ← takeWord "NOT"
  if ← takeWords ["DISTINCT", "FROM"] then
    let other ← need "an operand" (← bitwise grammar read)
    return some (← attach
      (.binary (if negated then .nullSafeEqual else .nullSafeNotEqual) value other))
  else
    match ← firstOf [missing ["NULL", "UNKNOWN"], bitwise grammar read] with
    | none =>
      backTo place
      return none
    | some what =>
      let result ← attach (.binary .identity value what)
      return some (← withSuffixes grammar read (← negatedIf negated result))

/-- The operators of a condition that are words, with what they compare. -/
def wordComparisons : List (List String × BinaryOperator) :=
  [(["LIKE"], .similarity), (["ILIKE"], .caselessSimilarity), (["RLIKE"], .patternMatch),
    (["REGEXP"], .patternMatch), (["GLOB"], .glob), (["OVERLAPS"], .overlap),
    (["SIMILAR", "TO"], .similarTo)]

/-- The operators of a condition that are signs, with what they compare. -/
def signComparisons (grammar : Grammar) : List (String × BinaryOperator) :=
  [("~~", .similarity), ("~~*", .caselessSimilarity), ("~~~", .glob), ("~*", .caselessPatternMatch),
    ("-|-", .adjacent), ("&<", .extendsLeft), ("&>", .extendsRight)] ++
  match grammar with
  | .mysql => []
  | .postgres => [("~", .patternMatch), ("@>", .containsAll), ("&&", .sharesElements),
      ("?&", .hasAllKeys), ("?|", .hasAnyKey), ("#-", .pathDelete)]

/-- Takes an operator of a condition. -/
def comparisonOperator : Reader (Option BinaryOperator) := do
  let tokens ← look
  let found := wordComparisons.find? fun (words, _) =>
    (tokens.take words.length).map keyOf == words.map some
  match found with
  | some (words, operator) =>
    advance words.length
    return some operator
  | none =>
    takeIf fun
      | .sign sign => (signComparisons grammar).lookup sign
      | _ => none

/-- A condition that begins with a word of its own. -/
def wordCondition (value : Tree) : Reader (Option Tree) := do
  let place ← get
  match ← takeOneOf ["BETWEEN", "IN", "IS"] with
  | some "BETWEEN" => some <$> between grammar read value
  | some "IN" => some <$> membership grammar read value
  | some _ => identity grammar read place value
  | none =>
    if grammar = .postgres ∧ (← takeSign "<@") then
      let whole ← need "an operand" (← bitwise grammar read)
      some <$> (escaped grammar =<< attach (.binary .containsAll whole value))
    else if grammar = .mysql ∧ (← takeWords ["SOUNDS", "LIKE"]) then
      let other ← need "an operand" (← term grammar read)
      let sound (tree : Tree) : Tree := .bare (.call (.known "Soundex")) [("this", tree)]
      some <$> attach (.binary .equal (sound value) (sound other))
    else return none

/-- Whether a negation comes next. -/
def takeNegation : Reader Bool := do
  return (← takeWord "NOT") || (← takeSign "!")

/-- What follows a value in a condition about it. -/
def conditionAbout (value : Tree) : Reader Tree := do
  let negated ← takeNegation
  match ← comparisonOperator grammar with
  | some operator => compared grammar read operator negated value
  | none =>
    match ← wordCondition grammar read value with
    | some condition => negatedIf negated condition
    | none =>
      let result ← do
        if (← takeWord "ISNULL") || (negated && (← takeWord "NULL")) then isMissing value
        else pure value
      let result ← do
        if ← takeWord "NOTNULL" then negatedIf true (← isMissing result) else pure result
      negatedIf negated result

/-- Values with what is said about them. -/
def range : Reader (Option Tree) := do
  match ← bitwise grammar read with
  | none => return none
  | some value =>
    let result ← conditionAbout grammar read value
    let place ← get
    if ← takeWord "IS" then
      return some ((← identity grammar read place result).getD result)
    else return some result

/-! ## Comparisons and junctions -/

/-- Comparisons of order. -/
def comparison : Reader (Option Tree) :=
  chain true (range grammar read) (signOperator [(">", .binary .greater),
    (">=", .binary .greaterEqual), ("<", .binary .less), ("<=", .binary .lessEqual)])

/-- Comparisons of equality. -/
def equality : Reader (Option Tree) :=
  chain true (comparison grammar read) (signOperator [("=", .binary .equal), ("==", .binary .equal),
    ("<>", .binary .notEqual), ("!=", .binary .notEqual), ("<=>", .binary .nullSafeEqual)])

/-- Conjunctions; in one grammar exclusive disjunctions are of the same rank. -/
def conjunction : Reader (Option Tree) :=
  chain true (equality grammar read) do
    let further := if grammar = .mysql then [("XOR", Tree.binary .exclusive)] else []
    match ← wordOperator (("AND", .binary .conjunction) :: further) with
    | some join => return some join
    | none =>
      if grammar = .mysql then signOperator [("&&", .binary .conjunction)] else return none

/-- Disjunctions. -/
def disjunction : Reader (Option Tree) :=
  chain true (conjunction grammar read) do
    match ← wordOperator [("OR", .binary .disjunction)] with
    | some join => return some join
    | none =>
      if grammar = .mysql then signOperator [("||", .binary .disjunction)] else return none

/-- What stands before the sign of an assignment where no expression does: any token. -/
def assignedToken : Reader (Option Tree) := do
  match ← look with
  | token :: .sign ":=" :: _ =>
    match anyText? grammar token with
    | some text =>
      advance 1
      return some (.column (.identifier text false))
    | none => return none
  | _ => return none

/-- Assignments, which bind to the right. A plain column stands for its name there. -/
def assignment : Reader (Option Tree) := do
  match ← firstOf [disjunction grammar read, assignedToken grammar] with
  | none => return none
  | some target =>
    if ← takeSign ":=" then
      let given ← waiting
      let isBare := target.isA .column && !(target.slot "table").isGiven
      let value ← need "a value" (← read .assignment)
      return some (← attachOr given
        (.binary .assignment (if isBare then target.slot "this" else target) value))
    else return some target

/-- An expression with another name. -/
def expression : Reader (Option Tree) := do
  match ← assignment grammar read with
  | none => return none
  | some value => return some (← named grammar read false value)

end SqlInsert.Sql
