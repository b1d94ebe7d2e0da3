import SqlInsert.Sql.Expression
/-!
# Reading queries

A query selects values from tables, lists rows of values, or joins two queries by a set operation;
named queries may stand in front of it. A table has up to three names with points between them. Each
clause of a query has the comments of its word.

Left out are pivots, samples of a table, lateral sources, sources with ordinal numbers, tables made of
documents, windows named in a clause of their own, and `FETCH FIRST`. A text with one of them is refused
here. Hints are passed over as comments are.
-/

namespace SqlInsert.Sql

open Reader

variable (grammar : Grammar) (read : Grammatical)

/-! ## Tables -/

/-- One of the names of a table. -/
def tablePart : Reader (Option Tree) :=
  firstOf [plainName grammar, constantName]

/-- A table that a function makes, or one of the names of a table. -/
def tableOrCall : Reader (Option Tree) := do
  match ← look with
  | .word _ :: .sign "(" :: _ | .name _ :: .sign "(" :: _ =>
    firstOf [call grammar read, tablePart grammar]
  | _ => tablePart grammar

/-- The further names of a table. Three names have a place of their own. The table has the comments of
its last name. -/
def tableParts (part : Reader (Option Tree)) : Nat → Tree → Tree → Tree → Reader Tree
  | 0, _, _, table => return table
  | bound + 1, catalog, db, table => do
    if ← takeSign "." then
      let next ← need "the name of a table" (← part)
      if catalog.isGiven then
        tableParts part bound catalog db (← attach (.binary .member table next))
      else tableParts part bound db table next
    else
      let comments := if table.isA .identifier then table.comments else []
      let table := if table.isA .identifier then table.withoutComments else table
      attachOr comments (.bare .table [("this", table), ("db", db), ("catalog", catalog)])

/-- A table by its names. -/
def tableName : Reader Tree := do
  let first ← need "the name of a table" (← tablePart grammar)
  tableParts (tablePart grammar) ((← stepBound) + 1) .null .null first

/-- A column with the data type that may stand behind its name. -/
def columnEntry (name : Tree) : Reader Tree := do
  let entry := if name.isA .column then name.slot "this" else name
  match ← dataType grammar false with
  | some type => make (.other "ColumnDef") [("this", entry), ("kind", type)]
  | none => return entry

/-- The names of the columns of another name, in parentheses. -/
def aliasColumns : Reader (List Tree) := do
  let place ← get
  if ← takeSign "(" then
    let columns ← commaList do
      match ← anyName grammar with
      | some name => return some (← columnEntry grammar name)
      | none => return none
    if columns.isEmpty then
      backTo place
      return []
    else
      needSign ")"
      return columns
  else return []

/-- Another name for a table, with names for its columns. Some words keep their meaning here. -/
def tableAlias (kept : List String) : Reader (Option Tree) := do
  if ← atLimit read then return none
  else
    let name ← do
      if ← takeWord "AS" then anyName grammar
      else if (← peekKey).any (joinWords ++ kept).contains then pure none
      else plainName grammar
    let name ← match name with
      | some name => pure (some name)
      | none => constantName
    let columns ← aliasColumns grammar
    if name.isNone && columns.isEmpty then return none
    else
      let comments := (name.map (·.comments)).getD []
      let renamed ← attach (.tableAlias (.optional (name.map (·.withoutComments))) columns)
      return some (renamed.withComments comments)

/-- A tree with another slot, if there is something to put into it. -/
def withSlot (name : String) (content : Option Tree) (tree : Tree) : Tree :=
  match tree, content with
  | .node kind slots comments, some content => .node kind (slots ++ [(name, content)]) comments
  | tree, _ => tree

/-- A tree with further comments in front of those that it has. -/
def commentedFirst (comments : List String) (tree : Tree) : Tree :=
  tree.withoutComments.withComments (comments ++ tree.comments)

/-- A query in parentheses, possibly with another name. -/
def enclosedQuery (name : Reader (Option Tree)) : Reader Tree := do
  advance 1
  let given ← waiting
  let query ← need "a query" (← read .closedQuery)
  needSign ")"
  let name ← name
  make .subquery (("this", commentedFirst given query) :: name.toList.map (("alias", ·)))

/-- A table or a query in parentheses, with its other name. -/
def tableSource (kept : List String) : Reader (Option Tree) := do
  let name := tableAlias grammar read kept
  if ← atSign "(" then return some (← enclosedQuery read name)
  else
    let _ ← do if grammar = .postgres then takeWord "ONLY" else pure false
    let part := tableOrCall grammar read
    let first ← need "the name of a table" (← part)
    let table ← tableParts part ((← stepBound) + 1) .null .null first
    return some (withSlot "alias" (← name) table)

/-! ## Rows of values -/

/-- A value of a row; the word for the default stands for itself. -/
def rowValue : Reader (Option Tree) := do
  if ← takeWord "DEFAULT" then return some (.word "DEFAULT") else read .expression

/-- A row of values; a single value makes a row without parentheses. -/
def row : Reader (Option Tree) := do
  if ← takeSign "(" then
    let values ← closedList (rowValue read)
    return some (← attach (.tuple values))
  else
    match ← read .expression with
    | some value => return some (← attach (.tuple [value]))
    | none => return none

/-- Rows of values, behind the word for them. -/
def rows : Reader Tree := do
  let list ← commaList (row read)
  if list.isEmpty then fail "a row"
  let name ← tableAlias grammar read []
  make .values [("expressions", .list list), ("alias", .optional name)]

/-! ## Joined tables -/

/-- The words in front of a join, and the slots for them. -/
def joinHead : Reader (Option (List (String × Tree))) := do
  let place ← get
  let method ← takeOneOf ["NATURAL"]
  let side ← takeOneOf ["LEFT", "RIGHT", "FULL"]
  let kind ← takeOneOf ["INNER", "OUTER", "CROSS", "SEMI", "ANTI", "STRAIGHT_JOIN"]
  if kind = some "STRAIGHT_JOIN" ∨ (← takeWord "JOIN") = true then
    let slot (name : String) (word : Option String) : List (String × Tree) :=
      word.toList.map fun word => (name, .text word)
    return some (slot "method" method ++ slot "side" side ++ slot "kind" kind)
  else
    backTo place
    return none

/-- A table joined to the ones before it. -/
def join : Reader (Option Tree) := do
  if ← takeSign "," then
    let table ← need "a table" (← tableSource grammar read [])
    return some (← make (.other "Join") [("this", table)])
  else
    match ← joinHead with
    | none => return none
    | some slots =>
      let given ← waiting
      let table ← need "a table" (← tableSource grammar read [])
      let criterion ← do
        if ← takeWord "ON" then
          pure [("on", ← need "a condition" (← read .disjunction))]
        else if ← takeWord "USING" then
          needSign "("
          pure [("using", Tree.list (← closedList (anyName grammar)))]
        else pure []
      return some (← attachOr given
        (.bare (.other "Join") ([("this", table)] ++ slots ++ criterion)))

/-- The tables of a query, behind the word for them, each in a slot for its part. -/
def sources : Reader (List (String × Tree)) := do
  let given ← waiting
  let table ← need "a table" (← tableSource grammar read [])
  let origin ← attachOr given (.bare (.other "From") [("this", table)])
  let joins ← many (join grammar read) (← stepBound) []
  return [("from_", origin), ("joins", .list joins)]

/-! ## Clauses -/

/-- Whether and how long a lock waits. -/
def lockWait : Reader (List (String × Tree)) := do
  if ← takeWord "NOWAIT" then return [("wait", .flag true)]
  else if ← takeWords ["SKIP", "LOCKED"] then return [("wait", .flag false)]
  else if ← takeWord "WAIT" then
    return [("wait", .optional (← primary grammar read))]
  else return []

/-- The words for a lock, with what they mean for changes and for keys. -/
def lockWords : List (List String × Bool × Bool) :=
  [(["FOR", "UPDATE"], true, false), (["FOR", "SHARE"], false, false),
    (["LOCK", "IN", "SHARE", "MODE"], false, false), (["FOR", "KEY", "SHARE"], false, true),
    (["FOR", "NO", "KEY", "UPDATE"], true, true)]

/-- A lock on the rows of a query. -/
def lock : Reader (Option Tree) := do
  let tokens ← look
  let found := lockWords.find? fun (words, _) =>
    (tokens.take words.length).map keyOf == words.map some
  match found with
  | none => return none
  | some (words, update, key) =>
    advance words.length
    let tables ← do
      if ← takeWord "OF" then commaList (some <$> tableName grammar) else pure []
    let wait ← lockWait grammar read
    return some (← make (.other "Lock") ([("update", .flag update), ("expressions", .list tables)] ++
      wait ++ if key then [("key", .flag true)] else []))

/-- The counts of a clause about limits, behind the word for it: of two counts the first one is of the
rows left out. -/
def limitCounts : Reader (List (String × Tree)) := do
  let given ← waiting
  let first ← need "a count" (← read .term)
  let limit (count : Tree) : Tree := .bare (.other "Limit") [("expression", count)]
  if ← takeSign "," then
    let second ← need "a count" (← read .term)
    return [("limit", ← attachOr given (limit second)),
      ("offset", .bare (.other "Offset") [("expression", first)])]
  else return [("limit", ← attachOr given (limit first))]

/-- The rows left out, behind the word for them. -/
def offset : Reader Tree := do
  let given ← waiting
  let count ← need "a count" (← read .term)
  let _ ← takeOneOf ["ROW", "ROWS"]
  attachOr given (.bare (.other "Offset") [("expression", count)])

/-- The keys of groups, behind the word for them. -/
def group : Reader Tree := do
  let given ← waiting
  let keys ← commaList (read .disjunction)
  attachOr given (.bare (.other "Group") [("expressions", .list keys)])

/-- A clause behind the tables of a query, with the slots for it. -/
def clause : Reader (List (String × Tree)) := do
  match ← peekKey with
  | some "WHERE" =>
    return (← condition read "WHERE" "Where").toList.map (("where", ·))
  | some "HAVING" =>
    return (← condition read "HAVING" "Having").toList.map (("having", ·))
  | some "GROUP BY" =>
    advance 1
    return [("group", ← group read)]
  | some "ORDER BY" =>
    return (← order grammar read none).toList.map (("order", ·))
  | some "LIMIT" =>
    advance 1
    limitCounts read
  | some "OFFSET" =>
    advance 1
    return [("offset", ← offset read)]
  | some "FOR" | some "LOCK" =>
    let locks ← many (lock grammar read) (← stepBound) []
    return if locks.isEmpty then [] else [("locks", .list locks)]
  | _ => return []

/-- The clauses behind the tables of a query, each with its slot. None may come twice. -/
def clauses : Nat → List (String × Tree) → Reader (List (String × Tree))
  | 0, slots => return slots
  | bound + 1, slots => do
    match ← clause grammar read with
    | [] => return slots
    | found =>
      if found.any fun (name, _) => (slots.lookup name).isSome then fail "another clause"
      else clauses bound (slots ++ found)

/-- The kinds of set operations. -/
def setOperationKinds : List Kind := [.other "Union", .other "Except", .other "Intersect"]

/-- A query with the clauses that follow it. -/
def withClauses (query : Tree) : Reader Tree := do
  match query with
  | .node kind slots comments =>
    if [Kind.select, .subquery, .table, .values].contains kind || setOperationKinds.contains kind then
      return .node kind (← clauses grammar read (← stepBound) slots) comments
    else return query
  | query => return query

/-! ## Selections and set operations -/

/-- The word for different rows only, possibly by keys. -/
def distinctness : Reader (Option Tree) := do
  let words := "DISTINCT" :: if grammar = .mysql then ["DISTINCTROW"] else []
  match ← takeOneOf words with
  | none => return none
  | some _ =>
    let keys ← do if ← takeWord "ON" then row read else pure none
    return some (← make .distinct (keys.toList.map (("on", ·))))

/-- A selection, behind the word for it. -/
def selection : Reader Tree := do
  let given ← waiting
  let _ ← takeWord "ALL"
  let distinct ← distinctness grammar read
  let values ← commaList (read .expression)
  let origin ← do if ← takeWord "FROM" then sources grammar read else pure []
  let slots := distinct.toList.map (("distinct", ·)) ++ [("expressions", .list values)] ++ origin
  withClauses grammar read ((Tree.bare .select slots).withComments given)

/-- The kind of node for a set operation. -/
def setOperationKind (word : String) : Kind :=
  .other (if word = "UNION" then "Union" else if word = "EXCEPT" then "Except" else "Intersect")

/-- A query without set operations; it may stand in parentheses where that is allowed. -/
def plainQuery (closed : Bool) : Reader (Option Tree) := do
  match ← look with
  | .sign "(" :: _ =>
    if closed then return some (← enclosedQuery read (pure none)) else return none
  | .word text :: _ =>
    match Text.upper text with
    | "SELECT" =>
      advance 1
      return some (← selection grammar read)
    | "VALUES" =>
      advance 1
      return some (← rows grammar read)
    | _ => return none
  | _ => return none

/-- A query with the set operations that follow it. -/
def setOperations : Nat → Tree → Reader Tree
  | 0, query => return query
  | bound + 1, query => do
    match ← takeOneOf ["UNION", "EXCEPT", "INTERSECT"] with
    | none => return query
    | some word =>
      let given ← waiting
      let distinct ← takeWord "DISTINCT"
      let all ← if distinct then pure false else takeWord "ALL"
      let other ← need "a query" (← plainQuery grammar read true)
      let joined ← attachOr given (.bare (setOperationKind word) [("this", query),
        ("distinct", .flag !all), ("expression", other)])
      setOperations bound joined

/-- A query with set operations and the clauses for their result. -/
def wholeQuery (query : Tree) : Reader Tree := do
  let joined ← setOperations grammar read (← stepBound) query
  withClauses grammar read joined

/-! ## Named queries -/

/-- A named query in front of a statement. -/
def namedQuery : Reader (Option Tree) := do
  match ← tableAlias grammar read [] with
  | none => fail "a name"
  | some name =>
    needWord "AS"
    let given ← waiting
    let _ ← takeWord "NOT"
    let _ ← takeWord "MATERIALIZED"
    needSign "("
    let statement ← need "a statement" (← read .statement)
    needSign ")"
    return some (← attachOr given (.bare (.other "CTE") [("this", statement), ("alias", name)]))

/-- Named queries and the statement that uses them, behind the word for them. -/
def withNamedQueries : Reader Tree := do
  let given ← waiting
  let recursive ← takeWord "RECURSIVE"
  let queries ← commaList (namedQuery grammar read)
  let names ← attachOr given (.bare (.other "With") ([("expressions", .list queries)] ++
    if recursive then [("recursive", .flag true)] else []))
  let statement ← need "a statement" (← read .statement)
  return withSlot "with_" (some names) statement

/-- A query. -/
def query (closed : Bool) : Reader (Option Tree) := do
  if ← takeWord "WITH" then return some (← withNamedQueries grammar read)
  else
    match ← plainQuery grammar read closed with
    | none => return none
    | some found => return some (← wholeQuery grammar read found)

end SqlInsert.Sql
