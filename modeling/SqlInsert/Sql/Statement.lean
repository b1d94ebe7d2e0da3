import SqlInsert.Sql.Lexer
import SqlInsert.Sql.Query
/-!
# Statements

Insertions, the other statements that are told apart, and texts with several of them. Of a statement
that is no insertion, query, update or deletion only the kind is told, since nothing is asked about the rest of
it, and most of what stands behind its first words is passed over.
-/

namespace SqlInsert.Sql

/-! ## Reading insertions

An insertion names a table, possibly with another name and a list of columns, and the source of its
rows: rows of values, a query, defaults only, or in one grammar a list of assignments. What happens
to rows that exist already, and what is returned, stands at the end. -/

section

open Reader

variable (grammar : Grammar) (read : Grammatical)

/-- An entry of a list of columns. -/
def columnListEntry : Reader (Option Tree) := do
  match ← anyField grammar read with
  | some entry => return some (← columnEntry grammar entry)
  | none => return none

/-- Whether a list of columns comes next, and not a query in parentheses. -/
def atColumnList : Reader Bool := do
  match ← look with
  | .sign "(" :: .sign "(" :: _ => return false
  | .sign "(" :: .word text :: _ => return ["SELECT", "WITH"].all (· ≠ Text.upper text)
  | .sign "(" :: _ => return true
  | _ => return false

/-- The parts of a partitioned table, which is not reported. -/
def partition : Reader Unit := do
  if ← takeWord "PARTITION" then
    needSign "("
    let _ ← closedList (read .disjunction)

/-- The table of an insertion with its columns or its other name. -/
def target : Reader Tree := do
  let table ← tableName grammar
  partition read
  if ← atColumnList then
    needSign "("
    let columns ← closedList (columnListEntry grammar read)
    make .schema [("this", table), ("expressions", .list columns)]
  else if ← atWord "AS" then
    return withSlot "alias" (← tableAlias grammar read []) table
  else return table

/-- What an insertion returns. -/
def returning : Reader (Option Tree) := do
  if ← takeWord "RETURNING" then
    let values ← commaList (read .expression)
    return some (← make (.other "Returning") [("expressions", .list values)])
  else return none

/-- A column and the value for it, as a comparison of the two. -/
def columnValue : Reader (Option Tree) := do
  match ← column grammar read with
  | none => return none
  | some name =>
    needSign "="
    let value ← do
      if ← takeWord "DEFAULT" then pure (some (Tree.word "DEFAULT")) else read .disjunction
    let isBare := name.isA .column && !(name.slot "table").isGiven
    return some (.binary .equal (if isBare then name.slot "this" else name) (← need "a value" value))

/-- The table and the rows of an insertion by assignments, behind the word for it. -/
def assignedRow (table : Tree) : Reader (Tree × Tree) := do
  let pairs ← commaList (columnValue grammar read)
  if pairs.isEmpty then fail "an assignment"
  let schema ← make .schema [("this", table), ("expressions", .list (pairs.map (·.slot "this")))]
  return (schema,
    .bare .values [("expressions", .list [.tuple (pairs.map (·.slot "expression"))])])

/-- The source of the rows of an insertion, with its target. -/
def source (table : Tree) : Reader (Tree × Option Tree) := do
  if ← takeWords ["DEFAULT", "VALUES"] then return (table, none)
  else if (← takeOneOf ["VALUES", "VALUE"]).isSome then
    return (table, some (← rows grammar read))
  else if grammar = .mysql && table.isA .table && (← takeWord "SET") then
    let (schema, values) ← assignedRow grammar read table
    return (schema, some values)
  else return (table, ← read .closedQuery)

/-- The assignments to rows that exist already. -/
def assignments : Reader (List Tree) := do
  let _ ← takeWord "SET"
  commaList (read .equality)

/-- The columns or the constraint that rows exist already by. -/
def conflictKeys : Reader (List (String × Tree)) := do
  if ← takeWords ["ON", "CONSTRAINT"] then
    let name ← need "a constraint" (← anyName grammar)
    return [("constraint", name)]
  else if ← takeSign "(" then
    let keys ← closedList (sortKey grammar read)
    return [("conflict_keys", .list keys)]
  else return []

/-- What happens to rows that exist already. -/
def conflict : Reader (Option Tree) := do
  if ← takeWords ["ON", "DUPLICATE", "KEY"] then
    if !(← takeWord "UPDATE") then fail "UPDATE"
    let changes ← assignments read
    return some (← make .onConflict [("duplicate", .flag true), ("expressions", .list changes)])
  else if ← takeWords ["ON", "CONFLICT"] then
    let keys ← conflictKeys grammar read
    let _ ← condition read "WHERE" "Where"
    if ← takeWords ["DO", "NOTHING"] then
      return some (← make .onConflict (("duplicate", .flag false) :: keys))
    else if ← takeWords ["DO", "UPDATE"] then
      let changes ← assignments read
      let _ ← condition read "WHERE" "Where"
      return some (← make .onConflict (("duplicate", .flag false) :: keys ++
        [("expressions", .list changes)]))
    else fail "an action"
  else return none

/-- An insertion, behind the word for it. -/
def insertion : Reader Tree := do
  let _ ← do if grammar = .mysql then takeWord "IGNORE" else pure false
  let _ ← do
    if ← takeWord "OR" then
      let _ ← takeOneOf ["ABORT", "FAIL", "IGNORE", "REPLACE", "ROLLBACK"]
  let _ ← takeWord "INTO"
  let _ ← takeWord "TABLE"
  let table ← target grammar read
  let first ← returning read
  let (table, values) ← source grammar read table
  let change ← conflict grammar read
  let last ← returning read
  make .insert [("this", table), ("expression", .optional values),
    ("conflict", .optional change), ("returning", .optional (first.or last))]

end

/-! ## Reading statements

Insertions and queries are read in full. Of the other statements only the kind is told; what they
consist of is read as far as it takes to see where they end. A statement that begins with no keyword
is an expression. The recursion of the grammar is closed here: a depth bounds it, and a row of tokens
cannot be deeper than it is long. -/

section

open Reader

variable (grammar : Grammar) (read : Grammatical)

/-- Takes the tokens that are left. -/
def skipRest : Reader Unit := do
  advance (← get).rest.length

/-- The tokens that are left. -/
def remaining : Reader (List Token) := do
  return (← get).rest.map (·.token)

/-- How deep parentheses are open behind a row of tokens; none if too many were closed. -/
def openDepth (tokens : List Token) : Option Nat :=
  tokens.foldl (fun depth token =>
    match depth, token with
    | some depth, .sign "(" => some (depth + 1)
    | some (depth + 1), .sign ")" => some depth
    | some 0, .sign ")" => none
    | depth, _ => depth) (some 0)

/-- A statement of which only the kind is told. Its parentheses have to match. -/
def loosely (kind : String) (mayBeBare : Bool) : Reader Tree := do
  let tokens ← remaining
  if tokens.isEmpty && !mayBeBare then fail "more of the statement"
  else if openDepth tokens != some 0 then fail "matching parentheses"
  else
    skipRest
    return .bare (.other kind) []

/-- A statement that is taken as it stands. -/
def command : Reader Tree := do
  skipRest
  return .bare (.other "Command") []

/-- What can be created, altered or dropped. -/
def schemaWords : List String :=
  ["TABLE", "VIEW", "INDEX", "DATABASE", "SCHEMA", "FUNCTION", "PROCEDURE", "SEQUENCE", "TRIGGER"]

/-- The words that may stand between CREATE and what is created. -/
def creationWords : List String :=
  ["OR", "REPLACE", "TEMPORARY", "TEMP", "UNIQUE", "UNLOGGED", "MATERIALIZED"]

/-- A statement about a part of the schema; other words make it one that is taken as it stands. -/
def schemaStatement (kind : String) : Reader Tree := do
  let tokens ← remaining
  let rest := tokens.dropWhile fun token => (keyOf token).any creationWords.contains
  match rest with
  | first :: rest =>
    if (keyOf first).any schemaWords.contains then
      advance (tokens.length - rest.length)
      loosely kind false
    else command
  | [] => command

/-- An update, behind the word for it. -/
def update : Reader Tree := do
  let table ← need "a table" (← tableSource grammar read ["SET"])
  let _ ← many (join grammar read) (← stepBound) []
  if ← takeWord "SET" then
    let _ ← commaList (read .equality)
  if ← takeWord "FROM" then
    let _ ← tableSource grammar read []
    let _ ← many (join grammar read) (← stepBound) []
  let slots ← clauses grammar read (← stepBound) [("this", table)]
  return withSlot "returning" (← returning read) (.bare (.other "Update") slots)

/-- A deletion, behind the word for it. -/
def deletion : Reader Tree := do
  if !(← atWord "FROM") then
    let tables ← commaList (tableSource grammar read [])
    if tables.isEmpty then fail "a table"
  let table ← do
    if ← takeWord "FROM" then some <$> (need "a table" =<< tableSource grammar read [])
    else pure none
  let _ ← many (join grammar read) (← stepBound) []
  if ← takeWord "USING" then
    let _ ← commaList (tableSource grammar read [])
  let slots ← clauses grammar read (← stepBound) [("this", .optional table)]
  return withSlot "returning" (← returning read) (.bare (.other "Delete") slots)

/-- The end of a transaction, behind the word for it. -/
def transactionEnd (kind : String) : Reader Tree := do
  let _ ← takeOneOf ["TRANSACTION", "WORK"]
  return .bare (.other kind) []

/-- The removal of all rows, behind the word for it. -/
def truncation : Reader Tree := do
  let _ ← takeWord "TABLE"
  let _ ← commaList (some <$> tableName grammar)
  if ← atEnd then return .bare (.other "TruncateTable") [] else command

/-- The words that begin a statement that is taken as it stands. -/
def commandWords : Grammar → List String
  | .mysql => ["CALL", "EXECUTE", "FETCH", "OPTIMIZE", "PREPARE", "RENAME", "REPLACE", "VACUUM"]
  | .postgres =>
    ["CALL", "DO", "EXECUTE", "EXPLAIN", "FETCH", "OPTIMIZE", "PREPARE", "REINDEX", "RENAME",
      "RESET", "SHOW", "VACUUM"]

/-- The statements of which only the kind is told, by their first words. -/
def looseStatements (grammar : Grammar) : List (String × String) :=
  [("ANALYZE", "Analyze"), ("BEGIN", "Transaction"), ("COMMENT", "Comment"), ("COPY", "Copy"),
    ("DESC", "Describe"), ("DESCRIBE", "Describe"), ("GRANT", "Grant"), ("KILL", "Kill"),
    ("LOAD", "LoadData"), ("MERGE", "Merge"), ("PRAGMA", "Pragma"), ("REVOKE", "Revoke"),
    ("SET", "Set"), ("USE", "Use")] ++
  match grammar with
  | .mysql => [("EXPLAIN", "Describe"), ("SHOW", "Show"), ("START", "Transaction")]
  | .postgres => []

/-- A statement by its first word in capitals, which has been taken. -/
def keywordStatement (key : String) : Option (Reader Tree) :=
  match key with
  | "INSERT" => some (insertion grammar read)
  | "UPDATE" => some (update grammar read)
  | "DELETE" => some (deletion grammar read)
  | "CREATE" => some (schemaStatement "Create")
  | "DROP" => some (schemaStatement "Drop")
  | "ALTER" => some (schemaStatement "Alter")
  | "COMMIT" => some (transactionEnd "Commit")
  | "ROLLBACK" => some (transactionEnd "Rollback")
  | "TRUNCATE" => some (truncation grammar)
  | key =>
    if (commandWords grammar).contains key then some command
    else ((looseStatements grammar).lookup key).map fun kind => loosely kind (kind = "Transaction")

/-- A statement. -/
def statement : Reader (Option Tree) := do
  let tokens ← look
  match tokens.head?, (tokens.head?.bind keyOf).bind (keywordStatement grammar read) with
  | some .stop, _ =>
    advance 1
    return some (.bare (.other "Semicolon") [])
  | _, some reading =>
    advance 1
    let given ← waiting
    return some (commentedFirst given (← reading))
  | _, none =>
    match ← expression grammar read with
    | some value => return some (← wholeQuery grammar read value)
    | none => query grammar read false

/-- What is read for a goal, by means of a reader for the goals inside it. -/
def readGoal (goal : Goal) : Reader (Option Tree) :=
  match goal with
  | .expression => expression grammar read
  | .assignment => assignment grammar read
  | .disjunction => disjunction grammar read
  | .equality => equality grammar read
  | .bitwise => bitwise grammar read
  | .term => term grammar read
  | .signed => signed grammar read
  | .operand => operand grammar read
  | .column => column grammar read
  | .query => query grammar read false
  | .closedQuery => query grammar read true
  | .statement => statement grammar read
  | .united query => do
    return some (← setOperations grammar read (← stepBound) query)
  | .limited query => do
    return some (← withClauses grammar read query)

/-- What is read for a goal down to a depth. -/
def readDown (grammar : Grammar) : Nat → Goal → Reader (Option Tree)
  | 0, _ => fail "an end"
  | depth + 1, goal => readGoal grammar (readDown grammar depth) goal

/-- The statement that a row of tokens makes up; none if the row is empty. Each token opens at most two
goals inside each other. -/
def readStatement (grammar : Grammar) (row : List Lexeme) : Except ReadError (Option Tree) :=
  if row.isEmpty then .ok none
  else
    let reading := readDown grammar (2 * row.length + 4) .statement
    match (reading.run row.length).run (Cursor.start row) with
    | .error error => .error error
    | .ok (found, cursor) =>
      if !cursor.rest.isEmpty then .error .leftover
      else
        match found with
        | some tree => .ok (some tree)
        | none => .error .nothing

end

/-! ## Reading texts with several statements

Semicolons divide a text into pieces, and each piece is a statement or empty. A semicolon that a
comment belongs to makes a piece of its own. The first piece is the statement of a text that is meant
to hold one. -/

/-- The pieces of a text, with those read so far, and the tokens of the current piece, both newest
first. -/
def piecesFrom (done : List (List Lexeme)) (current : List Lexeme) :
    List Lexeme → List (List Lexeme)
  | [] => (current.reverse :: done).reverse
  | ⟨.stop, comments⟩ :: rest =>
    let closed := current.reverse :: done
    let closed := if comments.isEmpty then closed else [⟨.stop, comments⟩] :: closed
    if rest.isEmpty then closed.reverse else piecesFrom closed [] rest
  | lexeme :: rest => piecesFrom done (lexeme :: current) rest

/-- The pieces of a text. -/
def pieces (row : List Lexeme) : List (List Lexeme) :=
  piecesFrom [] [] row

/-- A way to read the pieces of a text. -/
abbrev PieceReader := List Lexeme → Except ReadError (Option Tree)

/-- The entries that a reader makes of the pieces of a text. -/
def entriesBy (read : PieceReader) (grammar : Grammar) (text : String) : Except ReadError (List (Option Tree)) :=
  match tokens grammar text with
  | .error error => .error error
  | .ok found => (pieces found).mapM read

/-- The statements of a text, none for each empty piece. -/
def statements (grammar : Grammar) (text : String) : Except ReadError (List (Option Tree)) :=
  entriesBy (readStatement grammar) grammar text

/-- The first entry of the statements of a text, which must not be empty. -/
def firstStatement (entries : List (Option Tree)) : Except ReadError Tree :=
  match entries with
  | some tree :: _ => .ok tree
  | _ => .error .nothing

/-- The first entry that a reader makes of a text. -/
def firstBy (read : PieceReader) (grammar : Grammar) (text : String) : Except ReadError Tree :=
  match entriesBy read grammar text with
  | .error error => .error error
  | .ok entries => firstStatement entries

/-- The statement of a text that is meant to hold one. -/
def statementOf (grammar : Grammar) (text : String) : Except ReadError Tree :=
  firstBy (readStatement grammar) grammar text

end SqlInsert.Sql
