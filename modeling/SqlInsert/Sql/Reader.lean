import SqlInsert.Sql.Token
import SqlInsert.Text.Case
import SqlInsert.Tree.Basic
/-!
# Reading from a row of tokens

A reader takes tokens from the front of a row and leaves the rest, or refuses. The readers here take
single tokens, lists with commas and chains of operators; the readers of the grammar are made of them.
A reader of something that may be missing takes nothing where it is missing. Every repetition takes a
token in each step, so the number of all tokens bounds it.

The comments of a token wait when the token is taken. The next node that is made has them; if another
token is taken before that, they are lost.
-/

namespace SqlInsert.Sql

/-- How far a row of tokens has been read. -/
structure Cursor where
  /-- What is left of the row. -/
  rest : List Lexeme
  /-- How many tokens have been taken. -/
  position : Nat
  /-- The comments of the token that was taken last. -/
  comments : List String
  /-- Those of them that wait for a node. -/
  waiting : List String

/-- A calculation that takes tokens from the front of a row, given a bound on the number of tokens. -/
abbrev Reader (α : Type) := ReaderT Nat (StateT Cursor (Except ReadError)) α

namespace Cursor

/-- The cursor in front of a row of tokens. -/
def start (row : List Lexeme) : Cursor := ⟨row, 0, [], []⟩

/-- The cursor behind some more tokens. -/
def advance (count : Nat) (cursor : Cursor) : Cursor :=
  match cursor.rest.drop (count - 1) with
  | [] => cursor
  | taken :: rest => ⟨rest, cursor.position + count, taken.comments, taken.comments⟩

/-- The next tokens, as many as any reader looks at. -/
def ahead (cursor : Cursor) : List Token :=
  (cursor.rest.take 4).map (·.token)

end Cursor

namespace Reader

/-- The bound on the number of tokens. -/
def stepBound : Reader Nat := fun bound => pure bound

/-- A refusal: something is missing. -/
def fail {α : Type} (what : String) : Reader α :=
  throw (.expected what)

/-- What a reader has to find. -/
def need {α : Type} (what : String) (found : Option α) : Reader α :=
  match found with
  | some value => pure value
  | none => fail what

/-! ## Tokens -/

/-- The tokens at the front. -/
def look : Reader (List Token) := do
  return (← get).ahead

/-- Whether all tokens have been taken. -/
def atEnd : Reader Bool := do
  return (← get).rest.isEmpty

/-- Takes tokens, whatever they are. -/
def advance (count : Nat) : Reader Unit :=
  modify (·.advance count)

/-- Goes back to where the cursor was. The comments of the token before that place wait again. -/
def backTo (place : Cursor) : Reader Unit :=
  modify fun cursor =>
    if cursor.position = place.position then cursor else { place with waiting := place.comments }

/-- Whether the rest begins with a sign. -/
def atSign (sign : String) : Reader Bool := do
  return (← look).head? == some (.sign sign)

/-- Takes a sign if it stands at the front. -/
def takeSign (sign : String) : Reader Bool := do
  if ← atSign sign then
    advance 1
    return true
  else return false

/-- Takes a sign. -/
def needSign (sign : String) : Reader Unit := do
  if !(← takeSign sign) then fail sign

/-- The word of a token, in capitals. -/
def keyOf : Token → Option String
  | .word text => some (Text.upper text)
  | _ => none

/-- The word at the front, in capitals. -/
def peekKey : Reader (Option String) := do
  return (← look).head?.bind keyOf

/-- Whether a word stands at the front. -/
def atWord (word : String) : Reader Bool := do
  return (← peekKey) == some word

/-- Takes words if they all stand at the front. -/
def takeWords (words : List String) : Reader Bool := do
  if ((← look).take words.length).map keyOf == words.map some then
    advance words.length
    return true
  else return false

/-- Takes a word if it stands at the front. -/
def takeWord (word : String) : Reader Bool :=
  takeWords [word]

/-- Takes a word. -/
def needWord (word : String) : Reader Unit := do
  if !(← takeWord word) then fail word

/-- Takes one of several words. -/
def takeOneOf (words : List String) : Reader (Option String) := do
  match ← peekKey with
  | some key =>
    if words.contains key then
      advance 1
      return some key
    else return none
  | none => return none

/-- Takes the token at the front if it is of some sort. -/
def takeIf {α : Type} (sort : Token → Option α) : Reader (Option α) := do
  match (← look).head?.bind sort with
  | some value =>
    advance 1
    return some value
  | none => return none

/-! ## Nodes and their comments -/

/-- The comments that wait. -/
def waiting : Reader (List String) := do
  return (← get).waiting

/-- A node with the comments that wait. -/
def attach (tree : Tree) : Reader Tree := do
  let comments ← waiting
  modify ({ · with waiting := [] })
  return tree.withComments comments

/-- A node with given comments; without any it has those that wait. -/
def attachOr (given : List String) (tree : Tree) : Reader Tree :=
  if given.isEmpty then attach tree else return tree.withComments given

/-- A new node. -/
def make (kind : Kind) (slots : List (String × Tree)) : Reader Tree :=
  attach (.bare kind slots)

/-- Takes the closing parenthesis of a node, which has the comments of it. -/
def close (tree : Tree) : Reader Tree := do
  needSign ")"
  attach tree

/-! ## Lists and chains -/

/-- The items after the first one of a list with commas, and whether the last comma has nothing
behind it. Missing items are left out. The comments of a comma belong to the item before it. -/
def commaRest (item : Reader (Option Tree)) : Nat → List Tree → Bool → Reader (List Tree × Bool)
  | 0, items, endsOpen => return (items.reverse, endsOpen)
  | bound + 1, items, endsOpen => do
    if !(← takeSign ",") then return (items.reverse, endsOpen)
    else
      let items ← match items, endsOpen with
        | last :: older, false => pure ((← attach last) :: older)
        | items, _ => pure items
      match ← item with
      | some value => commaRest item bound (value :: items) false
      | none => commaRest item bound items true

/-- A list with commas, and whether a comma ends it. -/
def commaListOpen (item : Reader (Option Tree)) : Reader (List Tree × Bool) := do
  let first ← item
  commaRest item (← stepBound) first.toList false

/-- A list with commas. -/
def commaList (item : Reader (Option Tree)) : Reader (List Tree) := do
  return (← commaListOpen item).1

/-- A list with commas between parentheses, behind the first of them. -/
def closedList (item : Reader (Option Tree)) : Reader (List Tree) := do
  let items ← commaList item
  needSign ")"
  return items

/-- The results of a reading as long as there is one. -/
def many (reading : Reader (Option Tree)) : Nat → List Tree → Reader (List Tree)
  | 0, results => return results.reverse
  | bound + 1, results => do
    match ← reading with
    | some result => many reading bound (result :: results)
    | none => return results.reverse

/-- What an operator makes of its two operands. -/
abbrev Join := Tree → Tree → Tree

/-- The rest of a chain of operators of one rank, which bind to the left. In some ranks a node has the
comments of its operator first of all. -/
def chainRest (own : Bool) (operand : Reader (Option Tree)) (operator : Reader (Option Join)) :
    Nat → Option Tree → Reader (Option Tree)
  | 0, left => return left
  | bound + 1, left => do
    match ← operator with
    | none => return left
    | some join =>
      let given ← if own then waiting else pure []
      let leftValue ← need "an operand" left
      let rightValue ← need "an operand" (← operand)
      let joined ← attachOr given (join leftValue rightValue)
      chainRest own operand operator bound (some joined)

/-- Operands with operators of one rank between them. -/
def chain (own : Bool) (operand : Reader (Option Tree)) (operator : Reader (Option Join)) :
    Reader (Option Tree) := do
  let first ← operand
  chainRest own operand operator (← stepBound) first

/-- An operator written as a sign. -/
def signOperator (operators : List (String × Join)) : Reader (Option Join) :=
  takeIf fun
    | .sign sign => operators.lookup sign
    | _ => none

/-- An operator written as a word. -/
def wordOperator (operators : List (String × Join)) : Reader (Option Join) :=
  takeIf fun token => (keyOf token).bind fun key => operators.lookup key

/-! ## Choices -/

/-- The first of several readings. -/
def firstOf : List (Reader (Option Tree)) → Reader (Option Tree)
  | [] => return none
  | reading :: others => do
    match ← reading with
    | some tree => return some tree
    | none => firstOf others

/-- Whether a reading would find something here; nothing is taken. -/
def wouldFind (reading : Reader (Option Tree)) : Reader Bool := fun bound cursor =>
  match reading bound cursor with
  | .ok (found, _) => .ok (found.isSome, cursor)
  | .error _ => .ok (false, cursor)

end Reader

end SqlInsert.Sql
