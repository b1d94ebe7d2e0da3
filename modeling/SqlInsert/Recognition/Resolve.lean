import SqlInsert.Calendar.Reading
import SqlInsert.Journal.Basic
import SqlInsert.Number.Basic
import SqlInsert.Render.Node
import SqlInsert.Tree.Basic
import SqlInsert.Tree.Outline
import SqlInsert.Value.Basic
/-!
# Resolving the values of a row

From the node of an element to the value that it stands for: the ways this can fail, the constants that texts and
casts are, the ordinals of bind parameters, and the resolution itself.
-/

namespace SqlInsert

/-! ## Failures of recognition

A statement is not recognized when a node stands where no rule applies to it, when it is no insert
statement, or when its rows do not come from a list of values. Apart from these the content of a
constant may be impossible to convert. -/

/-- The parts of a statement in which a node may be out of place. -/
inductive Position
  | values
  | columnList
  | target
  | duplicateKeyUpdate
deriving DecidableEq, Repr

/-- The name of a position. -/
def Position.text : Position → String
  | .values => "VALUES"
  | .columnList => "INSERT column list"
  | .target => "INSERT target"
  | .duplicateKeyUpdate => "ON DUPLICATE KEY UPDATE"

/-- What is said of a node that no rule applies to. -/
def unrecognizedText (found : Tree) (position : String) : String :=
  "Unknown SQLExpr in " ++ position ++ ": " ++ found.className ++ " " ++ found.outline

/-- Why a statement is not recognized. -/
inductive RecognitionError
  /-- No rule applies to a node in its position. -/
  | unrecognized (found : Tree) (position : Position)
  /-- The statement is no insert statement. -/
  | notInsert (found : Tree)
  /-- The rows come from something else than a list of values, or from nothing. -/
  | notValues (source : Tree)

namespace RecognitionError

/-- The node at fault. -/
def offender : RecognitionError → Tree
  | .unrecognized found _ => found
  | .notInsert found => found
  | .notValues source => source

/-- The wording of a failure. -/
def message : RecognitionError → String
  | .unrecognized found position => unrecognizedText found position.text
  | .notInsert found => "Expected an INSERT statement, got " ++ found.className
  | .notValues source =>
    "INSERT rows can only be extracted from VALUES, got " ++
      (if source.isNull then "nothing" else source.className)

end RecognitionError

/-- Why the content of a constant or the number of a bind parameter cannot be converted. -/
inductive ConversionError
  /-- The text is no integer in the base. -/
  | invalidInteger (base : Nat) (text : String)
  /-- The text has more decimal digits than are read. -/
  | tooManyDigits (count : Nat)
  /-- A text that is no number is to be negated. -/
  | negatedText
  /-- The negative of a decimal number is out of range or undefined. -/
  | decimal (fault : Number.DecimalFault)
deriving DecidableEq, Repr

namespace ConversionError

/-- How much of a text is shown in the wording of a failure. -/
def shownLength : Nat := 200

/-- The wording of a failure. -/
def message : ConversionError → String
  | .invalidInteger base text =>
    "invalid literal for int() with base " ++ Number.integerText base ++ ": " ++
      String.ofList ((Text.quotedChars text.toList).take shownLength)
  | .tooManyDigits count => Number.limitText (some count)
  | .negatedText => "bad operand type for unary -: 'str'"
  | .decimal .overflow => "[<class 'decimal.Overflow'>]"
  | .decimal .invalidOperation => "[<class 'decimal.InvalidOperation'>]"

end ConversionError

/-- Why a statement gives no result. -/
inductive Failure
  | recognition (error : RecognitionError)
  | conversion (error : ConversionError)
  /-- A bind parameter was not numbered. -/
  | unnumbered

/-! ## Reading constants

A number constant is an integer if it can be, else a decimal number, else it stays a text. A text
constant that is cast to a type of date or time is that date or time, if its text reads as one. -/

namespace Constant

/-- The constant that the text of a number stands for. -/
def ofNumberText (text : String) : Constant :=
  match Number.readInteger 10 text.toList with
  | .ok value => .int value
  | .error _ =>
    match Number.Decimal.read? text with
    | some value => .decimal value
    | none => .text text

/-- The negative of a number; a truth value never gets here, and a text has none. -/
def negated : Constant → Except ConversionError Constant
  | .int value => .ok (.int (-value))
  | .decimal value =>
    match value.negated .arithmetic with
    | .ok negative => .ok (.decimal negative)
    | .error fault => .error (.decimal fault)
  | _ => .error .negatedText

end Constant

/-- The integer that a text spells in a base. -/
def integerIn (base : Nat) (text : String) : Except ConversionError Int :=
  match Number.readInteger base text.toList with
  | .ok value => .ok value
  | .error .malformed => .error (.invalidInteger base text)
  | .error (.tooManyDigits count) => .error (.tooManyDigits count)

/-- The readers of the types of date and time. -/
def temporalReader? (typeName : String) : Option (String → Option Constant) :=
  match typeName with
  | "DATE" => some fun text => (Calendar.Date.read? text).map .date
  | "TIME" => some fun text => (Calendar.Time.read? text).map .time
  | "DATETIME" | "TIMESTAMP" | "TIMESTAMPTZ" | "TIMESTAMPLTZ" | "DATETIME64" =>
    some fun text => (Calendar.DateTime.read? text).map .dateTime
  | _ => none

namespace Tree

/-- The name of the type that a cast leads to. -/
def castTarget? (tree : Tree) : Option String :=
  match (tree.slot "to").slot "this" with
  | .typeName name => some name
  | _ => none

/-- Whether the tree is a cast of either sort. -/
def isCast (tree : Tree) : Bool :=
  match tree.kind? with
  | some (.cast _) => true
  | _ => false

/-- The date or time that a cast of a text constant stands for. -/
def temporal? (tree : Tree) : Option Constant :=
  let operand := tree.slot "this"
  if tree.isCast && operand.isTextLiteral then do
    let reader ← temporalReader? (← tree.castTarget?)
    reader (← (operand.slot "this").text?)
  else none

/-- The constant behind the name of a character set. -/
def introduced? (tree : Tree) : Option Tree :=
  let content := tree.slot "expression"
  if tree.isA .introducer && content.isA .literal then some content else none

/-- The text in the first slot of a constant. -/
def content (tree : Tree) : String :=
  ((tree.slot "this").text?).getD ""

/-- The constant that a literal stands for. -/
def literalConstant (tree : Tree) : Constant :=
  if tree.isTextLiteral then .text tree.content else Constant.ofNumberText tree.content

end Tree

/-! ## Ordinals of bind parameters

The bind parameters below a node are numbered from zero in the order in which they are written. A
parameter that carries a number of its own takes that number less one instead, and yet counts for
the numbering of those behind it. -/

namespace Tree

/-- The number that a bind parameter carries, if its name consists of digits. -/
def ownNumber? (tree : Tree) : Except ConversionError (Option Int) :=
  if Text.allDigitLike tree.nameText.toList then (integerIn 10 tree.nameText).map some
  else .ok none

/-- Whether the tree binds a parameter: a parameter without a number is a variable and binds
none. -/
def isBound (tree : Tree) : Except ConversionError Bool :=
  if tree.isA .placeholder then .ok true
  else if tree.isA .parameter then tree.ownNumber?.map (·.isSome)
  else .ok false

/-- The name of a bind parameter, unless it is a number. -/
def boundName? (tree : Tree) : Option String :=
  let name := tree.nameText
  if name = "" ∨ Text.allDigitLike name.toList = true then none else some name

end Tree

/-- The ordinals of bind parameters by their places. -/
abbrev Ordinals := List (Place × Int)

/-- The ordinals of the bind parameters among nodes, the first of which is in the given position. -/
def ordinalsFrom (position : Nat) : List (Place × Tree) → Except ConversionError Ordinals
  | [] => .ok []
  | (place, tree) :: rest => do
    if ← tree.isBound then
      let number ← tree.ownNumber?
      let ordinal := match number with
        | some number => number - 1
        | none => (position : Int)
      return (place, ordinal) :: (← ordinalsFrom (position + 1) rest)
    else ordinalsFrom position rest

/-- The ordinals of all bind parameters in a tree. -/
def Tree.ordinals (root : Tree) : Except ConversionError Ordinals :=
  ordinalsFrom 0 root.nodes

/-! ## Resolving the elements of a row

An element has one sort, found from its kind and, where that leaves a choice, from its content: a
constant, an explicit null, a bind parameter, or an expression that is kept as text. An element of
any other kind is out of place in a row. -/

namespace Tree

/-- Whether a node of the kind is a constant whatever it holds. -/
def isConstantKind : Kind → Bool
  | .literal | .boolean | .prefixedText _ | .prefixedDigits _ => true
  | _ => false

/-- Whether the tree is the negative of a number constant. -/
def isNegatedNumber (tree : Tree) : Bool :=
  tree.isA (.unary .minus) && (tree.slot "this").isNumberLiteral

/-- The sort of an element. -/
def valueKind (tree : Tree) : Except ConversionError ValueKind :=
  if tree.isA .null then .ok .null
  else if tree.kind?.any isConstantKind then .ok .literal
  else do
    if ← tree.isBound then return .placeholder
    else if tree.introduced?.isSome || tree.isNegatedNumber || tree.temporal?.isSome then
      return .literal
    else if tree.kind?.any Kind.isExpression then return .expression
    else return .unrecognized

/-- The constant that an element of that sort stands for. -/
def constant (tree : Tree) : Except ConversionError Constant :=
  match tree.kind? with
  | some .boolean => .ok (.flag (tree.slot "this").isGiven)
  | some (.prefixedDigits .hex) => (integerIn 16 tree.content).map .int
  | some (.prefixedDigits .bit) => (integerIn 2 tree.content).map .int
  | some (.unary .minus) => (Constant.ofNumberText (tree.slot "this").content).negated
  | some .introducer => .ok ((tree.slot "expression").literalConstant)
  | some (.cast _) => .ok (tree.temporal?.getD (.text ""))
  | some (.prefixedText _) => .ok (.text tree.content)
  | _ => .ok tree.literalConstant

end Tree

/-- The source of the entries made while an element is resolved. -/
def resolverSource : String := "sql_recognizer.value_resolver"

/-- The value of an element at a place, with the ordinals of the bind parameters around it. -/
def resolveAt (grammar : Grammar) (ordinals : Ordinals) (place : Place) (tree : Tree) :
    Logged Failure Value :=
  match tree.valueKind with
  | .error error => .fail (.conversion error)
  | .ok .null => .ok .null
  | .ok .literal =>
    match tree.constant with
    | .ok constant => .ok (.literal constant)
    | .error error => .fail (.conversion error)
  | .ok .placeholder =>
    match ordinals.lookup place with
    | some ordinal => .ok (.placeholder ordinal tree.boundName?)
    | none => .fail .unnumbered
  | .ok .expression => .ok (.expression (tree.sql grammar) tree.className)
  | .ok .unrecognized =>
    ⟨[⟨resolverSource, .error, "No extraction rule for " ++ tree.className ++ " in VALUES", false⟩],
      .error (.recognition (.unrecognized tree .values))⟩

/-- The value of an element that stands alone: a bind parameter is numbered among those below it. -/
def resolveAlone (grammar : Grammar) (tree : Tree) : Logged Failure Value :=
  match tree.valueKind with
  | .ok .placeholder =>
    match tree.ordinals with
    | .ok ordinals => resolveAt grammar ordinals [] tree
    | .error error => .fail (.conversion error)
  | _ => resolveAt grammar [] [] tree

end SqlInsert
