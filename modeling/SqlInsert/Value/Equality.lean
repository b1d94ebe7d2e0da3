import SqlInsert.Value.Basic
/-!
# Equality of values

Values are equal when they are of one sort and hold equal things. Numbers are compared by quantity,
whatever their form, and a truth value counts as one or zero; times are compared by the instant they
name. No number equals nothing, not even itself, and asking about a signaling one is an error.
-/

namespace SqlInsert

/-- How a comparison fails. -/
inductive ComparisonError
  /-- A signaling no-number was compared with a number. -/
  | signaling
  /-- A signaling no-number was to be used as a key. -/
  | unhashable
deriving DecidableEq, Repr

/-- The wording of a failed comparison. -/
def ComparisonError.message : ComparisonError → String
  | .signaling => "[<class 'decimal.InvalidOperation'>]"
  | .unhashable => "Cannot hash a signaling NaN value"

namespace Constant

/-- A number, or a truth value as one, in decimal form. -/
def quantity? : Constant → Option Number.Decimal
  | .int value => some (.ofInt value)
  | .flag value => some (.ofInt (if value then 1 else 0))
  | .decimal value => some value
  | _ => none

/-- Whether the constant is a signaling no-number. -/
def isSignaling : Constant → Bool
  | .decimal value => value.isSignaling
  | _ => false

/-- Whether two constants are equal. -/
def equals (left right : Constant) : Except ComparisonError Bool :=
  match left.quantity?, right.quantity? with
  | some leftNumber, some rightNumber =>
    if left.isSignaling || right.isSignaling then .error .signaling
    else .ok (leftNumber.denotesSame rightNumber)
  | _, _ =>
    match left, right with
    | .text left, .text right => .ok (left == right)
    | .date left, .date right => .ok (left == right)
    | .time left, .time right => .ok (left.denotesSame right)
    | .dateTime left, .dateTime right => .ok (left.denotesSame right)
    | _, _ => .ok false

end Constant

namespace Value

/-- Whether two values are equal. -/
def equals : Value → Value → Except ComparisonError Bool
  | .literal left, .literal right => left.equals right
  | .null, .null => .ok true
  | .placeholder left leftName, .placeholder right rightName =>
    .ok (left == right && leftName == rightName)
  | .expression left leftKind, .expression right rightKind =>
    .ok (left == right && leftKind == rightKind)
  | _, _ => .ok false

/-- Whether two values serve as the same key: exactly when they are equal. -/
def sameKey (left right : Value) : Except ComparisonError Bool :=
  match left, right with
  | .literal left, .literal right =>
    if left.isSignaling || right.isSignaling then .error .unhashable else left.equals right
  | .literal constant, _ | _, .literal constant =>
    if constant.isSignaling then .error .unhashable else .ok false
  | left, right => left.equals right

end Value

end SqlInsert
