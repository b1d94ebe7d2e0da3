import SqlInsert.Text.Character
/-!
# Numbers

Integers as text, and decimal numbers of any precision.
-/

namespace SqlInsert.Number

/-! ## Integers as text

An integer is written in base ten, two or sixteen: blanks at the ends, an optional sign, for base
two and sixteen an optional mark of the base, and digits of any script with single underscores
between them. Base ten carries a limit in both directions: more than 4300 digits are neither read
nor written. -/

/-- The greatest number of decimal digits that is read or written. -/
def decimalDigitLimit : Nat := 4300

/-- Why a text spells no integer. -/
inductive IntegerFault
  /-- The text does not follow the grammar of the base. -/
  | malformed
  /-- The text has too many decimal digits. -/
  | tooManyDigits (count : Nat)
deriving DecidableEq, Repr

/-- The value of a character as a digit of a base up to thirty-six: a decimal digit of any script
or an ASCII letter. -/
def digitValue? (base : Nat) (c : Char) : Option Nat :=
  let value := (Text.decimalValue? c).orElse fun _ =>
    if c.isLower then some (c.toNat - 87) else if c.isUpper then some (c.toNat - 55) else none
  value.filter (· < base)

/-- The number that digits denote in a base, the most significant digit first. -/
def ofDigits (base : Nat) (digits : List Nat) : Nat :=
  digits.foldl (fun value digit => value * base + digit) 0

/-- Digits with single underscores between them, at least one. -/
def digits? (base : Nat) : List Char → Option (List Nat)
  | [] => none
  | [c] => (digitValue? base c).map ([·])
  | c :: '_' :: rest => do return (← digitValue? base c) :: (← digits? base rest)
  | c :: next :: rest => do return (← digitValue? base c) :: (← digits? base (next :: rest))

/-- A sign and what follows it; no sign counts as a plus. -/
def splitSign : List Char → Bool × List Char
  | '-' :: rest => (true, rest)
  | '+' :: rest => (false, rest)
  | rest => (false, rest)

/-- What follows the mark of the base, with the one underscore that may stand behind the mark. The mark stands
behind a zero of any script. -/
def dropBaseMark (base : Nat) : List Char → List Char
  | zero :: mark :: rest =>
    if Text.decimalValue? zero = some 0 ∧
        ((base = 16 ∧ (mark = 'x' ∨ mark = 'X')) ∨ (base = 2 ∧ (mark = 'b' ∨ mark = 'B'))) then
      match rest with
      | '_' :: digits => digits
      | digits => digits
    else zero :: mark :: rest
  | text => text

/-- The integer a text spells in a base. The number of digits is limited in base ten only, and
the limit is noticed before anything that follows the digits. -/
def readInteger (base : Nat) (text : List Char) : Except IntegerFault Int :=
  let (negative, unsigned) := splitSign (text.dropWhile Text.isNumberBlank)
  let body := dropBaseMark base unsigned
  let inNumber c := c = '_' || (digitValue? base c).isSome
  match digits? base (body.takeWhile inNumber) with
  | none => .error .malformed
  | some digits =>
    if base = 10 ∧ decimalDigitLimit < digits.length then .error (.tooManyDigits digits.length)
    else if (body.dropWhile inNumber).all Text.isNumberBlank then
      let magnitude : Int := ofDigits base digits
      .ok (if negative then -magnitude else magnitude)
    else .error .malformed

/-- Whether an integer has more decimal digits than are written. -/
def isOverlong (n : Int) : Bool :=
  Nat.pow 10 decimalDigitLimit ≤ n.natAbs

/-- The decimal digits of an integer behind its sign. -/
def integerText (n : Int) : String :=
  String.ofList ((if n < 0 then ['-'] else []) ++ Nat.toDigits 10 n.natAbs)

/-- Why an integer is not written. -/
inductive WritingError
  /-- The integer has too many decimal digits. -/
  | overlong
deriving DecidableEq, Repr

/-- What is said about digits beyond the limit, followed by their count where it is known. -/
def limitText (count : Option Nat) : String :=
  "Exceeds the limit (" ++ integerText decimalDigitLimit ++
    " digits) for integer string conversion" ++
    (match count with
     | some count => ": value has " ++ integerText count ++ " digits"
     | none => "") ++
    "; use sys.set_int_max_str_digits() to increase the limit"

/-- The wording of a failure to write. -/
def WritingError.message : WritingError → String
  | .overlong => limitText none

/-- The decimal text of an integer, if it is not too long. -/
def writeInteger (n : Int) : Except WritingError String :=
  if isOverlong n then .error .overlong else .ok (integerText n)

/-! ## Decimal numbers

A decimal number keeps its sign, its digits and its exponent as they were written, so `1.0` and
`1.00` are equal and yet distinct. Reading is exact; the only arithmetic is negation, which rounds
to the precision of a context as any other operation would. -/

/-- A decimal number or one of the special values. -/
inductive Decimal
  /-- The quantity `coefficient * 10 ^ exponent` with a sign of its own, so that zero has one too. -/
  | finite (negative : Bool) (coefficient : Nat) (exponent : Int)
  | infinity (negative : Bool)
  /-- No number; the payload is a diagnostic number, zero when there is none. -/
  | nan (negative signaling : Bool) (payload : Nat)
deriving DecidableEq, Repr

/-- How an operation on decimal numbers fails. -/
inductive DecimalFault
  | overflow
  | invalidOperation
deriving DecidableEq, Repr

/-- Precision and exponent range of a calculation. -/
structure DecimalContext where
  /-- The greatest number of digits of a result. -/
  precision : Nat
  /-- The greatest exponent of the first digit. -/
  maxExponent : Int
  /-- The least exponent of the first digit of a number with full precision. -/
  minExponent : Int

/-- The least exponent of the last digit. -/
def DecimalContext.leastExponent (context : DecimalContext) : Int :=
  context.minExponent - (context.precision - 1)

/-- The context of arithmetic: twenty-eight digits. -/
def DecimalContext.arithmetic : DecimalContext :=
  ⟨28, 999999, -999999⟩

/-- The range that reading accepts without loss. -/
def DecimalContext.reading : DecimalContext :=
  ⟨999999999999999999, 999999999999999999, -999999999999999999⟩

namespace Decimal

/-- The decimal digits of a coefficient; zero has one. -/
def coefficientDigits (coefficient : Nat) : List Char :=
  Nat.toDigits 10 coefficient

/-- The number of digits of a coefficient; zero has one. -/
def digitCount (coefficient : Nat) : Nat :=
  (coefficientDigits coefficient).length

/-- The exponent of the first digit. -/
def adjustedExponent (coefficient : Nat) (exponent : Int) : Int :=
  exponent + digitCount coefficient - 1

/-! ### Reading -/

/-- The values of the decimal digits at the front, and what follows them. -/
def spanDigits : List Char → List Nat × List Char
  | [] => ([], [])
  | c :: rest =>
    match Text.decimalValue? c with
    | some value =>
      let (digits, after) := spanDigits rest
      (value :: digits, after)
    | none => ([], c :: rest)

/-- An exponent behind its mark, or zero where the text ends without one. -/
def readExponent? : List Char → Option Int
  | [] => some 0
  | mark :: rest =>
    if mark = 'e' ∨ mark = 'E' then
      let (negative, unsigned) := splitSign rest
      match spanDigits unsigned with
      | ([], _) => none
      | (digits, []) =>
        let magnitude : Int := ofDigits 10 digits
        some (if negative then -magnitude else magnitude)
      | (_, _ :: _) => none
    else none

/-- Whether a number can be kept without loss. -/
def isReadable (coefficient : Nat) (exponent : Int) : Bool :=
  let last := if coefficient = 0 then exponent else adjustedExponent coefficient exponent
  last ≤ DecimalContext.reading.maxExponent && DecimalContext.reading.leastExponent ≤ exponent

/-- A number with an optional point and an optional exponent, without its sign. -/
def readFinite? (negative : Bool) (text : List Char) : Option Decimal := do
  let (whole, rest) := spanDigits text
  let (fraction, rest) := match rest with
    | '.' :: after => spanDigits after
    | after => ([], after)
  if whole.isEmpty && fraction.isEmpty then none
  let written ← readExponent? rest
  let coefficient := ofDigits 10 (whole ++ fraction)
  let exponent := written - fraction.length
  if isReadable coefficient exponent then some (.finite negative coefficient exponent) else none

/-- A name of a special value in small letters, and for no number the digits behind it. -/
def readSpecial? (negative : Bool) (text : List Char) : Option Decimal :=
  match text.map Char.toLower with
  | ['i', 'n', 'f'] => some (.infinity negative)
  | ['i', 'n', 'f', 'i', 'n', 'i', 't', 'y'] => some (.infinity negative)
  | 'n' :: 'a' :: 'n' :: digits => payload? false digits
  | 's' :: 'n' :: 'a' :: 'n' :: digits => payload? true digits
  | _ => none
where
  /-- No number with the payload that digits spell. -/
  payload? (signaling : Bool) (text : List Char) : Option Decimal :=
    match spanDigits text with
    | (digits, []) => some (.nan negative signaling (ofDigits 10 digits))
    | (_, _ :: _) => none

/-- The number a text spells: blanks at both ends are skipped and underscores ignored. -/
def read? (text : String) : Option Decimal :=
  let (negative, body) :=
    splitSign ((Text.trimWhile Text.isBlank text.toList).filter (· ≠ '_'))
  (readSpecial? negative body).orElse fun _ => readFinite? negative body

/-! ### Writing -/

/-- Digits with a point so many places from the left, zeros filling what is missing. -/
def plainDigits (digits : List Char) (exponent : Int) : List Char :=
  let point := digits.length + exponent
  if exponent = 0 then digits
  else if 0 < point then digits.take point.toNat ++ '.' :: digits.drop point.toNat
  else '0' :: '.' :: List.replicate (-point).toNat '0' ++ digits

/-- One digit before the point and the power of ten of that digit. -/
def scientificDigits (digits : List Char) (adjusted : Int) : List Char :=
  let mantissa := match digits with
    | first :: second :: rest => first :: '.' :: second :: rest
    | short => short
  let sign := if adjusted < 0 then '-' else '+'
  mantissa ++ 'E' :: sign :: Nat.toDigits 10 adjusted.natAbs

/-- The characters of a number. The power of ten is written out unless the number is an integer
with trailing zeros to be supplied, or starts more than six places behind the point. -/
def chars : Decimal → List Char
  | .finite negative coefficient exponent =>
    let digits := coefficientDigits coefficient
    let adjusted := adjustedExponent coefficient exponent
    let sign := if negative then ['-'] else []
    sign ++ if exponent ≤ 0 ∧ -6 ≤ adjusted then plainDigits digits exponent
      else scientificDigits digits adjusted
  | .infinity negative => (if negative then ['-'] else []) ++ "Infinity".toList
  | .nan negative signaling payload =>
    (if negative then ['-'] else []) ++ (if signaling then "sNaN" else "NaN").toList ++
      (if payload = 0 then [] else Nat.toDigits 10 payload)

/-- The text of a number. -/
def text (number : Decimal) : String :=
  String.ofList number.chars

/-! ### Negation in a context -/

/-- The coefficient without its last digits, rounded to nearest, a tie to the even neighbour. -/
def roundHalfEven (coefficient dropped : Nat) : Nat :=
  if digitCount coefficient < dropped then 0
  else
    let unit := Nat.pow 10 dropped
    let kept := coefficient / unit
    let rest := coefficient % unit
    if unit < 2 * rest ∨ (2 * rest = unit ∧ kept % 2 = 1) then kept + 1 else kept

/-- The finite number nearest to the given one that a context can hold. -/
def rounded (context : DecimalContext) (negative : Bool) (coefficient : Nat) (exponent : Int) :
    Except DecimalFault Decimal :=
  if coefficient = 0 then
    .ok (.finite negative 0 (max context.leastExponent (min exponent context.maxExponent)))
  else if context.maxExponent < adjustedExponent coefficient exponent then .error .overflow
  else
    let surplus : Int := digitCount coefficient - context.precision
    let dropped := (max surplus (context.leastExponent - exponent)).toNat
    let kept := roundHalfEven coefficient dropped
    let scale := exponent + dropped
    let (kept, scale) :=
      if context.precision < digitCount kept then (kept / 10, scale + 1) else (kept, scale)
    if context.maxExponent < adjustedExponent kept scale then .error .overflow
    else .ok (.finite negative kept scale)

/-- The negative of a number as a result of arithmetic: rounded, without a negative zero unless
rounding made it, and with no number left as it is. -/
def negated (context : DecimalContext) (number : Decimal) :
    Except DecimalFault Decimal :=
  match number with
  | .finite negative coefficient exponent =>
    rounded context (!negative && coefficient != 0) coefficient exponent
  | .infinity negative => .ok (.infinity (!negative))
  | .nan _ true _ => .error .invalidOperation
  | .nan negative false payload => .ok (.nan negative false (payload % Nat.pow 10 context.precision))

/-! ### Numeric equality -/

/-- An integer as a decimal number. -/
def ofInt (n : Int) : Decimal :=
  .finite (n < 0) n.natAbs 0

/-- Whether `left * 10 ^ gap = right`. A gap longer than the digits of `right` is no match. -/
def scalesTo (left gap right : Nat) : Bool :=
  gap ≤ digitCount right && left * Nat.pow 10 gap == right

/-- Whether two numbers denote the same quantity: zeros are equal whatever their sign, and no
number equals nothing. -/
def denotesSame : Decimal → Decimal → Bool
  | .finite leftNegative left leftExponent, .finite rightNegative right rightExponent =>
    if left = 0 ∨ right = 0 then left == right
    else leftNegative == rightNegative &&
      if rightExponent ≤ leftExponent then
        scalesTo left (leftExponent - rightExponent).toNat right
      else scalesTo right (rightExponent - leftExponent).toNat left
  | .infinity left, .infinity right => left == right
  | _, _ => false

/-- Whether comparing the number is an error. -/
def isSignaling : Decimal → Bool
  | .nan _ signaling _ => signaling
  | _ => false

end Decimal

end SqlInsert.Number
