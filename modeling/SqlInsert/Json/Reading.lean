import SqlInsert.Json.Basic
/-!
# Reading JSON

A JSON text is read as its standard says: blanks may stand around every part, a character of a string
may be escaped in several ways, and an integer has no leading zeros. What follows the value may only be
blanks. Numbers with a fraction or an exponent are refused, since a value has none.
-/

namespace SqlInsert.Json

/-- The characters that may stand between the parts of a text. -/
def isGap (c : Char) : Bool :=
  c = ' ' || c = '\t' || c = '\n' || c = '\r'

/-- The text without the gap in front. -/
def skipGap (chars : List Char) : List Char :=
  chars.dropWhile isGap

/-! ## Strings -/

/-- The value of a digit in base sixteen. -/
def hexValue? (c : Char) : Option Nat :=
  if c.isDigit then some (c.toNat - 48)
  else if 'a' ≤ c ∧ c ≤ 'f' then some (c.toNat - 87)
  else if 'A' ≤ c ∧ c ≤ 'F' then some (c.toNat - 55)
  else none

/-- The number that four digits in base sixteen spell, and what follows them. -/
def codeUnit? : List Char → Option (Nat × List Char)
  | first :: second :: third :: fourth :: rest => do
    let high := (← hexValue? first) * 16 + (← hexValue? second)
    return ((high * 16 + (← hexValue? third)) * 16 + (← hexValue? fourth), rest)
  | _ => none

/-- The character that is escaped by its number. Characters beyond the first 65536 take two numbers, each
from a range that has no characters. -/
def numbered? (chars : List Char) : Option (Char × List Char) := do
  let (unit, rest) ← codeUnit? chars
  if 0xD800 ≤ unit ∧ unit < 0xDC00 then
    match rest with
    | '\\' :: 'u' :: rest =>
      let (low, rest) ← codeUnit? rest
      if 0xDC00 ≤ low ∧ low < 0xE000 then
        return (Char.ofNat (0x10000 + (unit - 0xD800) * 0x400 + (low - 0xDC00)), rest)
      else none
    | _ => none
  else if 0xDC00 ≤ unit ∧ unit < 0xE000 then none
  else return (Char.ofNat unit, rest)

/-- The character behind a backslash. -/
def escaped? : List Char → Option (Char × List Char)
  | '"' :: rest => some ('"', rest)
  | '\\' :: rest => some ('\\', rest)
  | '/' :: rest => some ('/', rest)
  | 'b' :: rest => some ('\x08', rest)
  | 'f' :: rest => some ('\x0c', rest)
  | 'n' :: rest => some ('\n', rest)
  | 'r' :: rest => some ('\r', rest)
  | 't' :: rest => some ('\t', rest)
  | 'u' :: rest => numbered? rest
  | _ => none

/-- One character of a string. A control character has to be escaped. -/
def character? : List Char → Option (Char × List Char)
  | [] => none
  | c :: rest =>
    if c = '\\' then escaped? rest else if c = '"' ∨ c.toNat < 0x20 then none else some (c, rest)

/-- The characters up to the closing quote. The fuel bounds their number. -/
def charactersFrom? : Nat → List Char → Option (List Char × List Char)
  | 0, _ => none
  | fuel + 1, chars =>
    if chars.head? = some '"' then some ([], chars.tail)
    else do
      let (c, rest) ← character? chars
      let (others, rest) ← charactersFrom? fuel rest
      return (c :: others, rest)

/-- A string at the front of a text. -/
def string? : List Char → Option (String × List Char)
  | '"' :: rest => (charactersFrom? rest.length rest).map fun (content, rest) => (String.ofList content, rest)
  | _ => none

/-! ## Integers and words -/

/-- Whether a number goes on with a fraction or an exponent. -/
def continuesNumber (c : Char) : Bool :=
  c = '.' || c = 'e' || c = 'E'

/-- An integer at the front of a text. -/
def integer? (chars : List Char) : Option (Int × List Char) :=
  let negative := chars.head? = some '-'
  let unsigned := if negative then chars.tail else chars
  let digits := unsigned.takeWhile Char.isDigit
  let rest := unsigned.dropWhile Char.isDigit
  if digits = [] ∨ (digits.head? = some '0' ∧ digits ≠ ['0']) ∨ rest.head?.any continuesNumber then none
  else
    let magnitude : Int := Nat.ofDigitChars 10 digits 0
    some (if negative then -magnitude else magnitude, rest)

/-- A word that stands for a value. -/
def word? : List Char → Option (Json × List Char)
  | 'n' :: 'u' :: 'l' :: 'l' :: rest => some (.null, rest)
  | 't' :: 'r' :: 'u' :: 'e' :: rest => some (.bool true, rest)
  | 'f' :: 'a' :: 'l' :: 's' :: 'e' :: rest => some (.bool false, rest)
  | _ => none

/-! ## Lists and objects -/

section

variable {α : Type} (part? : List Char → Option (α × List Char)) (close : Char)

/-- One or more parts with commas between them, up to the closing bracket. The fuel bounds their
number. -/
def partsFrom? : Nat → List Char → Option (List α × List Char)
  | 0, _ => none
  | fuel + 1, chars => do
    let (first, rest) ← part? chars
    match skipGap rest with
    | [] => none
    | c :: rest =>
      if c = close then return ([first], rest)
      else if c = ',' then
        let (others, rest) ← partsFrom? fuel rest
        return (first :: others, rest)
      else none

/-- The parts behind an opening bracket, if there are any. -/
def parts? (chars : List Char) : Option (List α × List Char) :=
  if (skipGap chars).head? = some close then some ([], (skipGap chars).tail)
  else partsFrom? part? close chars.length chars

/-- The name of a member and, behind a colon, its value. -/
def named? (chars : List Char) : Option ((String × α) × List Char) := do
  let (name, rest) ← string? (skipGap chars)
  match skipGap rest with
  | ':' :: rest =>
    let (value, rest) ← part? rest
    return ((name, value), rest)
  | _ => none

end

/-- A value at the front of a text, in which brackets are nested less deep than a bound. -/
def value? : Nat → List Char → Option (Json × List Char)
  | 0, _ => none
  | depth + 1, chars =>
    match skipGap chars with
    | [] => none
    | c :: rest =>
      if c = '"' then (string? (c :: rest)).map fun (value, rest) => (.text value, rest)
      else if c = '[' then (parts? (value? depth) ']' rest).map fun (items, rest) => (.list items, rest)
      else if c = '\x7b' then
        (parts? (named? (value? depth)) '\x7d' rest).map fun (members, rest) => (.object members, rest)
      else if c = '-' ∨ c.isDigit then (integer? (c :: rest)).map fun (value, rest) => (.int value, rest)
      else word? (c :: rest)

/-- The value of a JSON text. Brackets are not nested deeper than the text is long. -/
def read? (text : String) : Option Json :=
  match value? text.toList.length text.toList with
  | some (value, rest) => if (skipGap rest).isEmpty then some value else none
  | none => none

example : read? " [1, -20 , \"\\u00e9\\ud83d\\ude00\"]\n" = some (.list [.int 1, .int (-20), .text "é😀"]) := rfl

example : read? "[1, 02]" = none := rfl

end SqlInsert.Json
