import SqlInsert.Text.Lines
import SqlInsert.Number.Basic
/-!
# Texts as bytes

A character is encoded in one to four bytes, the first of which tells how many follow. Bytes that
encode no text are refused with the place and the kind of the first fault, or replaced by one
character.
-/

namespace SqlInsert.Text

/-- What is wrong with bytes. -/
inductive EncodingFault
  /-- No character starts with the byte. -/
  | start
  /-- A byte does not continue the character that was started. -/
  | continuation
  /-- The bytes end within a character. -/
  | ending
deriving DecidableEq, Repr

/-- The place and kind of a fault. -/
structure EncodingError where
  fault : EncodingFault
  /-- The number of bytes before the character at fault. -/
  position : Nat
  /-- The first byte of the character. -/
  byte : UInt8
  /-- How many bytes of the character were good, the first one included. -/
  count : Nat
deriving DecidableEq, Repr

/-- The name of a fault. -/
def EncodingFault.text : EncodingFault → String
  | .start => "invalid start byte"
  | .continuation => "invalid continuation byte"
  | .ending => "unexpected end of data"

/-- The wording of a fault in its place. -/
def EncodingError.message (error : EncodingError) : String :=
  let place :=
    if error.count = 1 then
      "byte 0x" ++ String.ofList (hexDigits 2 error.byte.toNat) ++ " in position " ++
        Number.integerText error.position
    else
      "bytes in position " ++ Number.integerText error.position ++ "-" ++
        Number.integerText (error.position + error.count - 1 : Nat)
  "'utf-8' codec can't decode " ++ place ++ ": " ++ error.fault.text

/-- How a character of several bytes goes on behind its first one. -/
structure Continuation where
  /-- What the first byte contributes. -/
  value : Nat
  /-- How many bytes follow. -/
  count : Nat
  /-- The least second byte. -/
  low : Nat
  /-- The greatest second byte. -/
  high : Nat

/-- How a character goes on behind a first byte outside ASCII. The bounds of the second byte leave
out longer spellings than needed, surrogates, and what lies beyond the last code point. -/
def continuation? (byte : Nat) : Option Continuation :=
  if 0xC2 ≤ byte ∧ byte ≤ 0xDF then some ⟨byte - 0xC0, 1, 0x80, 0xBF⟩
  else if byte = 0xE0 then some ⟨0, 2, 0xA0, 0xBF⟩
  else if byte = 0xED then some ⟨0xD, 2, 0x80, 0x9F⟩
  else if 0xE1 ≤ byte ∧ byte ≤ 0xEF then some ⟨byte - 0xE0, 2, 0x80, 0xBF⟩
  else if byte = 0xF0 then some ⟨0, 3, 0x90, 0xBF⟩
  else if byte = 0xF4 then some ⟨4, 3, 0x80, 0x8F⟩
  else if 0xF1 ≤ byte ∧ byte ≤ 0xF3 then some ⟨byte - 0xF0, 3, 0x80, 0xBF⟩
  else none

/-- The code point that bytes complete and the rest of the bytes, or the fault and how many bytes
are good. -/
def completeChar (used : Nat) (going : Continuation) (bytes : List UInt8) :
    Except (EncodingFault × Nat) (Nat × List UInt8) :=
  match going, bytes with
  | ⟨value, 0, _, _⟩, rest => .ok (value, rest)
  | ⟨_, _ + 1, _, _⟩, [] => .error (.ending, used)
  | ⟨value, count + 1, low, high⟩, byte :: rest =>
    if low ≤ byte.toNat ∧ byte.toNat ≤ high then
      completeChar (used + 1) ⟨value * 64 + (byte.toNat - 0x80), count, 0x80, 0xBF⟩ rest
    else .error (.continuation, used)

/-- The code point at the front of bytes and the rest of the bytes. -/
def firstChar (byte : UInt8) (rest : List UInt8) :
    Except (EncodingFault × Nat) (Nat × List UInt8) :=
  if byte.toNat < 0x80 then .ok (byte.toNat, rest)
  else
    match continuation? byte.toNat with
    | some going => completeChar 1 going rest
    | none => .error (.start, 1)

/-- The text behind characters read before, which are kept in reverse. The fuel bounds the number of
bytes. -/
def decodeFrom : Nat → Nat → List Char → List UInt8 → Except EncodingError (List Char)
  | 0, _, reversed, _ => .ok reversed.reverse
  | _, _, reversed, [] => .ok reversed.reverse
  | fuel + 1, position, reversed, byte :: bytes =>
    match firstChar byte bytes with
    | .ok (point, rest) =>
      let used := if point < 0x80 then 1 else if point < 0x800 then 2
        else if point < 0x10000 then 3 else 4
      decodeFrom fuel (position + used) (Char.ofNat point :: reversed) rest
    | .error (fault, count) => .error ⟨fault, position, byte, count⟩

/-- The text that bytes encode. -/
def decode (bytes : List UInt8) : Except EncodingError (List Char) :=
  decodeFrom bytes.length 0 [] bytes

/-- The character that stands for bytes that encode none. -/
def replacementChar : Char := Char.ofNat 0xFFFD

/-- The text behind characters read before, which are kept in reverse, with a replacement for the good
bytes of each character at fault. The fuel bounds the number of bytes. -/
def decodeLenientFrom : Nat → List Char → List UInt8 → List Char
  | 0, reversed, _ => reversed.reverse
  | _, reversed, [] => reversed.reverse
  | fuel + 1, reversed, byte :: bytes =>
    match firstChar byte bytes with
    | .ok (point, rest) => decodeLenientFrom fuel (Char.ofNat point :: reversed) rest
    | .error (_, count) =>
      decodeLenientFrom fuel (replacementChar :: reversed) (bytes.drop (count - 1))

/-- The text that bytes encode, where bytes that encode none are replaced. -/
def decodeLenient (bytes : List UInt8) : List Char :=
  decodeLenientFrom bytes.length [] bytes

/-- The bytes of a text. -/
def encode (text : List Char) : List UInt8 :=
  text.flatMap String.utf8EncodeChar

end SqlInsert.Text
