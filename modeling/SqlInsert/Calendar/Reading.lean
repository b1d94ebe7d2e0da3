import SqlInsert.Calendar.Basic
/-!
# Reading dates and times

Dates are read in calendar and week form, times with an optional fraction and zone, with or
without separators. The readers are lenient in places: they look at fixed positions, so text
behind the last field of a date is skipped.

A position counts one unit of the text's UTF-8 form. Every field is ASCII, so a longer character
is given as that many copies of itself, and can only be skipped.
-/

namespace SqlInsert.Calendar

/-- The text by positions: a character repeated as often as its UTF-8 form has units. -/
def positions (text : String) : List Char :=
  text.toList.flatMap fun c => List.replicate c.utf8Size c

/-- The value of an ASCII digit. -/
def asciiDigit? (c : Char) : Option Nat :=
  if c.isDigit then some (c.toNat - 48) else none

/-- The number in exactly so many digits at the front, and what follows. -/
def number? : Nat → List Char → Option (Nat × List Char)
  | count, text =>
    let digits := text.take count
    if digits.length = count then
      (digits.mapM asciiDigit?).map fun values =>
        (values.foldl (fun value digit => value * 10 + digit) 0, text.drop count)
    else none

/-- What follows a hyphen, or the text itself where no separators are used. -/
def skipHyphen? (separated : Bool) (text : List Char) : Option (List Char) :=
  if separated then
    match text with
    | '-' :: rest => some rest
    | _ => none
  else some text

/-- A date in calendar or week form at the front of the text. A week date without a day is its
Monday. -/
def dateFields? (text : List Char) : Option Date := do
  let (year, rest) ← number? 4 text
  let separated := rest.head? == some '-'
  let rest := if separated then rest.tail else rest
  match rest with
  | 'W' :: rest =>
    let (week, rest) ← number? 2 rest
    if rest.isEmpty then Date.ofWeekDate? year week 1
    else
      let (weekday, _) ← number? 1 (← skipHyphen? separated rest)
      Date.ofWeekDate? year week weekday
  | rest =>
    let (month, rest) ← number? 2 rest
    let (day, _) ← number? 2 (← skipHyphen? separated rest)
    Date.ofNumbers? year month day

/-- A date: the fields of a text of seven, eight or ten positions. -/
def Date.read? (text : String) : Option Date :=
  let units := positions text
  if units.length = 7 ∨ units.length = 8 ∨ units.length = 10 then dateFields? units else none

/-- The fields of a clock reading before range checks, and whether text is left over. -/
structure ClockFields where
  hour : Nat
  minute : Nat
  second : Nat
  microsecond : Nat
  leftover : Bool

/-- The microseconds of a fraction of up to six digits; further digits are skipped. -/
def fraction? (text : List Char) : Option (Nat × Bool) := do
  let count := min 6 text.length
  let (value, rest) ← number? count text
  return (value * Nat.pow 10 (6 - count), !(rest.dropWhile Char.isDigit).isEmpty)

/-- What stands behind a field of a clock reading. -/
inductive FieldEnd
  /-- The reading ends, perhaps with one character left over. -/
  | last (leftover : Bool)
  /-- The next field starts here. -/
  | next (rest : List Char)
  /-- A fraction of a second starts here. -/
  | fraction (rest : List Char)

/-- How a reading goes on behind a field. -/
def fieldEnd? (colons : Bool) (text : List Char) : Option FieldEnd :=
  match text with
  | [] => some (.last false)
  | [_] => some (.last true)
  | c :: rest =>
    if colons ∧ c = ':' then some (.next rest)
    else if c = '.' ∨ c = ',' then some (.fraction rest)
    else if colons then none
    else some (.next text)

/-- Hours, minutes and seconds, each optional behind the first, with or without colons, and a
fraction. -/
def clockFields? (text : List Char) : Option ClockFields := do
  let (hour, rest) ← number? 2 text
  let colons := rest.head? == some ':'
  match ← fieldEnd? colons rest with
  | .last leftover => return ⟨hour, 0, 0, 0, leftover⟩
  | .fraction rest =>
    let (microsecond, leftover) ← fraction? rest
    return ⟨hour, 0, 0, microsecond, leftover⟩
  | .next rest =>
    let (minute, rest) ← number? 2 rest
    match ← fieldEnd? colons rest with
    | .last leftover => return ⟨hour, minute, 0, 0, leftover⟩
    | .fraction rest =>
      let (microsecond, leftover) ← fraction? rest
      return ⟨hour, minute, 0, microsecond, leftover⟩
    | .next rest =>
      let (second, rest) ← number? 2 rest
      match ← fieldEnd? colons rest with
      | .last leftover => return ⟨hour, minute, second, 0, leftover⟩
      | .fraction rest | .next rest =>
        let (microsecond, leftover) ← fraction? rest
        return ⟨hour, minute, second, microsecond, leftover⟩

/-- Whether a zone starts here. -/
def startsZone (c : Char) : Bool :=
  c = '+' || c = '-' || c = 'Z'

/-- The offset that a zone names: universal time, or a clock reading with a sign. -/
def zone? (mark : Char) (text : List Char) : Option Offset :=
  if mark = 'Z' then
    if text.isEmpty then some .utc else none
  else
    ((clockFields? text).filter (!·.leftover)).bind fun fields =>
      Offset.ofParts? (mark == '-')
        (fields.hour * 3600 + fields.minute * 60 + fields.second) fields.microsecond

/-- A clock reading with an optional zone. Text between the reading and the zone is skipped. -/
def clockAndZone? (text : List Char) : Option (Clock × Option Offset) := do
  let fields ← clockFields? (text.takeWhile (!startsZone ·))
  let clock ← Clock.ofNumbers? fields.hour fields.minute fields.second fields.microsecond
  match text.dropWhile (!startsZone ·) with
  | [] =>
    guard !fields.leftover
    return (clock, none)
  | mark :: zone => return (clock, some (← zone? mark zone))

/-- A time of day, with an optional `T` before it. -/
def Time.read? (text : String) : Option Time := do
  let units := positions text
  let units := if units.head? == some 'T' then units.tail else units
  let (clock, offset) ← clockAndZone? units
  return ⟨clock, offset⟩

/-- How many positions the date at the front of a date and time takes. -/
def datePositions (text : List Char) : Nat :=
  let at? (i : Nat) (c : Char) : Bool := text[i]? == some c
  if text.length = 7 then 7
  else if at? 4 '-' then
    if at? 5 'W' then
      if 8 < text.length ∧ at? 8 '-' then
        if 10 < text.length ∧ (text[10]?.any Char.isDigit) then 8 else 10
      else 8
    else 10
  else if at? 4 'W' then
    let digits := 7 + ((text.drop 7).takeWhile Char.isDigit).length
    if digits < 9 then digits else if digits % 2 = 0 then 7 else 8
  else 8

/-- A date and a time with any one character between them, or a date alone for its midnight. -/
def DateTime.read? (text : String) : Option DateTime := do
  let units := positions text
  guard (7 ≤ units.length)
  guard !(units.length = 9 ∧ units[4]? = some '-' ∧ units[5]? = some 'W' ∧ units[8]? = some '-')
  let count := datePositions units
  let date ← dateFields? (units.take count)
  match units.drop count with
  | [] => return ⟨date, .midnight, none⟩
  | separator :: rest =>
    let (clock, offset) ← clockAndZone? (rest.drop (separator.utf8Size - 1))
    return ⟨date, clock, offset⟩

end SqlInsert.Calendar
