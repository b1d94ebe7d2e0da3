import SqlInsert.Journal.Basic
import SqlInsert.Number.Basic
import SqlInsert.Text.Case
import SqlInsert.Text.Lines
/-!
# Formats and setup of the journal

The formats of entries, and the setup that decides which entries go where.
-/

namespace SqlInsert.Journal

/-! ## Formats of entries

A format is a text with fields. A field is a percent sign, a name in parentheses, flags, a least width, a
precision behind a point, and a letter for the kind. Two percent signs stand for one. A format is good if it has
a field somewhere; whether all of it can be shown is seen with the first entry, and an entry that cannot be shown
is not written. What is told of that failure is left out here. So are the values that are no part of an entry,
such as the place in a program or the number of a process, and the kinds of numbers with another base than ten or
with powers of ten: a field for one of these is empty. -/

/-- The mark that stands for the time of an entry. -/
def timeMark : List Char := "<time>".toList

/-- How many characters the time of an entry takes. -/
def timeLength : Nat := 19

/-- Whether a character is a flag of a field. -/
def isFlag (c : Char) : Bool :=
  ['#', '0', '+', ' ', '-'].contains c

/-- The letters for the kinds of fields, in either case, with the signs that count as one of them when case is set
aside. -/
def kindLetters : List Char :=
  "diouxefgcrsa%DIOUXEFGCRSA".toList ++ [Char.ofNat 0x130, Char.ofNat 0x131, Char.ofNat 0x17F]

/-- What follows a star or digits of any script at the front of a text, if one of these is there. -/
def behindAmount? : List Char → Option (List Char)
  | '*' :: rest => some rest
  | text =>
    let rest := text.dropWhile fun c => (Text.decimalValue? c).isSome
    if rest.length < text.length then some rest else none

/-- Whether a text starts with the style of a field: flags, a width, a precision and a letter, the width and the
precision only if they are wanted. -/
def startsWithStyle (text : List Char) : Bool :=
  let unflagged := text.dropWhile isFlag
  let rest := (behindAmount? unflagged).getD unflagged
  let kind? := match rest with
    | '.' :: after => (behindAmount? after).bind (·.head?)
    | rest => rest.head?
  kind?.any kindLetters.contains

/-- Whether a text starts with a field. The name of a field is a word. -/
def startsWithField : List Char → Bool
  | '%' :: '(' :: rest =>
    let name := rest.takeWhile Text.isWordChar
    match name, rest.drop name.length with
    | _ :: _, ')' :: style => startsWithStyle style
    | _, _ => false
  | _ => false

/-- Whether a text holds a field anywhere. -/
def hasField : List Char → Bool
  | [] => false
  | c :: rest => startsWithField (c :: rest) || hasField rest

/-- How a field is shown. -/
structure FieldStyle where
  flags : List Char
  width : Nat
  precision : Option Nat
  /-- The letter for the kind. -/
  kind : Char

/-- A part of a format. -/
inductive FormatPart
  | plain (text : List Char)
  | field (name : List Char) (style : FieldStyle)

/-- The number in the digits at the front, and what follows. -/
def leadingNumber (text : List Char) : Nat × List Char :=
  let digits := text.takeWhile Char.isDigit
  (Number.ofDigits 10 (digits.map fun c => c.toNat - 48), text.drop digits.length)

/-- The letters for the kinds that can be shown. -/
def shownKinds : List Char := "diouxXeEfFgGcrsa".toList

/-- The style behind the name of a field, and what follows. A point alone is a precision of zero, a letter for the
size of a number is passed over, and a star has nothing to stand for. -/
def fieldStyle? (text : List Char) : Option (FieldStyle × List Char) :=
  let flags := text.takeWhile isFlag
  let (width, rest) := leadingNumber (text.drop flags.length)
  let (precision, rest) := match rest with
    | '.' :: after =>
      let (number, after) := leadingNumber after
      (some number, after)
    | rest => (none, rest)
  let rest := match rest with
    | size :: after => if ['h', 'l', 'L'].contains size then after else rest
    | [] => []
  match rest with
  | kind :: after => if shownKinds.contains kind then some (⟨flags, width, precision, kind⟩, after) else none
  | [] => none

/-- The part of a format behind a percent sign, and what follows. -/
def formatPart? : List Char → Option (FormatPart × List Char)
  | '%' :: rest => some (.plain ['%'], rest)
  | '(' :: rest =>
    let name := rest.takeWhile (· ≠ ')')
    (fieldStyle? (rest.drop (name.length + 1))).map fun (style, after) => (.field name style, after)
  | _ => none

/-- The parts of a format, if all percent signs in it can be read. The fuel bounds the number of characters. -/
def formatParts : Nat → List Char → Option (List FormatPart)
  | _, [] => some []
  | 0, _ => none
  | fuel + 1, '%' :: rest => do
    let (part, after) ← formatPart? rest
    return part :: (← formatParts fuel after)
  | fuel + 1, c :: rest => do return .plain [c] :: (← formatParts fuel rest)

/-- What the name of a field stands for. -/
inductive FieldValue
  | text (text : List Char)
  | number (n : Nat)
  /-- A value that is no part of an entry. -/
  | other

/-- The names of what is known where an entry is made, and is no part of it. -/
def otherNames : List String :=
  ["args", "created", "exc_info", "exc_text", "filename", "funcName", "lineno", "module", "msecs",
   "pathname", "process", "processName", "relativeCreated", "stack_info", "thread", "threadName"]

/-- What the name of a field stands for in an entry, if it stands for anything. -/
def fieldValue? (entry : Entry) (name : List Char) : Option FieldValue :=
  match String.ofList name with
  | "asctime" => some (.text timeMark)
  | "name" => some (.text entry.source.toList)
  | "levelname" => some (.text entry.severity.name.toList)
  | "levelno" => some (.number entry.severity.rank)
  | "message" | "msg" => some (.text entry.message.toList)
  | name => if otherNames.contains name then some .other else none

/-- A text filled up to the width of a field. Blanks stand at the left unless a minus asks for the right. -/
def FieldStyle.fill (style : FieldStyle) (text : List Char) : List Char :=
  let length := if text = timeMark then timeLength else text.length
  let blanks := List.replicate (style.width - length) ' '
  if style.flags.contains '-' then text ++ blanks else blanks ++ text

/-- A number in the style of a field: at least as many digits as the precision says, behind a sign or a blank if one
is asked for, and zeros in place of the blanks at the left. -/
def FieldStyle.showNumber (style : FieldStyle) (n : Nat) : List Char :=
  let digits := Nat.toDigits 10 n
  let digits := List.replicate (style.precision.getD 0 - digits.length) '0' ++ digits
  let sign := if style.flags.contains '+' then ['+'] else if style.flags.contains ' ' then [' '] else []
  if style.flags.contains '0' && !style.flags.contains '-' then
    sign ++ List.replicate (style.width - sign.length - digits.length) '0' ++ digits
  else style.fill (sign ++ digits)

/-- A text cut to the precision of a field and filled up to its width. -/
def FieldStyle.fit (style : FieldStyle) (text : List Char) : List Char :=
  match style.precision with
  | some length => style.fill (text.take length)
  | none => style.fill text

/-- What a field shows of a value, if the value has the kind of the field. A text may stand between quotes, and only
a single character has the kind of characters. -/
def showField? (style : FieldStyle) : FieldValue → Option (List Char)
  | .text text =>
    match style.kind with
    | 's' => some (style.fit text)
    | 'r' => some (style.fit (Text.quotedChars text))
    | 'a' => some (style.fit (Text.plainlyQuotedChars text))
    | 'c' => if text.length = 1 then some (style.fill text) else none
    | _ => none
  | .number n =>
    match style.kind with
    | 'd' | 'i' | 'u' => some (style.showNumber n)
    | 's' | 'r' | 'a' => some (style.fit (Nat.toDigits 10 n))
    | _ => some []
  | .other => some []

/-- What a part of a format shows of an entry, if it can be shown. -/
def showPart? (entry : Entry) : FormatPart → Option (List Char)
  | .plain text => some text
  | .field name style => (fieldValue? entry name).bind (showField? style)

/-- An entry in a format, if it can be shown. -/
def formatted? (format : String) (entry : Entry) : Option String := do
  let parts ← formatParts format.length format.toList
  return String.ofList (← parts.mapM (showPart? entry)).flatten

/-! ## Setting up the journal

Entries go to the console, to a file, or to both, from a threshold on. What is not asked for is
taken from the environment, and what that does not say has a fixed value. A threshold or format that
makes no sense is refused. The file is rotated before it grows beyond a size, and a number of older
files is kept. -/

/-- The root of all sources. -/
def rootSource : String := "sql_recognizer"

/-- The source of the entry about the setup. -/
def setupSource : String := rootSource ++ ".config"

/-- What the environment says. -/
structure Environment where
  level : Option String
  format : Option String

/-- What is asked of the journal. -/
structure Request where
  level : Option String
  logFile : Option String
  format : Option String
  /-- Entries go to the console. -/
  console : Bool
  /-- The size that a file does not reach; none if it is zero. -/
  maxFileSize : Int
  /-- How many older files are kept. -/
  backupCount : Int

/-- The request that asks for nothing. -/
def Request.standard : Request :=
  ⟨none, none, none, true, 10 * 1024 * 1024, 5⟩

/-- A threshold for entries. -/
inductive Threshold
  /-- The threshold of whatever is above. -/
  | inherited
  | atLeast (severity : Severity)
deriving DecidableEq, Repr

namespace Threshold

/-- The threshold that a name stands for. -/
def ofName? (name : String) : Option Threshold :=
  match name with
  | "CRITICAL" | "FATAL" => some (.atLeast .critical)
  | "ERROR" => some (.atLeast .error)
  | "WARNING" | "WARN" => some (.atLeast .warning)
  | "INFO" => some (.atLeast .info)
  | "DEBUG" => some (.atLeast .debug)
  | "NOTSET" => some .inherited
  | _ => none

/-- The name of a threshold. -/
def name : Threshold → String
  | .inherited => "NOTSET"
  | .atLeast severity => severity.name

/-- Whether a source with the threshold makes an entry. What is above has its threshold at
warnings. -/
def admits (threshold : Threshold) (severity : Severity) : Bool :=
  match threshold with
  | .inherited => Severity.warning.rank ≤ severity.rank
  | .atLeast least => least.rank ≤ severity.rank

end Threshold

/-- The part of the setup that was refused. -/
inductive SetupError
  | format
  | consoleLevel
  | fileLevel
  | sourceLevel
deriving DecidableEq, Repr

/-- The wording of a refusal. -/
def SetupError.message : SetupError → String
  | .format => "Unable to configure formatter 'standard'"
  | .consoleLevel => "Unable to configure handler 'console'"
  | .fileLevel => "Unable to configure handler 'file'"
  | .sourceLevel => "Unable to configure logger '" ++ rootSource ++ "'"

/-- A text that says something. -/
def nonempty? (text : Option String) : Option String :=
  text.filter (· ≠ "")

/-- The format without any request. -/
def standardFormat : String :=
  "%(asctime)s - %(name)s - %(levelname)s - %(message)s"

/-- The format of entries in a file. -/
def fileFormat : String :=
  "%(asctime)s - %(name)s - %(levelname)s - %(filename)s:%(lineno)d - %(funcName)s() - %(message)s"

/-- A file that entries go to, and how it is rotated. -/
structure FileTarget where
  path : String
  maxSize : Int
  backupCount : Int

/-- A setup in force. -/
structure Configuration where
  threshold : Threshold
  /-- The name of the threshold as it was asked for, in capitals. -/
  levelName : String
  /-- The format on the console, if entries go there. -/
  console : Option String
  file : Option FileTarget

/-- The setup that a request and the environment ask for. -/
def configure (environment : Environment) (request : Request) :
    Except SetupError Configuration :=
  let levelName := Text.upper ((nonempty? request.level).getD (environment.level.getD "WARNING"))
  let format := (nonempty? request.format).getD (environment.format.getD standardFormat)
  let format := if format = "" then "%(message)s" else format
  let file := (nonempty? request.logFile).map fun path =>
    (⟨path, request.maxFileSize, request.backupCount⟩ : FileTarget)
  if !hasField format.toList then .error .format
  else
    match Threshold.ofName? levelName with
    | none =>
      .error (if request.console then .consoleLevel
        else if file.isSome then .fileLevel else .sourceLevel)
    | some threshold =>
      .ok ⟨threshold, levelName, if request.console then some format else none, file⟩

/-- The entry about a setup. -/
def setupEntry (configuration : Configuration) : Entry :=
  ⟨setupSource, .info,
    "Logging configured - Level: " ++ configuration.levelName ++ ", Console: " ++
      (if configuration.console.isSome then "True" else "False") ++ ", File: " ++
      ((configuration.file.map (·.path)).getD "None"), false⟩

/-! ### Where entries go -/

/-- A file with its entries. -/
abbrev LogFile := String × List Entry

/-- The path of an older file. -/
def backupPath (path : String) (index : Nat) : String :=
  path ++ "." ++ Number.integerText index

/-- How many characters an entry takes in a file. -/
def entrySize (entry : Entry) : Nat :=
  timeLength + entry.source.length + entry.severity.name.length + entry.message.length + 10

/-- How many characters entries take in a file. -/
def entriesSize (entries : List Entry) : Nat :=
  (entries.map entrySize).foldr (· + ·) 0

/-- Whether an entry would make a file reach its size. -/
def isFull (target : FileTarget) (entries : List Entry) (entry : Entry) : Bool :=
  0 < target.maxSize && target.maxSize ≤ (entriesSize (entries ++ [entry]) : Int)

/-- The files after an entry, the newest first. A full file makes place for an empty one, and the
oldest file is dropped when there are too many; without older files it just grows. -/
def store (target : FileTarget) (files : List (List Entry)) (entry : Entry) : List (List Entry) :=
  match files with
  | [] => [[entry]]
  | current :: older =>
    if isFull target current entry && 0 < target.backupCount then
      [entry] :: (current :: older).take target.backupCount.toNat
    else (current ++ [entry]) :: older

/-- What was written where. -/
structure Written where
  console : String
  files : List LogFile

/-- The entries from the threshold on. -/
def admitted (configuration : Configuration) (entries : List Entry) : List Entry :=
  entries.filter fun entry => configuration.threshold.admits entry.severity

/-- What becomes of entries. Where they go nowhere, warnings and what is worse are told on the
console without any format. -/
def write (configuration : Configuration) (entries : List Entry) : Written :=
  let kept := admitted configuration entries
  let lines := match configuration.console, configuration.file with
    | some format, _ => kept.filterMap (formatted? format)
    | none, some _ => []
    | none, none =>
      (kept.filter fun (entry : Entry) => Severity.warning.rank ≤ entry.severity.rank).map
        fun (entry : Entry) => entry.message
  let files := match configuration.file with
    | none => []
    | some target =>
      (kept.foldl (store target) [[]]).zipIdx.map fun (stored, index) =>
        (if index = 0 then target.path else backupPath target.path index, stored)
  ⟨String.join (lines.map (· ++ "\n")), files⟩

end SqlInsert.Journal
