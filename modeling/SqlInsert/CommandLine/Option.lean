import SqlInsert.Text.Lines
/-!
# Options and help

Options and arguments on the command line, the suggestions for what was misspelled, and the help.
-/

namespace SqlInsert.CommandLine

/-! ## Similar names

Two names are compared by the characters they share: those of the longest block that stands in
both, and then those shared on each side of it. Names are similar if shared characters make up at
least six tenths of both together. -/

/-- A block that stands in two texts. -/
structure SharedBlock where
  /-- How many characters stand before it in the first text. -/
  left : Nat
  /-- How many characters stand before it in the second text. -/
  right : Nat
  length : Nat

/-- The longer of two blocks, the first one of two that are as long. -/
def SharedBlock.longer (first second : SharedBlock) : SharedBlock :=
  if first.length < second.length then second else first

/-- The longest block that two texts share; of several the first one in the first text, and of
those the first one in the second. -/
def longestShared (a b : List Char) : SharedBlock :=
  ((List.range a.length).flatMap fun left =>
    (List.range b.length).map fun right =>
      SharedBlock.mk left right (Text.sharedStart (a.drop left) (b.drop right)).length).foldl
    SharedBlock.longer ⟨0, 0, 0⟩

/-- How many characters two texts share. The fuel bounds the number of blocks. -/
def sharedCountFrom : Nat → List Char → List Char → Nat
  | 0, _, _ => 0
  | fuel + 1, a, b =>
    let block := longestShared a b
    if block.length = 0 then 0
    else
      sharedCountFrom fuel (a.take block.left) (b.take block.right) + block.length +
        sharedCountFrom fuel (a.drop (block.left + block.length)) (b.drop (block.right + block.length))

/-- How many characters two texts share. -/
def sharedCount (a b : List Char) : Nat :=
  sharedCountFrom a.length a b

/-- Whether so many shared characters make texts of a common length similar. -/
def isEnough (shared total : Nat) : Bool :=
  6 * total ≤ 20 * shared

/-- Whether two texts are similar. Texts of very different lengths are not. -/
def isSimilar (a b : List Char) : Bool :=
  let total := a.length + b.length
  isEnough (min a.length b.length) total && isEnough (sharedCount a b) total

/-- The names that are similar to a text. -/
def similarNames (names : List String) (text : String) : List String :=
  names.filter fun name => isSimilar name.toList text.toList

/-- What is said about similar names behind a complaint. -/
def similarText (names : List String) : String :=
  match names.mergeSort (fun a b => !(b < a)) with
  | [] => ""
  | [name] => " Did you mean " ++ Text.quoted name ++ "?"
  | sorted => " (Did you mean one of: " ++ ", ".intercalate (sorted.map Text.quoted) ++ "?)"

/-! ## Options

A command takes options and other arguments. A switch stands alone; every other option has a value,
which follows as the next argument, behind an equals sign, or right behind its letter. A long name
may be cut short as long as no other one starts in the same way. Two dashes end the options. -/

section

/-- The shape of an option. -/
inductive OptionShape
  | switch
  /-- An option with a value, known by a letter too. The mark stands for the value in the help. -/
  | valued (letter : Char) (mark : String)

/-- An option of a command. -/
structure OptionForm (α : Type) where
  /-- The long name with its dashes. -/
  name : String
  shape : OptionShape
  help : String
  meaning : α

/-- An option as it was given; the value of a switch is empty. -/
structure Given (α : Type) where
  meaning : α
  value : String

/-- Why arguments cannot be read. -/
inductive ArgumentError
  | unknownOption (name : String) (similar : List String)
  | missingValue (name : String)
  | unwantedValue (name : String)
deriving DecidableEq, Repr

/-- The wording of a failure. -/
def ArgumentError.message : ArgumentError → String
  | .unknownOption name similar =>
    "No such option " ++ Text.quoted name ++ "." ++ similarText similar
  | .missingValue name => "Option " ++ Text.quoted name ++ " requires an argument."
  | .unwantedValue name => "Option " ++ Text.quoted name ++ " does not take a value."

namespace OptionForm

variable {α : Type}

/-- The short name with its dash. -/
def shortName? (form : OptionForm α) : Option String :=
  match form.shape with
  | .switch => none
  | .valued letter _ => some (String.ofList ['-', letter])

/-- The names by which a complaint about a value tells the option. -/
def hint (form : OptionForm α) : String :=
  " / ".intercalate ((form.name :: form.shortName?.toList).map Text.quoted)

/-- What the option looks like in the help. -/
def synopsis (form : OptionForm α) : String :=
  match form.shape with
  | .switch => form.name
  | .valued letter mark => String.ofList ['-', letter, ',', ' '] ++ form.name ++ " " ++ mark

end OptionForm

/-- What one argument says. -/
inductive Reading (α : Type)
  | complete (given : Given α)
  /-- The value is the next argument. -/
  | wantsValue (meaning : α) (name : String)

section

variable {α : Type}

/-- The option with a long name, or the only one whose name starts in this way. -/
def longOption? (forms : List (OptionForm α)) (name : String) : Option (OptionForm α) :=
  (forms.find? (·.name == name)).orElse fun _ =>
    match forms.filter fun form => 2 < name.length && name.toList.isPrefixOf form.name.toList with
    | [form] => some form
    | _ => none

/-- The option with a letter, and its mark. -/
def shortOption? (forms : List (OptionForm α)) (letter : Char) : Option (OptionForm α) :=
  forms.find? fun form =>
    match form.shape with
    | .switch => false
    | .valued known _ => known == letter

/-- The parts of an argument before and behind its first equals sign. -/
def splitValue (argument : List Char) : List Char × Option (List Char) :=
  let name := argument.takeWhile (· ≠ '=')
  match argument.drop name.length with
  | _ :: value => (name, some value)
  | [] => (name, none)

/-- What an option with a long name says with the value attached to it. -/
def readLong (form : OptionForm α) (value : Option (List Char)) :
    Except ArgumentError (Reading α) :=
  match form.shape, value with
  | .switch, none => .ok (.complete ⟨form.meaning, ""⟩)
  | .switch, some _ => .error (.unwantedValue form.name)
  | .valued _ _, some value => .ok (.complete ⟨form.meaning, String.ofList value⟩)
  | .valued _ _, none => .ok (.wantsValue form.meaning form.name)

/-- What a letter with the text attached to it says. -/
def readShort (forms : List (OptionForm α)) (letter : Char) (attached : List Char) :
    Except ArgumentError (Reading α) :=
  let name := String.ofList ['-', letter]
  match shortOption? forms letter with
  | none => .error (.unknownOption name [])
  | some form =>
    if attached.isEmpty then .ok (.wantsValue form.meaning name)
    else .ok (.complete ⟨form.meaning, String.ofList attached⟩)

/-- What an argument that starts with a dash says. -/
def readOption (forms : List (OptionForm α)) (argument : List Char) :
    Except ArgumentError (Reading α) :=
  let (name, value) := splitValue argument
  match longOption? forms (String.ofList name), argument with
  | some form, _ => readLong form value
  | none, '-' :: '-' :: _ =>
    .error (.unknownOption (String.ofList name)
      (similarNames (forms.map (·.name)) (String.ofList name)))
  | none, _ :: letter :: attached => readShort forms letter attached
  | none, _ => .error (.unknownOption (String.ofList name) [])

/-- Whether an argument is an option and no plain argument. -/
def isOption (argument : String) : Bool :=
  match argument.toList with
  | '-' :: _ :: _ => true
  | _ => false

/-- Arguments that were read. -/
structure Arguments (α : Type) where
  /-- The options in the order in which they were given. -/
  given : List (Given α)
  /-- The other arguments. -/
  rest : List String

namespace Arguments

/-- Arguments behind one more option. -/
def withGiven (given : Given α) (arguments : Arguments α) : Arguments α :=
  { arguments with given := given :: arguments.given }

/-- Arguments behind one more that is no option. -/
def withPlain (argument : String) (arguments : Arguments α) : Arguments α :=
  { arguments with rest := argument :: arguments.rest }

/-- What arguments say. Options may stand behind other arguments only if those are `mixed`. -/
def read (forms : List (OptionForm α)) (mixed : Bool) :
    List String → Except ArgumentError (Arguments α)
  | [] => .ok ⟨[], []⟩
  | argument :: rest =>
    if argument = "--" then .ok ⟨[], rest⟩
    else if isOption argument then
      match readOption forms argument.toList with
      | .error error => .error error
      | .ok (.complete given) => (read forms mixed rest).map (withGiven given)
      | .ok (.wantsValue meaning name) =>
        match rest with
        | [] => .error (.missingValue name)
        | value :: after => (read forms mixed after).map (withGiven ⟨meaning, value⟩)
    else if mixed then (read forms mixed rest).map (withPlain argument)
    else .ok ⟨[], argument :: rest⟩

/-- The values of the options with a meaning, in order. -/
def values [DecidableEq α] (meaning : α) (arguments : Arguments α) : List String :=
  (arguments.given.filter fun given => given.meaning = meaning).map (·.value)

/-- What was given, each meaning once, in the order in which it was first given. -/
def meanings [DecidableEq α] (arguments : Arguments α) : List α :=
  (arguments.given.map (·.meaning)).eraseDups

end Arguments

end

end

/-! ## Help and usage

The help of a command shows how it is used, what it does, its options, and the commands below it. A
complaint about arguments points to the help. -/

/-- How a command presents itself. -/
structure Manual where
  /-- What stands behind the name in the usage. -/
  usage : String
  /-- What the command does, in one sentence. -/
  description : String
  /-- The options, as they are written and with what they do. -/
  options : List (String × String)
  /-- The commands below, with what they do. -/
  commands : List (String × String)

/-- The widest entry that text stands beside. -/
def entryLimit : Nat := 30

/-- The least width of a text beside an entry. -/
def leastTextWidth : Nat := 10

/-- Words put together into lines up to a width, behind a line that is open. -/
def fillWords (width : Nat) (line : String) : List String → List String
  | [] => [line]
  | word :: rest =>
    if line.length + 1 + word.length ≤ width then fillWords width (line ++ " " ++ word) rest
    else line :: fillWords width word rest

/-- A text in lines up to a width. -/
def textLines (width : Nat) (text : String) : List String :=
  match (Text.splitAt (· == ' ') text.toList).map String.ofList with
  | [] => []
  | word :: rest => fillWords width word rest

/-- So many blanks. -/
def blanks (count : Nat) : String :=
  String.ofList (List.replicate count ' ')

/-- The lines of a list of entries with texts beside them. -/
def entryLines (width : Nat) (entries : List (String × String)) : List String :=
  let widest := (entries.map fun (entry, _) => entry.length).foldl max 0
  let column := min widest entryLimit + 2
  entries.flatMap fun (entry, text) =>
    let indent := blanks (column + 2)
    let lines := textLines (max (width - column - 2) leastTextWidth) text
    if entry.length + 2 ≤ column then
      match lines with
      | [] => [blanks 2 ++ entry]
      | first :: others =>
        (blanks 2 ++ entry ++ blanks (column - entry.length) ++ first) :: others.map (indent ++ ·)
    else (blanks 2 ++ entry) :: lines.map (indent ++ ·)

/-- A section of the help; an empty one is left out. -/
def sectionLines (width : Nat) (title : String) (entries : List (String × String)) : List String :=
  if entries.isEmpty then [] else "" :: (title ++ ":") :: entryLines width entries

namespace Manual

/-- The line about the usage of a command. -/
def usageLine (manual : Manual) (path : String) : String :=
  "Usage: " ++ path ++ " " ++ manual.usage

/-- The help of a command that is called by a path. -/
def help (manual : Manual) (width : Nat) (path : String) : String :=
  let lines := [manual.usageLine path, ""] ++
    (textLines (width - 2) manual.description).map (blanks 2 ++ ·) ++
    sectionLines width "Options" manual.options ++
    sectionLines width "Commands" manual.commands
  String.join (lines.map (· ++ "\n"))

/-- The way to the help of a command, which stands before a complaint. -/
def pointer (manual : Manual) (path : String) : String :=
  manual.usageLine path ++ "\nTry '" ++ path ++ " --help' for help.\n\n"

end Manual

/-- Why a command is not carried out. -/
inductive UsageError
  | arguments (error : ArgumentError)
  | missingCommand
  | unknownCommand (name : String) (similar : List String)
  | extraArguments (extra : List String)
  /-- A value that does not suit its option, which is told by a hint. -/
  | unsuitable (hint : String) (problem : String)
deriving DecidableEq, Repr

namespace UsageError

/-- The wording of a failure. -/
def message : UsageError → String
  | .arguments error => error.message
  | .missingCommand => "Missing command."
  | .unknownCommand name similar =>
    "No such command " ++ Text.quoted name ++ "." ++ similarText similar
  | .extraArguments extra =>
    "Got unexpected extra argument" ++ (if extra.length = 1 then "" else "s") ++ " (" ++
      " ".intercalate extra ++ ")"
  | .unsuitable hint problem => "Invalid value for " ++ hint ++ ": " ++ problem

/-- Whether the way to the help is shown. A value that is missing or not wanted is told alone. -/
def showsPointer : UsageError → Bool
  | .arguments (.missingValue _) | .arguments (.unwantedValue _) => false
  | _ => true

/-- What is printed about a failure of a command that is called by a path. -/
def text (manual : Manual) (path : String) (error : UsageError) : String :=
  (if error.showsPointer then manual.pointer path else "") ++ "Error: " ++ error.message ++ "\n"

end UsageError

end SqlInsert.CommandLine
