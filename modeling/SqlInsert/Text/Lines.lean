import SqlInsert.Text.Character
/-!
# Lines and quoted texts

A text in parts: divided at separators or at line ends, without the indentation that its lines share, or as one
line between quotes.
-/

namespace SqlInsert.Text

/-! ## Lines of a text

A text splits into lines at the line feed alone, or at every character that ends a line. The second
way makes no empty line of an end at the end of the text. Indentation that all lines share can be
removed, and returns can be turned into line feeds. -/

/-- The parts of a text between separators, one more than there are separators. -/
def splitAt (isSeparator : Char → Bool) : List Char → List (List Char)
  | [] => [[]]
  | c :: rest =>
    match splitAt isSeparator rest with
    | [] => [[c]]
    | part :: parts => if isSeparator c then [] :: part :: parts else (c :: part) :: parts

/-- The parts of a text between line feeds. -/
def feedLines (text : List Char) : List (List Char) :=
  splitAt (· == '\n') text

/-- The characters that end a line. -/
def isLineEnd (c : Char) : Bool :=
  inRanges [(0xA, 0xD), (0x1C, 0x1E), (0x85, 0x85), (0x2028, 0x2029)] c

/-- The lines of a text by every character that ends one; a return with a feed behind it is one
end. -/
def lines (text : List Char) : List (List Char) :=
  match go text with
  | [] => []
  | parts => if parts.getLast? = some [] then parts.dropLast else parts
where
  /-- The parts between the ends. -/
  go : List Char → List (List Char)
    | [] => [[]]
    | '\x0d' :: '\n' :: rest => [] :: go rest
    | c :: rest =>
      if isLineEnd c then [] :: go rest
      else
        match go rest with
        | [] => [[c]]
        | part :: parts => (c :: part) :: parts

/-- What becomes of a character behind another one: a return becomes a line feed, and a feed behind a
return is dropped. -/
def feedFor : Char × Char → List Char
  | (before, c) =>
    if c = '\r' then ['\n'] else if c = '\n' ∧ before = '\r' then [] else [c]

/-- The text with every line ended by a line feed alone, where it was ended by a return or by a
return and a feed. -/
def plainFeeds (text : List Char) : List Char :=
  (('\n' :: text).zip text).flatMap feedFor

/-- Whether a character indents. -/
def isIndent (c : Char) : Bool :=
  c = ' ' || c = '\t'

/-- The longest start that two lists share. -/
def sharedStart : List Char → List Char → List Char
  | a :: left, b :: right => if a = b then a :: sharedStart left right else []
  | _, _ => []

/-- The longest start that all lists share. -/
def sharedStartOfAll : List (List Char) → List Char
  | [] => []
  | first :: rest => rest.foldl sharedStart first

/-- The lines without the indentation that all lines with content share; a line without content
becomes empty. -/
def dedent (text : List Char) : List Char :=
  let emptied := (feedLines text).map fun line => if line.all isIndent then [] else line
  let margin := sharedStartOfAll
    ((emptied.filter fun line => !line.isEmpty).map fun line => line.takeWhile isIndent)
  ['\n'].intercalate (emptied.map fun line => line.drop margin.length)

/-! ## Quoted text

The one-line form of a text between quotes. Apostrophes enclose it unless it holds an apostrophe
and no quotation mark; a backslash escapes itself, the enclosing quote, and every character that
is not printable. -/

/-- The digits of a number in base sixteen, in small letters, with leading zeros up to a width. -/
def hexDigits (width : Nat) (n : Nat) : List Char :=
  let digits := Nat.toDigits 16 n
  List.replicate (width - digits.length) '0' ++ digits

/-- A character by its code point behind a backslash. -/
def pointEscape (c : Char) : List Char :=
  if c.toNat < 0x100 then '\\' :: 'x' :: hexDigits 2 c.toNat
  else if c.toNat < 0x10000 then '\\' :: 'u' :: hexDigits 4 c.toNat
  else '\\' :: 'U' :: hexDigits 8 c.toNat

/-- One character between quotes. -/
def escapeChar (quote c : Char) : List Char :=
  if c = quote ∨ c = '\\' then ['\\', c]
  else if c = '\n' then ['\\', 'n']
  else if c = '\r' then ['\\', 'r']
  else if c = '\t' then ['\\', 't']
  else if isPrintable c then [c]
  else pointEscape c

/-- The quote that encloses a text: an apostrophe, unless only quotation marks avoid escaping. -/
def enclosingQuote (text : List Char) : Char :=
  if text.contains '\'' && !text.contains '"' then '"' else '\''

/-- The quoted form of a list of characters. -/
def quotedChars (text : List Char) : List Char :=
  let quote := enclosingQuote text
  quote :: text.flatMap (escapeChar quote) ++ [quote]

/-- The quoted form of a list of characters in ASCII. -/
def plainlyQuotedChars (text : List Char) : List Char :=
  (quotedChars text).flatMap fun c => if c.toNat < 128 then [c] else pointEscape c

/-- The quoted form of a text. -/
def quoted (text : String) : String :=
  String.ofList (quotedChars text.toList)

/-- The texts quoted, separated by a comma and a blank, between square brackets. -/
def quotedList (texts : List String) : String :=
  "[" ++ ", ".intercalate (texts.map quoted) ++ "]"

end SqlInsert.Text
