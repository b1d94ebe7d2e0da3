import SqlInsert.Console.EmojiNames
import SqlInsert.Number.Basic
import SqlInsert.Text.Case
import SqlInsert.Text.Character
/-!
# Emoji and styles in texts

What a text shows on the console: names of emoji and tags for styles do not stand for themselves.
-/

namespace SqlInsert.Console

/-! ## Emoji by name

A name between colons stands for an emoji. A name holds no blank and no colon, and letter case does
not matter; behind it the form may be asked for. Names that are not known stay as they are. -/

/-- The mark that asks for a form of an emoji. -/
def emojiForms : List (List Char × List Char) :=
  [("-text".toList, [Char.ofNat 0xFE0E]), ("-emoji".toList, [Char.ofNat 0xFE0F])]

/-- The emoji with a name in small letters. -/
def findEmoji? (name : List Char) : Option (List Char) :=
  emojiNames.lookup (Text.lower (String.ofList name))

/-- What stands for the text between two colons. -/
def emojiOf? (body : List Char) : Option (List Char) :=
  match emojiForms.find? fun (suffix, _) => suffix.isSuffixOf body with
  | some (suffix, mark) =>
    (findEmoji? (body.take (body.length - suffix.length))).map (· ++ mark)
  | none => findEmoji? body

/-- The text up to the next colon without a blank, and what follows the colon. -/
def untilColon? : List Char → Option (List Char × List Char)
  | [] => none
  | c :: rest =>
    if c = ':' then some ([], rest)
    else if Text.isBlank c then none
    else (untilColon? rest).map fun (body, after) => (c :: body, after)

/-- What follows the colon is shorter than the text. -/
theorem untilColon?_length {text body after : List Char}
    (h : untilColon? text = some (body, after)) : after.length < text.length := by
  induction text generalizing body with
  | nil => simp [untilColon?] at h
  | cons c rest ih =>
    simp only [untilColon?] at h
    split at h
    · simp at h
      simp [h.2]
    · split at h
      · simp at h
      · simp only [Option.map_eq_some_iff, Prod.mk.injEq, Prod.exists] at h
        obtain ⟨_, _, found, _, rfl⟩ := h
        have := ih found
        simp; omega

/-- The text with emoji in place of their names. -/
def replaceEmoji : List Char → List Char
  | [] => []
  | c :: rest =>
    if c = ':' then
      match h : untilColon? rest with
      | some (body, after) =>
        have := untilColon?_length h
        (emojiOf? body).getD (':' :: body ++ [':']) ++ replaceEmoji after
      | none => c :: replaceEmoji rest
    else c :: replaceEmoji rest
termination_by text => text.length

/-! ## Markup

Text for the console may hold tags in square brackets. An opening tag starts a style, a closing tag
ends the last style of its name or, without a name, the last of all. Styles do not show in plain
output, so a tag only vanishes; a closing tag with nothing to close is an error. A backslash before
a tag makes it plain text. -/

/-- Why a text with tags cannot be shown. The position is that of the tag in the text. -/
inductive MarkupError
  /-- No open tag has the name of a closing tag. -/
  | unmatched (name : String) (position : Nat)
  /-- A closing tag without a name finds no open tag. -/
  | nothingOpen (position : Nat)
deriving DecidableEq, Repr

/-- The wording of a failure. -/
def MarkupError.message : MarkupError → String
  | .unmatched name position =>
    "closing tag '[" ++ name ++ "]' at position " ++ Number.integerText position ++
      " doesn't match any open tag"
  | .nothingOpen position =>
    "closing tag '[/]' at position " ++ Number.integerText position ++ " has nothing to close"

/-- Whether a tag may start with the character. -/
def startsTag (c : Char) : Bool :=
  ('a' ≤ c && c ≤ 'z') || c = '#' || c = '/' || c = '@'

/-- The content of a tag, which ends at a closing bracket before any opening one, and what follows
the bracket. -/
def tagEnd? : List Char → Option (List Char × List Char)
  | [] => none
  | c :: rest =>
    if c = ']' then some ([], rest)
    else if c = '[' then none
    else (tagEnd? rest).map fun (content, after) => (c :: content, after)

/-- The content of the tag behind an opening bracket, and what follows the tag. -/
def tagContent? : List Char → Option (List Char × List Char)
  | '[' :: first :: rest =>
    if startsTag first then (tagEnd? rest).map fun (content, after) => (first :: content, after)
    else none
  | _ => none

/-- A tag with the backslashes before it. -/
structure TagMatch where
  /-- The number of backslashes. -/
  backslashes : Nat
  /-- The text between the brackets. -/
  content : List Char
  /-- What follows the tag. -/
  rest : List Char

/-- The tag at the front of a text, with the backslashes before it. -/
def tagAt? (text : List Char) : Option TagMatch :=
  let backslashes := (text.takeWhile (· == '\\')).length
  (tagContent? (text.drop backslashes)).map fun (content, rest) => ⟨backslashes, content, rest⟩

/-- A piece of a text with tags. -/
inductive Piece
  | plain (text : List Char)
  /-- A tag at a position. -/
  | tag (position : Nat) (content : List Char)

/-- The pieces that a tag with backslashes before it makes. Two backslashes stand for one; one that
is left over makes the tag plain. -/
def tagPieces (position : Nat) (found : TagMatch) : List Piece :=
  let pairs := found.backslashes / 2
  let slashes := if pairs = 0 then [] else [Piece.plain (List.replicate pairs '\\')]
  if found.backslashes % 2 = 1 then slashes ++ [.plain ('[' :: found.content ++ [']'])]
  else slashes ++ [.tag (position + 2 * pairs) found.content]

/-- Plain text before other pieces, if there is any. -/
def plainBefore (reversed : List Char) (pieces : List Piece) : List Piece :=
  if reversed.isEmpty then pieces else .plain reversed.reverse :: pieces

/-- The pieces of a text. The fuel bounds the number of characters; plain characters before the
position are kept in reverse. -/
def piecesFrom : Nat → Nat → List Char → List Char → List Piece
  | 0, _, reversed, _ => plainBefore reversed []
  | _, _, reversed, [] => plainBefore reversed []
  | fuel + 1, position, reversed, c :: rest =>
    match tagAt? (c :: rest) with
    | some found =>
      plainBefore reversed
        (tagPieces position found ++
          piecesFrom fuel (position + found.backslashes + found.content.length + 2) [] found.rest)
    | none => piecesFrom fuel (position + 1) (c :: reversed) rest

/-- The pieces of a text. -/
def pieces (text : List Char) : List Piece :=
  piecesFrom text.length 0 [] text

/-- The short names of styles. -/
def styleWords : List (String × String) :=
  [("b", "bold"), ("d", "dim"), ("i", "italic"), ("u", "underline"), ("r", "reverse"),
    ("c", "conceal"), ("s", "strike"), ("uu", "underline2"), ("o", "overline")]

/-- The name by which a style is closed: without blanks at the ends, in small letters, short names
written out. -/
def styleName (name : String) : String :=
  let plain := Text.lower (Text.trim name)
  if plain = "" then "none" else (styleWords.lookup plain).getD plain

/-- The name of a tag, which ends at an equals sign. -/
def tagName (content : List Char) : List Char :=
  content.takeWhile (· ≠ '=')

/-- The open styles without the last one of a name. -/
def closeStyle? (name : String) (opened : List String) : Option (List String) :=
  if opened.contains name then some (opened.erase name) else none

/-- Whether a character is taken out of what is shown: it would ring, move back or feed. -/
def isControl (c : Char) : Bool :=
  [0x07, 0x08, 0x0B, 0x0C, 0x0D].contains c.toNat

/-- A text without a backslash before an opening bracket. -/
def unescapeBrackets : List Char → List Char
  | '\\' :: '[' :: rest => '[' :: unescapeBrackets rest
  | c :: rest => c :: unescapeBrackets rest
  | [] => []

/-- Plain text as it is shown. -/
def shownChars (text : List Char) : List Char :=
  (replaceEmoji text).filter (!isControl ·)

/-- What pieces show, with the styles that are open before them, the last one first. -/
def showPieces (opened : List String) : List Piece → Except MarkupError (List Char)
  | [] => .ok []
  | .plain text :: rest =>
    (showPieces opened rest).map (shownChars (unescapeBrackets text) ++ ·)
  | .tag position content :: rest =>
    match tagName content with
    | '/' :: name =>
      if Text.trim (String.ofList name) = "" then
        match opened with
        | [] => .error (.nothingOpen position)
        | _ :: others => showPieces others rest
      else
        match closeStyle? (styleName (String.ofList name)) opened with
        | some others => showPieces others rest
        | none => .error (.unmatched (String.ofList content) position)
    | name => showPieces (styleName (String.ofList name) :: opened) rest

/-- What a text with tags shows. -/
def shownMarkup (text : List Char) : Except MarkupError (List Char) :=
  if text.contains '[' then showPieces [] (pieces text) else .ok (shownChars text)

/-- A text with a backslash before every tag; the backslashes that stand before a tag are doubled. The
fuel bounds the number of characters. -/
def escapeTags : Nat → List Char → List Char
  | 0, text => text
  | _, [] => []
  | fuel + 1, c :: rest =>
    match tagAt? (c :: rest) with
    | some found =>
      List.replicate (2 * found.backslashes + 1) '\\' ++
        ('[' :: found.content ++ ']' :: escapeTags fuel found.rest)
    | none => c :: escapeTags fuel rest

/-- A text in which nothing is a tag. A single backslash at the end is doubled. -/
def escapeMarkup (text : List Char) : List Char :=
  let escaped := escapeTags text.length text
  match escaped.reverse with
  | '\\' :: '\\' :: _ => escaped
  | '\\' :: _ => escaped ++ ['\\']
  | _ => escaped

end SqlInsert.Console
