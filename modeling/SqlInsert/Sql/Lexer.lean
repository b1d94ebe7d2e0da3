import SqlInsert.Number.Basic
import SqlInsert.Sql.Token
import SqlInsert.Text.Case
import SqlInsert.Text.Encoding
/-!
# From characters to tokens

A text is cut into tokens, each with the comments that belong to it.
-/

namespace SqlInsert.Sql

/-! ## Escapes in marked constants

In a text constant that is marked for escapes a backslash with a letter stands for a control character,
with digits of base eight or sixteen for one byte, and with a fixed number of digits of base sixteen for
one character. Bytes and characters together encode the text. In front of any other character a
backslash means nothing. -/

/-- The digits of a base at the front of a text, at most so many, with their value and the rest. -/
def leadingDigits (base : Nat) : Nat → Nat → List Char → Nat × Nat × List Char
  | 0, value, text => (0, value, text)
  | _, value, [] => (0, value, [])
  | limit + 1, value, c :: rest =>
    match Number.digitValue? base c with
    | some digit =>
      if c.toNat < 128 then
        let (count, value, rest) := leadingDigits base limit (value * base + digit) rest
        (count + 1, value, rest)
      else (0, value, c :: rest)
    | none => (0, value, c :: rest)

/-- The control character that a letter behind a backslash stands for. -/
def controlChar? (c : Char) : Option Nat :=
  match c with
  | 'b' => some 8
  | 'f' => some 12
  | 'n' => some 10
  | 'r' => some 13
  | 't' => some 9
  | 'v' => some 11
  | _ => none

/-- The code point that two halves of a pair stand for. -/
def pairedPoint? (high low : Nat) : Option Nat :=
  if 0xD800 ≤ high ∧ high < 0xDC00 ∧ 0xDC00 ≤ low ∧ low < 0xE000 then
    some (0x10000 + (high - 0xD800) * 0x400 + (low - 0xDC00))
  else none

/-- A character by its number, with as many digits as its letter asks for, and what follows it. -/
def numberedChar? (count : Nat) (text : List Char) : Option (Nat × List Char) :=
  let (found, point, rest) := leadingDigits 16 count 0 text
  if found = count then some (point, rest) else none

/-- The bytes of the escape with a letter, and what follows it. Two halves of a pair make one
character. -/
def escapeBytes (letter : Char) (rest : List Char) : List UInt8 × List Char :=
  let encode (point : Nat) : List UInt8 :=
    Text.encode [if Nat.isValidChar point then Char.ofNat point else Text.replacementChar]
  let numbered (count : Nat) : List UInt8 × List Char :=
    match numberedChar? count rest with
    | none => (Text.encode [letter], rest)
    | some (point, after) =>
      match after with
      | '\\' :: 'u' :: further =>
        match numberedChar? 4 further with
        | some (low, behind) =>
          match pairedPoint? point low with
          | some whole => (encode whole, behind)
          | none => (encode point, after)
        | none => (encode point, after)
      | after => (encode point, after)
  match letter with
  | 'u' => numbered 4
  | 'U' => numbered 8
  | 'x' =>
    let (found, value, after) := leadingDigits 16 2 0 rest
    if found = 0 then (Text.encode [letter], rest) else ([value.toUInt8], after)
  | letter =>
    match controlChar? letter with
    | some point => ([point.toUInt8], rest)
    | none =>
      let (found, value, after) := leadingDigits 8 3 0 (letter :: rest)
      if found = 0 then (Text.encode [letter], rest) else ([value.toUInt8], after)

/-- The bytes of the content of a marked constant. The fuel bounds the number of characters. -/
def markedBytes : Nat → List Char → List UInt8
  | 0, _ => []
  | _, [] => []
  | fuel + 1, '\\' :: letter :: rest =>
    let (bytes, after) := escapeBytes letter rest
    bytes ++ markedBytes fuel after
  | fuel + 1, c :: rest => Text.encode [c] ++ markedBytes fuel rest

/-- The text that the content of a marked constant stands for. -/
def markedText (content : List Char) : List Char :=
  if content.contains '\\' then Text.decodeLenient (markedBytes content.length content)
  else content

/-! ## Splitting a text into tokens

A constant ends at its quote, a quote inside is written twice, and one grammar also reads
backslashes. A comment belongs to the token before it on the same line, otherwise to the token that
follows. Everything that is not a constant, a name, a comment, a number or a sign is a word. -/

/-- A piece of the text and what follows it. -/
abbrev Piece := List Char × List Char

/-! ### Constants and names -/

/-- What a backslash with a character behind it stands for. -/
inductive Escape
  /-- Both characters stand for this one. -/
  | one (c : Char)
  /-- The backslash stands for itself. -/
  | plain
  /-- Both characters stay, and the second one does not end the text. -/
  | both

/-- The backslashes of text constants in the first grammar. -/
def textEscape (c : Char) : Escape :=
  match c with
  | '0' => .one (Char.ofNat 0)
  | 'b' => .one (Char.ofNat 8)
  | 'n' => .one '\n'
  | 'r' => .one '\r'
  | 't' => .one '\t'
  | 'Z' => .one (Char.ofNat 26)
  | '%' | '_' => .plain
  | c => .one c

/-- The text up to the closing quote. A quote written twice stands for one. -/
def quotedFrom (quote : Char) (escape : Option (Char → Escape)) (read : List Char) :
    List Char → Except ReadError Piece
  | [] => .error .unterminated
  | [c] => if c = quote then .ok (read.reverse, []) else .error .unterminated
  | c :: next :: rest =>
    if c = quote then
      if next = quote then quotedFrom quote escape (quote :: read) rest
      else .ok (read.reverse, next :: rest)
    else
      let escaped : Option Escape := if c = '\\' then escape.map (· next) else none
      match escaped with
      | some (.one meant) => quotedFrom quote escape (meant :: read) rest
      | some .both => quotedFrom quote escape (next :: c :: read) rest
      | some .plain | none => quotedFrom quote escape (c :: read) (next :: rest)

/-- The text up to a mark of several characters, and what follows the mark. -/
def upTo (mark : List Char) (read : List Char) : List Char → Except ReadError Piece
  | [] => .error .unterminated
  | c :: rest =>
    if mark.isPrefixOf (c :: rest) then .ok (read.reverse, (c :: rest).drop mark.length)
    else upTo mark (c :: read) rest

/-- A character that may begin a name. -/
def beginsName (c : Char) : Bool :=
  c.isAlpha || c = '_' || (128 ≤ c.toNat && !Text.isBlank c)

/-- Whether a text is a name without quotes. -/
def isPlainName : List Char → Bool
  | [] => false
  | c :: rest => beginsName c && rest.all fun d => beginsName d || d.isDigit

/-- A constant between dollar signs, which may have a name between them. Without such a constant the
dollar sign stands for itself. -/
def dollarConstant (text : List Char) : Except ReadError (Token × List Char) :=
  match text with
  | [] => .error .unterminated
  | '$' :: rest =>
    (upTo ['$', '$'] [] rest).map fun (content, rest) =>
      (.prefixedText .raw (String.ofList content), rest)
  | text =>
    match upTo ['$'] [] text with
    | .ok (tag, rest) =>
      if isPlainName tag then
        (upTo ('$' :: tag ++ ['$']) [] rest).map fun (content, rest) =>
          (.prefixedText .raw (String.ofList content), rest)
      else .ok (.sign "$", text)
    | .error _ => .ok (.sign "$", text)

/-- How backslashes read in the text constants of a grammar. -/
def constantEscape : Grammar → Option (Char → Escape)
  | .mysql => some textEscape
  | .postgres => none

/-- Digits between quotes, which have to belong to the base. -/
def digitConstant (grammar : Grammar) (form : DigitPrefix) (text : List Char) :
    Except ReadError (Token × List Char) :=
  match quotedFrom '\'' (constantEscape grammar) [] text with
  | .error error => .error error
  | .ok (content, rest) =>
    let base := match form with
      | .hex => 16
      | .bit => 2
    match content, Number.readInteger base content with
    | _ :: _, .error _ => .error .invalidDigits
    | _, _ => .ok (.prefixedDigits form (String.ofList content), rest)

/-- A text constant behind its opening quote. -/
def textConstant (quote : Char) (escape : Option (Char → Escape)) (make : String → Token)
    (text : List Char) : Except ReadError (Token × List Char) :=
  (quotedFrom quote escape [] text).map fun (content, rest) => (make (String.ofList content), rest)

/-- The constant with a letter in front of its quote, if there is one. -/
def lettered? (grammar : Grammar) (letter : Char) (quote : Char) (rest : List Char) :
    Option (Except ReadError (Token × List Char)) :=
  let plain := constantEscape grammar
  if letter = 'n' ∨ letter = 'N' then
    some (textConstant quote plain (.prefixedText .national) rest)
  else if quote ≠ '\'' then none
  else if letter = 'x' ∨ letter = 'X' then some (digitConstant grammar .hex rest)
  else if letter = 'b' ∨ letter = 'B' then some (digitConstant grammar .bit rest)
  else if grammar = .postgres ∧ (letter = 'e' ∨ letter = 'E') then
    some (textConstant quote (some fun _ => .both)
      (fun content => .prefixedText .byte (String.ofList (markedText content.toList))) rest)
  else none

/-- Whether a character quotes text constants. -/
def isTextQuote (grammar : Grammar) (c : Char) : Bool :=
  c = '\'' || (grammar = .mysql && c = '"')

/-- The constant or quoted name at the front, if there is one. -/
def quoted? (grammar : Grammar) (text : List Char) :
    Option (Except ReadError (Token × List Char)) :=
  match text with
  | [] => none
  | c :: rest =>
    if c = grammar.nameQuote then some (textConstant c none .name rest)
    else if isTextQuote grammar c then
      some (textConstant c (constantEscape grammar) .constant rest)
    else
      match grammar, rest with
      | .postgres, '&' :: '\'' :: after =>
        if c = 'u' ∨ c = 'U' then some (textConstant '\'' none (.prefixedText .unicode) after)
        else none
      | grammar, quote :: after =>
        if grammar = .postgres ∧ c = '$' then some (dollarConstant rest)
        else if isTextQuote grammar quote then lettered? grammar c quote after
        else none
      | .postgres, [] => if c = '$' then some (.error .unterminated) else none
      | .mysql, [] => none

/-! ### Comments -/

/-- A line comment behind its mark, and what follows it. It ends before a line feed. -/
def lineComment (text : List Char) : Piece :=
  text.span (· ≠ '\n')

/-- A block comment behind its mark, and what follows it. In one grammar comments nest, save that a
comment does not begin right at the beginning of another. -/
def blockComment (nested : Bool) (depth : Nat) (read : List Char) :
    List Char → Except ReadError Piece
  | [] => .error .unterminated
  | c :: rest =>
    let closes := c = '*' && rest.head? = some '/'
    if closes && depth = 0 then .ok (read.reverse, rest.drop 1)
    else
      let outer := if closes then depth - 1 else depth
      match rest with
      | '/' :: '*' :: inner =>
        if nested then blockComment nested (outer + 1) ('*' :: '/' :: c :: read) inner
        else blockComment nested outer (c :: read) ('/' :: '*' :: inner)
      | rest => blockComment nested outer (c :: read) rest

/-- The comment at the front, if there is one, and what follows it. -/
def comment? (grammar : Grammar) (text : List Char) : Option (Except ReadError Piece) :=
  match text with
  | '-' :: '-' :: rest => some (.ok (lineComment rest))
  | '/' :: '*' :: rest =>
    match grammar, rest with
    | .mysql, '+' :: hint => some (blockComment false 0 [] hint)
    | grammar, rest => some (blockComment (grammar == .postgres) 0 [] rest)
  | '#' :: '>' :: _ => none
  | '#' :: rest => if grammar = .mysql then some (.ok (lineComment rest)) else none
  | _ => none

/-! ### Numbers and words -/

/-- How far a number has been read. -/
structure NumberState where
  /-- A point has been read, or none may follow. -/
  pointed : Bool
  /-- The mark of the exponent has been read. -/
  exponent : Bool
  /-- The sign of the exponent has been read. -/
  signed : Bool

/-- The characters of a number, and what follows it. -/
def numberChars (state : NumberState) (read : List Char) : List Char → Piece
  | [] => (read.reverse, [])
  | c :: rest =>
    if Text.isDigitLike c then numberChars state (c :: read) rest
    else if c = '.' ∧ !state.pointed then
      numberChars { state with pointed := true } (c :: read) rest
    else if (c = '-' ∨ c = '+') ∧ state.exponent ∧ !state.signed then
      if (rest.head?.map Text.isDigitLike).getD false then
        numberChars { state with signed := true } (c :: read) rest
      else (read.reverse, c :: rest)
    else if (c = 'e' ∨ c = 'E') ∧ !state.exponent then
      numberChars { state with exponent := true } (c :: read) rest
    else (read.reverse, c :: rest)

/-- The rest of a word, and what follows it. -/
def wordChars (isPart : Char → Bool) (read : List Char) : List Char → Piece
  | [] => (read.reverse, [])
  | c :: rest =>
    if !Text.isBlank c && isPart c then wordChars isPart (c :: read) rest
    else (read.reverse, c :: rest)

/-- Whether a character may stand in a word of digits and letters. -/
def isNoSign (grammar : Grammar) (c : Char) : Bool :=
  !(signChars grammar).contains c

/-- Digits with the mark of a base in front; without any valid digits they are a name. -/
def markedDigits (grammar : Grammar) (form : DigitPrefix) (base : Nat) (mark : Char)
    (text : List Char) : Token × List Char :=
  let (digits, rest) := wordChars (isNoSign grammar) [] text
  match Number.readInteger base ('0' :: mark :: digits) with
  | .ok _ => (.prefixedDigits form (String.ofList digits), rest)
  | .error _ => (.name (String.ofList ('0' :: mark :: digits)), rest)

/-- A number; in one grammar a word may begin with digits. -/
def number (grammar : Grammar) (afterParameter : Bool) (text : List Char) : Token × List Char :=
  let (digits, rest) := numberChars ⟨afterParameter, false, false⟩ [] text
  match grammar, rest with
  | .mysql, c :: _ =>
    if beginsName c then
      let (letters, rest) := wordChars (isNoSign grammar) [] rest
      (.word (String.ofList (digits ++ letters)), rest)
    else (.number (String.ofList digits), rest)
  | _, _ => (.number (String.ofList digits), rest)

/-- A number in any notation. -/
def anyNumber (grammar : Grammar) (afterParameter : Bool) (text : List Char) : Token × List Char :=
  match text with
  | '0' :: mark :: rest =>
    if mark = 'b' ∨ mark = 'B' then markedDigits grammar .bit 2 mark rest
    else if mark = 'x' ∨ mark = 'X' then markedDigits grammar .hex 16 mark rest
    else number grammar afterParameter text
  | text => number grammar afterParameter text

/-- The sign or word at the front of a text. -/
def signOrWord (grammar : Grammar) (c : Char) (rest : List Char) : Token × List Char :=
  match (longSigns grammar).find? (·.isPrefixOf (c :: rest)) with
  | some sign => (.sign (String.ofList sign), (c :: rest).drop sign.length)
  | none =>
    if (signChars grammar).contains c then (.sign (String.singleton c), rest)
    else
      let (letters, after) := wordChars (continuesWord grammar) [c] rest
      (.word (String.ofList letters), after)

/-! ### The whole text -/

/-- What has been read so far. -/
structure Scan where
  /-- The tokens with their comments, the newest first. -/
  tokens : List Lexeme
  /-- The comments that wait for the token that follows, in their order. -/
  pending : List String
  /-- No line has ended since the newest token. -/
  sameLine : Bool

/-- The words that make one keyword with the word BY behind them. -/
def byHeads : List String :=
  ["GROUP", "ORDER", "PARTITION", "SORT", "CLUSTER", "DISTRIBUTE", "CONNECT"]

/-- The tokens with one more. Two words that make one keyword are one token, unless a comment stands
between them. -/
def addToken (added : Lexeme) (tokens : List Lexeme) : List Lexeme :=
  match added, tokens with
  | ⟨.word last, []⟩, ⟨.word first, []⟩ :: older =>
    if Text.upper last = "BY" ∧ byHeads.contains (Text.upper first) then
      ⟨.word (Text.upper first ++ " BY"), []⟩ :: older
    else added :: tokens
  | _, _ => added :: tokens

/-- The tokens with further comments at the newest one. -/
def commentNewest (comments : List String) : List Lexeme → List Lexeme
  | newest :: older => { newest with comments := newest.comments ++ comments } :: older
  | [] => []

namespace Scan

/-- The state with one more token. -/
def add (token : Token) (scan : Scan) : Scan :=
  ⟨addToken ⟨token, scan.pending⟩ scan.tokens, [], true⟩

/-- The state behind a semicolon. Waiting comments go to the token before it, if there is one. -/
def stop (scan : Scan) : Scan :=
  if scan.tokens.isEmpty then ⟨[⟨.stop, scan.pending⟩], [], true⟩
  else ⟨⟨.stop, []⟩ :: commentNewest scan.pending scan.tokens, [], true⟩

/-- The state behind a comment, which belongs to the newest token if that stands on its line. -/
def comment (content : List Char) (scan : Scan) : Scan :=
  let pending := scan.pending ++ [String.ofList content]
  if scan.sameLine then ⟨commentNewest pending scan.tokens, [], true⟩
  else { scan with pending }

/-- The state behind a blank. -/
def blank (c : Char) (scan : Scan) : Scan :=
  if c = '\n' then { scan with sameLine := false } else scan

/-- The tokens in the order of the text. Comments at the end go to the last of them. -/
def finish (scan : Scan) : List Lexeme :=
  (commentNewest scan.pending scan.tokens).reverse

/-- Whether the newest token marks a parameter. -/
def afterParameter (scan : Scan) : Bool :=
  match scan.tokens with
  | ⟨.sign sign, _⟩ :: _ => sign = "@" ∨ sign = "$"
  | _ => false

end Scan

/-- The state behind the piece at the front of a text, and what follows it. -/
def scanPiece (grammar : Grammar) (scan : Scan) (c : Char) (rest : List Char) :
    Except ReadError (Scan × List Char) :=
  if Text.isBlank c then .ok (scan.blank c, rest)
  else if c = ';' then .ok (scan.stop, rest)
  else if Text.isDigitLike c then
    let (token, after) := anyNumber grammar scan.afterParameter (c :: rest)
    .ok (scan.add token, after)
  else
    match quoted? grammar (c :: rest), comment? grammar (c :: rest) with
    | some outcome, _ => outcome.map fun (token, after) => (scan.add token, after)
    | none, some outcome => outcome.map fun (content, after) => (scan.comment content, after)
    | none, none =>
      let (token, after) := signOrWord grammar c rest
      .ok (scan.add token, after)

/-- The state behind a text. Every piece takes a character, so their number bounds the work. -/
def scanAll (grammar : Grammar) : Nat → Scan → List Char → Except ReadError Scan
  | _, scan, [] => .ok scan
  | 0, scan, _ => .ok scan
  | bound + 1, scan, c :: rest =>
    match scanPiece grammar scan c rest with
    | .ok (scan, after) => scanAll grammar bound scan after
    | .error error => .error error

/-- The tokens of a text. -/
def tokens (grammar : Grammar) (text : String) : Except ReadError (List Lexeme) :=
  (scanAll grammar text.length ⟨[], [], false⟩ text.toList).map Scan.finish

end SqlInsert.Sql
