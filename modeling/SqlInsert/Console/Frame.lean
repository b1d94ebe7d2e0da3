import SqlInsert.Text.Character
import SqlInsert.Text.Lines
/-!
# Frames around tables

Texts broken to a width, and tables in a frame.
-/

namespace SqlInsert.Console

/-! ## Wrapping lines

A line that is wider than the console is broken between words. A word with its blanks moves to the
next line if it does not fit without the blanks behind it; a word that fits on no line is folded or
cut off. Tabs advance to the next multiple of eight cells. -/

section

open Text (width charWidth isBlank)

/-- The distance between tab stops. -/
def tabSize : Nat := 8

/-- The blanks from a cell up to the next tab stop; at least one. -/
def tabBlanks (position : Nat) : Nat :=
  1 + (tabSize - (position + 1) % tabSize) % tabSize

/-- A line with blanks in place of tabs, from a cell on. -/
def expandTabs (position : Nat) : List Char → List Char
  | [] => []
  | '\t' :: rest =>
    List.replicate (tabBlanks position) ' ' ++ expandTabs (position + tabBlanks position) rest
  | c :: rest => c :: expandTabs (position + charWidth c) rest

/-- The words of a line: each with the blanks before the first and behind every one. Blanks alone
make no word. -/
def wordsFrom : List Char → List Char → List (List Char)
  | word, [] => if word.all isBlank then [] else [word.reverse]
  | word, c :: rest =>
    match word with
    | last :: _ =>
      if isBlank last && !isBlank c && !word.all isBlank then
        word.reverse :: wordsFrom [c] rest
      else wordsFrom (c :: word) rest
    | [] => wordsFrom [c] rest

/-- The words of a line with the blanks around them. -/
def words (line : List Char) : List (List Char) :=
  wordsFrom [] line

/-- The pieces of a word that each fill a line, the last one perhaps not. -/
def chop (limit : Nat) (used : Nat) (reversed : List Char) : List Char → List (List Char)
  | [] => [reversed.reverse]
  | c :: rest =>
    if limit < used + charWidth c then reversed.reverse :: chop limit (charWidth c) [c] rest
    else chop limit (used + charWidth c) (c :: reversed) rest

/-- What happens to a word that fits on no line. -/
inductive Overflow
  | fold
  | ellipsis
deriving DecidableEq, Repr

/-- The text of a line so far in reverse, and the cells it is taken to fill. -/
structure OpenLine where
  reversed : List Char
  cells : Nat

/-- The lines that words fill, behind a line that is open. -/
def fillLines (overflow : Overflow) (limit : Nat) (line : OpenLine) :
    List (List Char) → List (List Char)
  | [] => [line.reversed.reverse]
  | word :: rest =>
    let bare := width (Text.dropEndWhile isBlank word)
    if line.cells + bare ≤ limit then
      fillLines overflow limit ⟨word.reverse ++ line.reversed, line.cells + width word⟩ rest
    else if limit < bare then
      match overflow with
      | .fold =>
        let parts := chop limit 0 [] word
        let last := parts.getLast?.getD []
        -- A character wider than a line leaves a piece empty, which counts only behind other words.
        let full :=
          if line.reversed.isEmpty then parts.dropLast.filter (· ≠ [])
          else line.reversed.reverse :: parts.dropLast
        full ++ fillLines overflow limit ⟨last.reverse, width last⟩ rest
      | .ellipsis =>
        if line.reversed.isEmpty then
          fillLines overflow limit ⟨word.reverse, width word⟩ rest
        else
          line.reversed.reverse :: fillLines overflow limit ⟨word.reverse, width word⟩ rest
    else
      line.reversed.reverse :: fillLines overflow limit ⟨word.reverse, width word⟩ rest

/-- A line without as many of the blanks at its end as it has characters too many. -/
def dropExcess (limit : Nat) (line : List Char) : List Char :=
  let trailing := (line.reverse.takeWhile isBlank).length
  line.take (line.length - min trailing (line.length - limit))

/-- The start of a line that fills exactly so many cells; half a wide character becomes a blank. -/
def cutCells : Nat → List Char → List Char
  | limit, [] => List.replicate limit ' '
  | 0, _ => []
  | limit + 1, c :: rest =>
    if charWidth c ≤ limit + 1 then c :: cutCells (limit + 1 - charWidth c) rest else [' ']

/-- A line without what goes over the right edge of the console. -/
def cropped (columns : Nat) (line : List Char) : List Char :=
  if width line ≤ columns then line else cutCells columns line

/-- A line that is cut off where it is too wide. -/
def truncate (overflow : Overflow) (limit : Nat) (line : List Char) : List Char :=
  if width line ≤ limit then line
  else
    match overflow with
    | .fold => cutCells limit line
    | .ellipsis => cutCells (limit - 1) line ++ [Char.ofNat 0x2026]

/-- The lines that one line of text becomes. -/
def wrapLine (overflow : Overflow) (limit : Nat) (line : List Char) : List (List Char) :=
  let line := if line.contains '\t' then expandTabs 0 line else line
  let filled := match words line with
    | [] => [line]
    | found => fillLines overflow limit ⟨[], 0⟩ found
  filled.map fun part => truncate overflow limit (dropExcess limit part)

/-- The lines that a text becomes. -/
def wrap (overflow : Overflow) (limit : Nat) (text : List Char) : List (List Char) :=
  (Text.feedLines text).flatMap (wrapLine overflow limit)

/-- The cells that the widest line of a text fills. -/
def widest (text : List Char) : Nat :=
  ((Text.lines text).map width).foldl max 0

/-- A line with blanks behind it up to a number of cells. -/
def padEnd (cells : Nat) (line : List Char) : List Char :=
  line ++ List.replicate (cells - width line) ' '

/-- A line between blanks; an odd one goes behind it. -/
def centered (cells : Nat) (line : List Char) : List Char :=
  let before := (cells - width line) / 2
  padEnd cells (List.replicate before ' ' ++ line)

end

/-! ## Panels and tables

A panel is a text in a rounded frame with a title in its upper edge. It spans the console, or is as
wide as its widest line asks for. A table has a title above it, a head at the lower edge of its row,
and rows of cells; each column is as wide as its widest cell, unless the table would be wider than
the console. -/

section

open Text (width)

/-- A text of one character so many times. -/
def rule (c : Char) (count : Nat) : List Char :=
  List.replicate count c

/-- Whether a panel spans the console. -/
inductive PanelWidth
  | full
  | fit
deriving DecidableEq, Repr

/-- The cells between the edges of a panel: a blank on each side of the text is counted, and a title
needs room for itself and four cells more. -/
def panelWidth (mode : PanelWidth) (columns titleCells textCells : Nat) : Nat :=
  match mode with
  | .full => columns - 2
  | .fit => min (columns - 2) (max (min (columns - 2) (textCells + 2)) (titleCells + 4))

/-- A title with a blank on each side, in the middle of an edge; an odd cell goes behind it. -/
def titleEdge (cells : Nat) (title : List Char) : List Char :=
  let shown := ' ' :: title ++ [' ']
  let shown := if cells < width shown then cutCells cells shown else shown
  let excess := cells - width shown
  rule '─' (excess / 2) ++ shown ++ rule '─' (excess - excess / 2)

/-- The cells of a panel or of a cell of a table without the blank on each side of its text. -/
def cellsInside (cells : Nat) : Nat :=
  cells - 2

/-- The lines of a text in a panel or a cell of a table. Without room for it there are none. -/
def textLines (overflow : Overflow) (cells : Nat) (text : List Char) : List (List Char) :=
  if cellsInside cells = 0 then [] else wrap overflow (cellsInside cells) text

/-- A line of a text with a blank on each side; blanks alone where there is no room for text. -/
def textLine (cells : Nat) (line : List Char) : List Char :=
  if cellsInside cells = 0 then List.replicate cells ' '
  else ' ' :: padEnd (cellsInside cells) line ++ [' ']

/-- The lines of a panel. -/
def panel (mode : PanelWidth) (columns : Nat) (title text : List Char) : List (List Char) :=
  let inner := panelWidth mode columns (width title) (widest text)
  let body := (textLines .fold inner text).map fun line => '│' :: textLine inner line ++ ['│']
  let top :=
    if inner + 2 ≤ 4 then '╭' :: rule '─' inner ++ ['╮']
    else ['╭', '─'] ++ titleEdge (inner - 2) title ++ ['─', '╮']
  top :: body ++ ['╰' :: rule '─' inner ++ ['╯']]

/-- The characters of a line of a table: its left end, the line itself, a crossing, its right end. -/
structure TableRule where
  left : Char
  line : Char
  crossing : Char
  right : Char

/-- A line of a table across columns. -/
def TableRule.draw (style : TableRule) (widths : List Nat) : List Char :=
  style.left :: [style.crossing].intercalate (widths.map (rule style.line)) ++ [style.right]

/-- Where a cell stands that has fewer lines than another of its row. -/
inductive CellPlace
  | top
  | bottom
deriving DecidableEq, Repr

/-- The lines of a cell, with empty ones behind or before them up to a number of lines. -/
def CellPlace.fill (place : CellPlace) (height : Nat) (lines : List (List Char)) : List (List Char) :=
  let missing := List.replicate (height - lines.length) []
  match place with
  | .top => lines ++ missing
  | .bottom => missing ++ lines

/-- The lines of the cells of one row. -/
def rowLines (place : CellPlace) (edge : Char) (widths : List Nat) (cells : List (List Char)) :
    List (List Char) :=
  let wrapped := (widths.zip cells).map fun (cells, text) => (cells, textLines .ellipsis cells text)
  let height := (wrapped.map (·.2.length)).foldl max 1
  let level := wrapped.map fun (cells, lines) => (cells, place.fill height lines)
  (List.range height).map fun index =>
    edge :: (level.map fun (cells, lines) =>
      textLine cells ((lines[index]?).getD []) ++ [edge]).flatten

/-- One of equal parts of a number of cells: the nearest whole number, of two the even one. -/
def share (cells parts : Nat) : Nat :=
  let whole := cells / parts
  let rest := cells % parts
  if 2 * rest < parts ∨ 2 * rest = parts ∧ whole % 2 = 0 then whole else whole + 1

/-- Columns of which the widest give up so many cells between them, each at most what it has to
spare. -/
def takeShares (most spare : Nat) : Nat → Nat → List Nat → List Nat
  | _, _, [] => []
  | cells, givers, width :: rest =>
    if width = most then
      let given := min spare (share cells givers)
      (width - given) :: takeShares most spare (cells - given) (givers - 1) rest
    else width :: takeShares most spare cells givers rest

/-- The cells that columns fill together. -/
def filled (widths : List Nat) : Nat :=
  widths.foldr (· + ·) 0

/-- The first column and the rest fill what each fills. -/
theorem filled_cons (width : Nat) (rest : List Nat) : filled (width :: rest) = width + filled rest :=
  rfl

/-- Columns that fill a cell are not all empty. -/
theorem exists_pos_of_filled {widths : List Nat} (h : 0 < filled widths) :
    ∃ width ∈ widths, 0 < width := by
  induction widths with
  | nil => cases h
  | cons width rest ih =>
    by_cases hwidth : 0 < width
    · exact ⟨width, List.mem_cons_self, hwidth⟩
    · rw [filled_cons] at h
      obtain ⟨other, hmem, hother⟩ := ih (by omega)
      exact ⟨other, List.mem_cons_of_mem _ hmem, hother⟩

/-- A single part is the whole. -/
theorem share_one (cells : Nat) : share cells 1 = cells := by
  simp [share, Nat.mod_one]

/-- No column gets wider. -/
theorem filled_takeShares_le (most spare cells givers : Nat) (widths : List Nat) :
    filled (takeShares most spare cells givers widths) ≤ filled widths := by
  induction widths generalizing cells givers with
  | nil => exact Nat.le_refl _
  | cons width rest ih =>
    rw [takeShares]
    split
    · exact Nat.add_le_add (Nat.sub_le _ _) (ih _ _)
    · exact Nat.add_le_add (Nat.le_refl _) (ih _ _)

/-- The widest columns give up at least one cell, the last of them whatever is missing then. -/
theorem filled_takeShares_lt {most spare cells : Nat} {widths : List Nat} (hmost : 0 < most)
    (hspare : 0 < spare) (hcells : 0 < cells) (hmem : most ∈ widths) :
    filled (takeShares most spare cells (widths.count most) widths) < filled widths := by
  induction widths with
  | nil => cases hmem
  | cons width rest ih =>
    rw [takeShares, filled_cons]
    by_cases hwidth : width = most
    · subst hwidth
      rw [if_pos rfl, filled_cons, List.count_cons_self, Nat.add_sub_cancel]
      have hrest := filled_takeShares_le width spare
        (cells - min spare (share cells (rest.count width + 1))) (rest.count width) rest
      by_cases hgiven : share cells (rest.count width + 1) = 0
      · -- The share is rounded to nothing, so there is another column to give.
        have hother : width ∈ rest := by
          rw [← List.count_pos_iff]
          refine Nat.pos_of_ne_zero fun hlast => ?_
          rw [hlast, share_one] at hgiven
          omega
        have hless := ih hother
        simp only [hgiven, Nat.min_zero, Nat.sub_zero]
        omega
      · omega
    · have hother : most ∈ rest := (List.mem_cons.mp hmem).resolve_left (Ne.symm hwidth)
      have hless := ih hother
      rw [if_neg hwidth, filled_cons, List.count_cons_of_ne hwidth]
      omega

/-- The widest columns give up what they have more than the next ones, at most so many cells. -/
def yieldWidest (missing : Nat) (widths : List Nat) : List Nat :=
  let most := widths.max?.getD 0
  let next := (widths.filter (· ≠ most)).max?.getD 0
  takeShares most (min missing (most - next)) missing (widths.count most) widths

/-- Where cells are missing, the columns become narrower. -/
theorem filled_yieldWidest_lt {missing : Nat} {widths : List Nat} (hmissing : 0 < missing)
    (h : 0 < filled widths) : filled (yieldWidest missing widths) < filled widths := by
  obtain ⟨width, hwidth, hsome⟩ := exists_pos_of_filled h
  unfold yieldWidest
  cases hmost : widths.max? with
  | none =>
    rw [List.max?_eq_none_iff.mp hmost] at hwidth
    cases hwidth
  | some most =>
    obtain ⟨hmem, hlargest⟩ := List.max?_eq_some_iff.mp hmost
    have hless : (widths.filter (· ≠ most)).max?.getD 0 < most := by
      cases hnext : (widths.filter (· ≠ most)).max? with
      | none => exact Nat.lt_of_lt_of_le hsome (hlargest width hwidth)
      | some next =>
        obtain ⟨hkept, hne⟩ := List.mem_filter.mp (List.max?_mem hnext)
        exact Nat.lt_of_le_of_ne (hlargest next hkept) (of_decide_eq_true hne)
    have hspare : 0 < min missing (most - (widths.filter (· ≠ most)).max?.getD 0) :=
      Nat.lt_min.mpr ⟨hmissing, Nat.sub_pos_of_lt hless⟩
    exact filled_takeShares_lt (Nat.zero_lt_of_lt hless) hspare hmissing hmem

/-- Columns that fill no more than so many cells. -/
def narrowed (room : Nat) (widths : List Nat) : List Nat :=
  if hfit : filled widths ≤ room then widths
  else
    have hless : filled (yieldWidest (filled widths - room) widths) < filled widths :=
      filled_yieldWidest_lt (by omega) (by omega)
    narrowed room (yieldWidest (filled widths - room) widths)
termination_by filled widths

/-- The cells for the columns of a table, without the edges around and between them. -/
def tableRoom (columns count : Nat) : Nat :=
  columns - (count + 1)

/-- A table: its title, the head, and rows of as many cells. -/
structure Table where
  title : List Char
  head : List (List Char)
  rows : List (List (List Char))

namespace Table

/-- The cells of a column. -/
def column (table : Table) (index : Nat) : List (List Char) :=
  (table.head :: table.rows).filterMap (·[index]?)

/-- The width of each column with a blank on each side, on a console with so many columns. -/
def widths (columns : Nat) (table : Table) : List Nat :=
  let room := tableRoom columns table.head.length
  let asked := (List.range table.head.length).map fun index =>
    min (((table.column index).map widest).foldl max 0 + 2) room
  narrowed room asked

/-- The lines of a table on a console with so many columns. -/
def lines (columns : Nat) (table : Table) : List (List Char) :=
  let widths := table.widths columns
  let total := filled widths + widths.length + 1
  (wrap .fold total table.title).map (centered total) ++
    TableRule.draw ⟨'┏', '━', '┳', '┓'⟩ widths ::
    rowLines .bottom '┃' widths table.head ++
    [TableRule.draw ⟨'┡', '━', '╇', '┩'⟩ widths] ++
    table.rows.flatMap (rowLines .top '│' widths) ++
    [TableRule.draw ⟨'└', '─', '┴', '┘'⟩ widths]

end Table

end

end SqlInsert.Console
