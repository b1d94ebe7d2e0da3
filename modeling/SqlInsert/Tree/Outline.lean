import SqlInsert.Tree.Basic
import SqlInsert.Text.Lines
import SqlInsert.Number.Basic
/-!
# The outline of a tree

A tree is shown with the name of each node, followed by its slots in parentheses, one on a line and
indented by depth; a node without nodes below it takes a single line. Slots that hold nothing or an
empty list are left out. Behind the slots a cast shows its target type once more, and a node with
comments shows them.
-/

namespace SqlInsert.Tree

/-- A line break and the indentation of a depth. -/
def indentation (depth : Nat) : String :=
  "\n" ++ String.ofList (List.replicate (2 * depth) ' ')

/-- A plain text inside an outline: without line feeds at the ends and without shared indentation,
its lines indented to the depth. -/
def outlineText (depth : Nat) (value : String) : String :=
  let body := Text.dedent (Text.trimWhile (· == '\n') value.toList)
  (indentation depth).intercalate ((Text.lines body).map String.ofList)

/-- Whether the content of a slot is left out. -/
def isVacant : Tree → Bool
  | .null => true
  | .list [] => true
  | _ => false

/-- Whether a node is shown on one line: no slot holds a node or a list with items. -/
def isLeaf (slots : List (String × Tree)) : Bool :=
  slots.all fun (_, content) =>
    match content with
    | .node _ _ _ => false
    | .list (_ :: _) => false
    | _ => true

/-- Whether texts in the slots of a node are quoted. -/
def quotesText (kind : Kind) (slots : List (String × Tree)) : Bool :=
  let tree := Tree.bare kind slots
  tree.isTextLiteral || (kind == .identifier && (tree.slot "quoted").isGiven)

/-- The texts of the shown slots behind the name of a node. -/
def joinSlots (level : Nat) (leaf : Bool) (shown : List (String × String)) : String :=
  let gap := if leaf then "" else indentation (level + 1)
  let separator := if leaf then ", " else "," ++ gap
  gap ++ separator.intercalate (shown.map fun (name, content) => name ++ "=" ++ content)

/-- A list between brackets, each item on a line of its own behind a gap. -/
def bracketed (gap : String) (items : List String) : String :=
  if items.isEmpty then "[]" else "[" ++ gap ++ ("," ++ gap).intercalate items ++ "]"

/-- The comments of a node as one more slot, if there are any. -/
def outlineComments (level : Nat) (comments : List String) : List (String × String) :=
  if comments.isEmpty then []
  else
    [("_comments", bracketed (indentation (level + 1)) (comments.map (outlineText (level + 2))))]

mutual

/-- The outline of a tree at a level of nesting. -/
def outlineAt (level : Nat) (quotes : Bool) : Tree → String
  | .null => "None"
  | .flag value => if value then "True" else "False"
  | .int value => Number.integerText value
  | .text value => if quotes then Text.quoted value else outlineText (level + 1) value
  | .typeName name => "DType." ++ name
  | .list items => bracketed (indentation (level + 1)) (outlineItems (level + 1) items)
  | .node kind slots comments =>
    let shown := outlineSlots (level + 1) (quotesText kind slots) slots
    let target := match kind with
      | .cast _ => (shown.lookup "to").toList.map (("_type", ·))
      | _ => []
    let notes := outlineComments (level + 1) comments
    kind.name ++ "(" ++ joinSlots level (isLeaf slots) (shown ++ target ++ notes) ++ ")"

/-- The outlines of items. -/
def outlineItems (level : Nat) : List Tree → List String
  | [] => []
  | item :: rest => outlineAt level false item :: outlineItems level rest

/-- The names and outlines of the slots that are shown. -/
def outlineSlots (level : Nat) (quotes : Bool) : List (String × Tree) → List (String × String)
  | [] => []
  | (name, content) :: rest =>
    if content.isVacant then outlineSlots level quotes rest
    else (name, outlineAt level quotes content) :: outlineSlots level quotes rest

end

/-- The outline of a tree that stands alone: a text is quoted, a list keeps to one line. -/
def outline : Tree → String
  | .text value => Text.quoted value
  | .list items => "[" ++ ", ".intercalate (items.map (outlineAt 0 true)) ++ "]"
  | tree => outlineAt 0 false tree

end SqlInsert.Tree
