import SqlInsert.Tree.Kind
/-!
# Trees

The tree that stands for a statement, how it is built, and the nodes in it with their places.
-/

namespace SqlInsert

/-! ## Statement trees

A statement is a tree of nodes. A node has a kind and named slots in a fixed order; a slot holds a
node, a plain item, or a list. A slot that holds nothing counts as missing. A node may carry comments,
which say nothing about the statement and are kept for its text. What is asked of trees here is what
the recognition of a statement needs: the content of a slot, the items of a list slot, and the text
that a node stands for. -/

/-- A node of a statement, or an item in one of its slots. -/
inductive Tree
  /-- Nothing: what a missing slot holds. -/
  | null
  | flag (value : Bool)
  | int (value : Int)
  | text (value : String)
  /-- The name of a data type. -/
  | typeName (name : String)
  | list (items : List Tree)
  | node (kind : Kind) (slots : List (String × Tree)) (comments : List String)

namespace Tree

/-- A node without comments. -/
def bare (kind : Kind) (slots : List (String × Tree)) : Tree :=
  .node kind slots []

/-- A slot holds nothing. -/
instance : Inhabited Tree := ⟨.null⟩

/-- The kind of a node. -/
def kind? : Tree → Option Kind
  | .node kind _ _ => some kind
  | _ => none

/-- Whether the tree is a node of the kind. -/
def isA (kind : Kind) (tree : Tree) : Bool :=
  tree.kind? == some kind

/-- Whether the tree is a node. -/
def isNode (tree : Tree) : Bool :=
  tree.kind?.isSome

/-- Whether there is nothing. -/
def isNull : Tree → Bool
  | .null => true
  | _ => false

/-- The slots of a node. -/
def slots : Tree → List (String × Tree)
  | .node _ slots _ => slots
  | _ => []

/-- The comments of a node. -/
def comments : Tree → List String
  | .node _ _ comments => comments
  | _ => []

/-- The node with further comments behind those that it has. -/
def withComments (further : List String) : Tree → Tree
  | .node kind slots comments => .node kind slots (comments ++ further)
  | tree => tree

/-- The node without its comments. -/
def withoutComments : Tree → Tree
  | .node kind slots _ => .node kind slots []
  | tree => tree

/-- The content of a slot; nothing if the slot is missing. -/
def slot (name : String) (tree : Tree) : Tree :=
  (tree.slots.lookup name).getD .null

/-- The items of a list. -/
def items : Tree → List Tree
  | .list items => items
  | _ => []

/-- The items of a list slot. -/
def itemsAt (name : String) (tree : Tree) : List Tree :=
  (tree.slot name).items

/-- The text of a plain text. -/
def text? : Tree → Option String
  | .text value => some value
  | _ => none

/-- Whether a slot's content counts as given: not nothing, not false, not zero, not empty. -/
def isGiven : Tree → Bool
  | .null => false
  | .flag value => value
  | .int value => value != 0
  | .text value => value != ""
  | .typeName _ => true
  | .list items => !items.isEmpty
  | .node _ _ _ => true

/-- The text that a node stands for by itself. -/
def ownText : Tree → String
  | .node .star _ _ => "*"
  | .node .null _ _ => "NULL"
  | .node kind slots _ =>
    if kind = .identifier ∨ kind = .literal ∨ kind = .variable then
      (((Tree.bare kind slots).slot "this").text?).getD ""
    else ""
  | _ => ""

/-- The text that the first slot of a node stands for: the text in it, or that of the node in it. -/
def nameText (tree : Tree) : String :=
  match tree.slot "this" with
  | .text value => value
  | content => content.ownText

/-- Whether the tree is a text literal. -/
def isTextLiteral (tree : Tree) : Bool :=
  tree.isA .literal && (tree.slot "is_string").isGiven

/-- Whether the tree is a number literal. -/
def isNumberLiteral (tree : Tree) : Bool :=
  tree.isA .literal && !(tree.slot "is_string").isGiven

/-- The name of what the tree is: its kind, or the sort of item. -/
def className : Tree → String
  | .null => "NoneType"
  | .flag _ => "bool"
  | .int _ => "int"
  | .text _ => "str"
  | .typeName _ => "DType"
  | .list _ => "list"
  | .node kind _ _ => kind.name

end Tree

end SqlInsert

namespace SqlInsert.Tree

/-! ## Building trees

The nodes that a reader of statements makes most often, from their parts. -/

/-- The content of a slot for a part that may be missing. -/
def optional (part : Option Tree) : Tree :=
  part.getD .null

/-- A text constant. -/
def textLiteral (content : String) : Tree :=
  .bare .literal [("this", .text content), ("is_string", .flag true)]

/-- A number constant. -/
def numberLiteral (digits : String) : Tree :=
  .bare .literal [("this", .text digits), ("is_string", .flag false)]

/-- A truth value. -/
def boolean (value : Bool) : Tree :=
  .bare .boolean [("this", .flag value)]

/-- A name. -/
def identifier (name : String) (quoted : Bool) : Tree :=
  .bare .identifier [("this", .text name), ("quoted", .flag quoted)]

/-- A reference to a column by its name. -/
def column (name : Tree) : Tree :=
  .bare .column [("this", name)]

/-- A word that stands for itself. -/
def word (spelling : String) : Tree :=
  .bare .variable [("this", .text spelling)]

/-- An operator with two operands. -/
def binary (operator : BinaryOperator) (left right : Tree) : Tree :=
  .bare (.binary operator) [("this", left), ("expression", right)]

/-- An operator with one operand. -/
def unary (operator : UnaryOperator) (operand : Tree) : Tree :=
  .bare (.unary operator) [("this", operand)]

/-- A list of values in parentheses. -/
def tuple (values : List Tree) : Tree :=
  .bare .tuple [("expressions", .list values)]

/-- A value under another name. -/
def aliased (value name : Tree) : Tree :=
  .bare .aliased [("this", value), ("alias", name)]

/-- A cast to a data type. -/
def cast (value type : Tree) : Tree :=
  .bare (.cast false) [("this", value), ("to", type)]

/-- A data type with its parameters. -/
def dataType (name : String) (parameters : List Tree) : Tree :=
  .bare .dataType [("this", .typeName name), ("expressions", .list parameters),
    ("nested", .flag false)]

/-- A reference to a table under another name, possibly with names for its columns. -/
def tableAlias (name : Tree) (columns : List Tree) : Tree :=
  .bare .tableAlias [("this", name), ("columns", .list columns)]

end SqlInsert.Tree

namespace SqlInsert

/-! ## The nodes of a tree in order

A node is found by its place: the steps that lead to it from the root. The nodes are listed with
their places, a node before the nodes below it and those in the order of the slots and items. -/

/-- One step down: the position of a slot and, in a list, the position of the item. -/
structure Step where
  slot : Nat
  item : Option Nat
deriving DecidableEq, Repr

/-- The steps from the root of a tree to a node. -/
abbrev Place := List Step

namespace Tree

mutual

/-- The nodes of a tree with their places, each before the nodes below it. -/
def nodes : Tree → List (Place × Tree)
  | .node kind slots comments => ([], .node kind slots comments) :: slotNodes 0 slots
  | _ => []

/-- The nodes in slots, the first of which has the given position. Lists inside lists hold none. -/
def slotNodes (position : Nat) : List (String × Tree) → List (Place × Tree)
  | [] => []
  | (_, .list items) :: rest => itemNodes position 0 items ++ slotNodes (position + 1) rest
  | (_, content) :: rest =>
    (nodes content).map (fun (place, tree) => (⟨position, none⟩ :: place, tree)) ++
      slotNodes (position + 1) rest

/-- The nodes in the items of a slot, the first of which has the given index. -/
def itemNodes (position index : Nat) : List Tree → List (Place × Tree)
  | [] => []
  | item :: rest =>
    (nodes item).map (fun (place, tree) => (⟨position, some index⟩ :: place, tree)) ++
      itemNodes position (index + 1) rest

end

/-- The items of a list slot with the steps that lead to them. -/
def itemSteps (name : String) (tree : Tree) : List (Step × Tree) :=
  let position := tree.slots.findIdx fun (slotName, _) => slotName == name
  (tree.itemsAt name).zipIdx.map fun (item, index) => (⟨position, some index⟩, item)

end Tree

end SqlInsert
