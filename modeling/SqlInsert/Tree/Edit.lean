import SqlInsert.Tree.Basic
/-!
# Editing a tree

A path of slot names and item positions leads from the root to a node. The node can be replaced, a
slot of it set, and an item added to a list slot of it. A path that leads nowhere changes nothing.
-/

namespace SqlInsert

/-- One part of a path. -/
inductive PathPart
  | slot (name : String)
  | item (index : Nat)
deriving DecidableEq, Repr

namespace Tree

/-- The slots with the content of one changed, at the end if there was none. -/
def putSlot (name : String) (content : Tree) : List (String × Tree) → List (String × Tree)
  | [] => [(name, content)]
  | (other, old) :: rest =>
    if other = name then (name, content) :: rest else (other, old) :: putSlot name content rest

/-- The node with a slot set; setting it to nothing removes it. -/
def setSlot (name : String) (content : Tree) : Tree → Tree
  | .node kind slots comments =>
    if content.isNull then .node kind (slots.filter fun (other, _) => other != name) comments
    else .node kind (putSlot name content slots) comments
  | tree => tree

/-- The node with an item added to a list slot; anything but a list there gives way to one. -/
def appendItem (name : String) (item : Tree) : Tree → Tree
  | .node kind slots comments =>
    .node kind (putSlot name (.list (((Tree.bare kind slots).itemsAt name) ++ [item])) slots) comments
  | tree => tree

/-- The tree with a change made where a path leads. -/
def modifyAt (change : Tree → Tree) : List PathPart → Tree → Tree
  | [], tree => change tree
  | .slot name :: rest, .node kind slots comments =>
    .node kind (slots.map fun (other, content) =>
      if other = name then (other, modifyAt change rest content) else (other, content)) comments
  | .item index :: rest, .list items =>
    .list (items.modify index (modifyAt change rest))
  | _, tree => tree

end Tree

end SqlInsert
