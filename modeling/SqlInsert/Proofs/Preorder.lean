import Mathlib
import SqlInsert.Tree.Basic
/-!
# The order of the nodes of a tree

The nodes of a tree are the tree itself and, for each content directly below it, the nodes of that. From
this one equation follow the order of the places, which makes them distinct, and the position of the
items of a list slot among all nodes. No node is listed twice, so a place stands for one node.
-/

namespace SqlInsert

/-- A step leads before another: to an earlier slot, or to an earlier item of the same one. -/
def Step.Before (first second : Step) : Prop :=
  first.slot < second.slot ∨
    first.slot = second.slot ∧
      ∃ earlier later, first.item = some earlier ∧ second.item = some later ∧ earlier < later

/-- A place comes before another: above it, or where the first different step leads before. -/
abbrev Place.Before : Place → Place → Prop := List.Lex Step.Before

/-- No step stands before itself. -/
theorem Step.Before.irrefl (step : Step) : ¬step.Before step := by
  rintro (h | ⟨_, earlier, later, he, hl, hlt⟩)
  · exact Nat.lt_irrefl _ h
  · rw [he] at hl
    cases hl
    exact Nat.lt_irrefl _ hlt

/-- No place stands before itself. -/
theorem Place.Before.irrefl (place : Place) : ¬Place.Before place place := by
  induction place with
  | nil => exact fun h => by cases h
  | cons step rest ih =>
    intro h
    cases h with
    | rel hstep => exact hstep.irrefl
    | cons hrest => exact ih hrest

/-- Nodes below a step, with their places from above the step. -/
def under (step : Step) (nodes : List (Place × Tree)) : List (Place × Tree) :=
  nodes.map fun (place, node) => (step :: place, node)

namespace Tree

/-- What a slot at a position holds: its items, or its single content. -/
def branches (position : Nat) : Tree → List (Step × Tree)
  | .list items => items.zipIdx.map fun (item, index) => (⟨position, some index⟩, item)
  | content => [(⟨position, none⟩, content)]

/-- All that stands directly below a node, in the order of the slots and items. -/
def children (tree : Tree) : List (Step × Tree) :=
  tree.slots.zipIdx.flatMap fun ((_, content), position) => content.branches position

/-- A branch carries the position of the slot it hangs in. -/
theorem branches_slot {position : Nat} {content : Tree} {child : Step × Tree}
    (h : child ∈ content.branches position) : child.1.slot = position := by
  unfold branches at h
  split at h
  · obtain ⟨_, _, rfl⟩ := List.mem_map.mp h
    rfl
  · rw [List.mem_singleton.mp h]

/-- The branches of one slot stand in their order. -/
theorem branches_pairwise (position : Nat) (content : Tree) :
    (content.branches position).Pairwise fun first second => first.1.Before second.1 := by
  unfold branches
  split
  · rename_i items
    rw [List.pairwise_map]
    have hindices : (items.zipIdx.map Prod.snd).Pairwise (· < ·) := by
      rw [List.zipIdx_map_snd]
      exact List.pairwise_lt_range'
    exact (List.pairwise_map.mp hindices).imp fun h => .inr ⟨rfl, _, _, rfl, rfl, h⟩
  · exact List.pairwise_singleton _ _

/-- What stands below a node is in the order of the steps that lead to it. -/
theorem children_pairwise (tree : Tree) :
    tree.children.Pairwise fun first second => first.1.Before second.1 := by
  unfold children
  rw [List.pairwise_flatMap]
  refine ⟨fun slot _ => branches_pairwise slot.2 slot.1.2, ?_⟩
  have hpositions : (tree.slots.zipIdx.map Prod.snd).Pairwise (· < ·) := by
    rw [List.zipIdx_map_snd]
    exact List.pairwise_lt_range'
  refine (List.pairwise_map.mp hpositions).imp fun {first second} h left hleft right hright => .inl ?_
  rw [branches_slot hleft, branches_slot hright]
  exact h

/-- The nodes of the items, collected one item after the other. -/
theorem itemNodes_eq (position index : Nat) (items : List Tree) :
    itemNodes position index items =
      (items.zipIdx index).flatMap fun (item, index) => under ⟨position, some index⟩ item.nodes := by
  induction items generalizing index with
  | nil => rfl
  | cons item rest ih =>
    rw [itemNodes, List.zipIdx_cons, List.flatMap_cons, ih]
    rfl

/-- The nodes of the first slot come before those of the others. -/
theorem slotNodes_cons (position : Nat) (name : String) (content : Tree) (rest : List (String × Tree)) :
    slotNodes position ((name, content) :: rest) =
      ((content.branches position).flatMap fun (step, child) => under step child.nodes) ++
        slotNodes (position + 1) rest := by
  cases content with
  | list items =>
    rw [slotNodes, itemNodes_eq]
    simp only [branches, List.flatMap_map]
  | _ =>
    rw [slotNodes]
    · simp only [branches, List.flatMap_singleton, under]
    · exact fun items h => by cases h

/-- The nodes of the slots, collected one slot after the other. -/
theorem slotNodes_eq (position : Nat) (slots : List (String × Tree)) :
    slotNodes position slots =
      (slots.zipIdx position).flatMap fun ((_, content), position) =>
        (content.branches position).flatMap fun (step, child) => under step child.nodes := by
  induction slots generalizing position with
  | nil => rfl
  | cons slot rest ih => rw [slotNodes_cons, ih, List.zipIdx_cons, List.flatMap_cons]

/-- The nodes of a node: itself, and the nodes of all that stands directly below it. -/
theorem nodes_eq {tree : Tree} (h : tree.isNode = true) :
    tree.nodes = ([], tree) :: tree.children.flatMap fun (step, child) => under step child.nodes := by
  cases tree with
  | node kind slots comments =>
    rw [nodes, slotNodes_eq, children, List.flatMap_assoc]
    rfl
  | _ => cases h

/-- What is no node has no nodes. -/
theorem nodes_eq_nil {tree : Tree} (h : tree.isNode = false) : tree.nodes = [] := by
  cases tree with
  | node kind slots comments => cases h
  | _ => rfl

/-- A branch is no larger than what hangs in its slot, which ends the walk. -/
theorem sizeOf_branch_le {position : Nat} {content child : Tree} {step : Step}
    (h : (step, child) ∈ content.branches position) : sizeOf child ≤ sizeOf content := by
  cases content with
  | list items =>
    obtain ⟨⟨item, index⟩, hitem, heq⟩ := List.mem_map.mp h
    cases heq
    have hlt : sizeOf child < sizeOf items := List.sizeOf_lt_of_mem (List.fst_mem_of_mem_zipIdx hitem)
    simp only [list.sizeOf_spec]
    omega
  | _ =>
    cases List.mem_singleton.mp h
    exact Nat.le_refl _

/-- What stands below a node is smaller than the node. -/
theorem sizeOf_child_lt {tree child : Tree} {step : Step} (h : (step, child) ∈ tree.children) :
    sizeOf child < sizeOf tree := by
  cases tree with
  | node kind slots comments =>
    obtain ⟨⟨⟨name, content⟩, position⟩, hslot, hchild⟩ := List.mem_flatMap.mp h
    have hle := sizeOf_branch_le hchild
    have hlt : sizeOf (name, content) < sizeOf slots :=
      List.sizeOf_lt_of_mem (List.fst_mem_of_mem_zipIdx hslot)
    simp only [Prod.mk.sizeOf_spec] at hlt
    simp only [node.sizeOf_spec]
    omega
  | _ => cases h

/-- A property of trees holds if it passes from all that stands below a tree to the tree. -/
theorem induction_children {holds : Tree → Prop}
    (step : ∀ tree, (∀ child ∈ tree.children, holds child.2) → holds tree) (tree : Tree) :
    holds tree :=
  step tree fun child _ => induction_children step child.2
termination_by sizeOf tree
decreasing_by
  rename_i h
  exact sizeOf_child_lt h

/-- Nodes are listed in the order of their places: a node before all below it, and what is below an
earlier step before what is below a later one. -/
theorem nodes_pairwise_before (tree : Tree) :
    tree.nodes.Pairwise fun first second => Place.Before first.1 second.1 := by
  induction tree using induction_children with
  | step tree ih =>
    cases h : tree.isNode with
    | false =>
      rw [nodes_eq_nil h]
      exact List.Pairwise.nil
    | true =>
      rw [nodes_eq h]
      -- The node against all below it, nodes below one step, and nodes below two.
      refine List.pairwise_cons.mpr ⟨?_, List.pairwise_flatMap.mpr ⟨?_, ?_⟩⟩
      · intro node hnode
        obtain ⟨child, _, hbelow⟩ := List.mem_flatMap.mp hnode
        obtain ⟨below, _, rfl⟩ := List.mem_map.mp hbelow
        exact .nil
      · intro child hchild
        exact List.pairwise_map.mpr ((ih child hchild).imp fun h => .cons h)
      · refine tree.children_pairwise.imp fun hbefore left hleft right hright => ?_
        obtain ⟨_, _, rfl⟩ := List.mem_map.mp hleft
        obtain ⟨_, _, rfl⟩ := List.mem_map.mp hright
        exact .rel hbefore

/-- Different nodes have different places. -/
theorem places_nodup (tree : Tree) : (tree.nodes.map Prod.fst).Nodup := by
  refine List.pairwise_map.mpr (tree.nodes_pairwise_before.imp fun {first second} h heq => ?_)
  rw [heq] at h
  exact Place.Before.irrefl second.1 h

/-- The nodes of a node are nodes of every tree that it is in, their places behind its own. -/
theorem mem_nodes_trans {tree inner node : Tree} {place below : Place}
    (hinner : (place, inner) ∈ tree.nodes) (hnode : (below, node) ∈ inner.nodes) :
    (place ++ below, node) ∈ tree.nodes := by
  -- The inner node is the tree itself or lies below one of its children.
  induction tree using induction_children generalizing place with
  | step tree ih =>
    cases htree : tree.isNode with
    | false =>
      rw [nodes_eq_nil htree] at hinner
      cases hinner
    | true =>
      rw [nodes_eq htree] at hinner
      rcases List.mem_cons.mp hinner with heq | hbelow
      · cases heq
        exact hnode
      · obtain ⟨child, hchild, hplace⟩ := List.mem_flatMap.mp hbelow
        obtain ⟨rest, hrest, heq⟩ := List.mem_map.mp hplace
        cases heq
        rw [nodes_eq htree]
        refine List.mem_cons_of_mem _ (List.mem_flatMap.mpr ⟨child, hchild, ?_⟩)
        exact List.mem_map.mpr ⟨_, ih child hchild hrest, rfl⟩

/-- The position at which a slot is found is that of its name and content. -/
theorem getElem?_findIdx_slot {name : String} {content : Tree} {slots : List (String × Tree)}
    (h : slots.lookup name = some content) :
    slots[slots.findIdx fun (slotName, _) => slotName == name]? = some (name, content) := by
  induction slots with
  | nil => cases h
  | cons slot rest ih =>
    obtain ⟨other, held⟩ := slot
    rw [List.lookup_cons] at h
    rw [List.findIdx_cons]
    by_cases hname : name = other
    · subst hname
      simp only [beq_self_eq_true, Option.some.injEq] at h
      simp only [beq_self_eq_true, cond_true, List.getElem?_cons_zero, h]
    · have hother : ¬other = name := fun heq => hname heq.symm
      rw [beq_eq_false_iff_ne.mpr hname] at h
      simp only [beq_eq_false_iff_ne.mpr hother, cond_false, List.getElem?_cons_succ]
      exact ih h

/-- The items of a list slot are among what stands below a node, in the same order. -/
theorem itemSteps_sublist_children (name : String) (tree : Tree) :
    (tree.itemSteps name).Sublist tree.children := by
  cases hslot : tree.slots.lookup name with
  | none =>
    simp only [itemSteps, itemsAt, slot, hslot, Option.getD_none, items, List.zipIdx_nil, List.map_nil]
    exact List.nil_sublist _
  | some content =>
    have hitems : (tree.itemSteps name).Sublist
        (content.branches (tree.slots.findIdx fun (slotName, _) => slotName == name)) := by
      simp only [itemSteps, itemsAt, slot, hslot, Option.getD_some]
      cases content with
      | list items => exact List.Sublist.refl _
      | _ => exact List.nil_sublist _
    refine hitems.trans (List.sublist_flatten_of_mem (List.mem_map.mpr ⟨((name, content), _), ?_, rfl⟩))
    exact List.mk_mem_zipIdx_iff_getElem?.mpr (getElem?_findIdx_slot hslot)

/-- The nodes of the items of a list slot are among the nodes of a node, in the same order. -/
theorem itemNodes_sublist_nodes (name : String) {tree : Tree} (h : tree.isNode = true) :
    ((tree.itemSteps name).flatMap fun (step, item) => under step item.nodes).Sublist tree.nodes := by
  rw [nodes_eq h]
  exact ((itemSteps_sublist_children name tree).flatMap _).trans (List.sublist_cons_self _ _)

/-- So are the items themselves, as far as they are nodes. -/
theorem items_sublist_nodes (name : String) {tree : Tree} (h : tree.isNode = true) :
    (((tree.itemSteps name).map fun (step, item) => ([step], item)).filter (·.2.isNode)).Sublist
      tree.nodes := by
  refine List.Sublist.trans ?_ (itemNodes_sublist_nodes name h)
  rw [← List.flatMap_singleton' (List.map _ _), List.flatMap_map, List.filter_flatMap]
  refine List.Sublist.flatMap_right _ fun child _ => ?_
  cases hitem : child.2.isNode with
  | false =>
    simp only [List.filter_cons, hitem, Bool.false_eq_true, if_false, List.filter_nil, List.nil_sublist]
  | true =>
    simp only [nodes_eq hitem, under, List.map_cons, List.filter_cons, hitem, if_true, List.filter_nil]
    exact (List.nil_sublist _).cons_cons _

end Tree

end SqlInsert
