import SqlInsert.Proofs.RowNumbering
import SqlInsert.Tree.Edit
/-!
# Batches cut in two

A batch of rows may be cut in two: the rows of the whole are those of its front followed by those of its
back. Only a bind parameter without a number of its own knows what stands before it, so its index alone
moves up, by the number of bind parameters in the front. Whether an element has a value does not depend on
the cut.
-/

namespace SqlInsert

section

variable {α β γ : Type}

/-- Two lists in a row have their answers in a row. -/
theorem forall₂_append_iff {relation : α → β → Prop} {front back : List α} {answers : List β} :
    List.Forall₂ relation (front ++ back) answers ↔
      ∃ first second, List.Forall₂ relation front first ∧ List.Forall₂ relation back second ∧
        answers = first ++ second := by
  induction front generalizing answers with
  | nil =>
    constructor
    · exact fun h => ⟨[], answers, .nil, h, rfl⟩
    · rintro ⟨first, second, hfirst, hsecond, rfl⟩
      cases hfirst
      exact hsecond
  | cons head tail ih =>
    rw [List.cons_append, List.forall₂_cons_left_iff]
    constructor
    · rintro ⟨answer, rest, hhead, hrest, rfl⟩
      obtain ⟨first, second, hfirst, hsecond, rfl⟩ := ih.mp hrest
      exact ⟨answer :: first, second, .cons hhead hfirst, hsecond, rfl⟩
    · rintro ⟨first, second, hfirst, hsecond, rfl⟩
      obtain ⟨answer, rest, hhead, hrest, rfl⟩ := List.forall₂_cons_left_iff.mp hfirst
      exact ⟨answer, rest ++ second, hhead, ih.mpr ⟨rest, second, hrest, hsecond, rfl⟩, rfl⟩

/-- Questions whose answers are made of those to other questions are answered where those are. -/
theorem forall₂_zipWith_iff {relation : α → β → Prop} {relation' : α → γ → Prop} {make : α → β → γ}
    {questions : List α} {answers : List γ}
    (h : ∀ question ∈ questions, ∀ answer,
      relation' question answer ↔ ∃ other, relation question other ∧ answer = make question other) :
    List.Forall₂ relation' questions answers ↔
      ∃ others, List.Forall₂ relation questions others ∧ answers = List.zipWith make questions others := by
  induction questions generalizing answers with
  | nil =>
    simp only [List.forall₂_nil_left_iff, List.zipWith_nil_left, exists_eq_left]
  | cons question rest ih =>
    obtain ⟨hquestion, hrest⟩ := List.forall_mem_cons.mp h
    rw [List.forall₂_cons_left_iff]
    simp only [hquestion, ih hrest]
    constructor
    · rintro ⟨_, _, ⟨other, hother, rfl⟩, ⟨others, hothers, rfl⟩, rfl⟩
      exact ⟨other :: others, .cons hother hothers, rfl⟩
    · rintro ⟨_, hothers, rfl⟩
      obtain ⟨other, others, hother, hrelated, rfl⟩ := List.forall₂_cons_left_iff.mp hothers
      exact ⟨_, _, ⟨other, hother, rfl⟩, ⟨others, hrelated, rfl⟩, rfl⟩

/-- Only the relation between the questions that are asked and their answers matters. -/
theorem forall₂_congr_of_mem {relation relation' : α → β → Prop} {questions : List α} {answers : List β}
    (h : ∀ question ∈ questions, ∀ answer, relation question answer ↔ relation' question answer) :
    List.Forall₂ relation questions answers ↔ List.Forall₂ relation' questions answers := by
  induction questions generalizing answers with
  | nil => rw [List.forall₂_nil_left_iff, List.forall₂_nil_left_iff]
  | cons question rest ih =>
    obtain ⟨hquestion, hrest⟩ := List.forall_mem_cons.mp h
    rw [List.forall₂_cons_left_iff, List.forall₂_cons_left_iff]
    simp only [hquestion, ih hrest]

end

/-! ## Places behind a cut -/

/-- The step to the item so many places later. -/
def Step.later (count : Nat) (step : Step) : Step :=
  { step with item := step.item.map (count + ·) }

/-- A node with its place below the item so many places later. -/
def laterCell (count : Nat) : Place × Tree → Place × Tree
  | (step :: rest, tree) => (step.later count :: rest, tree)
  | ([], tree) => ([], tree)

/-- A later place holds the same tree. -/
theorem laterCell_snd (count : Nat) (cell : Place × Tree) : (laterCell count cell).2 = cell.2 := by
  obtain ⟨place, tree⟩ := cell
  cases place <;> rfl

/-- Nodes under a later step are the nodes under the step, each moved. -/
theorem under_later (count : Nat) (step : Step) (nodes : List (Place × Tree)) :
    under (step.later count) nodes = (under step nodes).map (laterCell count) := by
  rw [under, under, List.map_map]
  rfl

namespace Tree

/-- The items behind a cut are found so many places later. -/
theorem branches_append (position : Nat) (front back : List Tree) :
    branches position (.list (front ++ back)) =
      branches position (.list front) ++
        (branches position (.list back)).map fun (step, child) => (step.later front.length, child) := by
  simp only [branches]
  rw [List.zipIdx_append, List.map_append, Nat.zero_add, @List.zipIdx_eq_map_add _ back, List.map_map, List.map_map]
  rfl

/-! ## The bind parameters of a list of values -/

/-- The bind parameters of a node are itself, where it is one, and those of its children in order. -/
theorem parameters_eq {tree : Tree} (h : tree.isNode = true) :
    tree.parameters =
      [(([] : Place), tree)].filter (·.2.isParameter) ++
        tree.children.flatMap fun (step, child) => under step child.parameters := by
  have hunder : ∀ child : Step × Tree,
      (under child.1 child.2.nodes).filter (·.2.isParameter) = under child.1 child.2.parameters := by
    intro child
    rw [under, List.filter_map]
    rfl
  rw [parameters, nodes_eq h, ← List.singleton_append, List.filter_append, List.filter_flatMap]
  simp only [hunder]

/-- The bind parameters can be numbered exactly if the number of each can be read. -/
theorem exists_ordinals_iff_parameters (root : Tree) :
    (∃ ordinals, root.ordinals = .ok ordinals) ↔ ∀ cell ∈ root.parameters, cell.2.numberFault? = none := by
  rw [exists_ordinals_iff]
  refine ⟨fun h cell hcell => h cell (root.parameters_sublist_nodes.subset hcell), fun h cell hcell => ?_⟩
  cases hparameter : cell.2.isParameter with
  | false => exact numberFault?_of_not_isParameter hparameter
  | true => exact h cell (List.mem_filter.mpr ⟨hcell, hparameter⟩)

/-- The bind parameters in the items of a slot in a position, with their places below the node. -/
def itemParameters (position : Nat) (items : List Tree) : List (Place × Tree) :=
  (branches position (.list items)).flatMap fun (step, child) => under step child.parameters

/-- The parameters of the items behind keep their order and stand at places moved by the items in front. -/
theorem itemParameters_append (position : Nat) (front back : List Tree) :
    itemParameters position (front ++ back) =
      itemParameters position front ++ (itemParameters position back).map (laterCell front.length) := by
  rw [itemParameters, branches_append, List.flatMap_append, List.flatMap_map]
  simp only [under_later, itemParameters, List.map_flatMap]

/-- Placing the parameters of the items neither adds nor drops one. -/
theorem length_itemParameters (position : Nat) (items : List Tree) :
    (itemParameters position items).length = (items.flatMap parameters).length := by
  have hitems : ((branches position (.list items)).map Prod.snd) = items := by
    rw [branches, List.map_map]
    exact List.zipIdx_map_fst 0 items
  conv_rhs => rw [← hitems]
  simp only [itemParameters, under, List.length_flatMap, List.length_map, List.map_map, Function.comp_def]

/-- Setting a slot leaves those before it alone. -/
theorem putSlot_append {name : String} {content old : Tree} {before after : List (String × Tree)}
    (h : ∀ slot ∈ before, (name != slot.1) = true) :
    putSlot name content (before ++ (name, old) :: after) = before ++ (name, content) :: after := by
  induction before with
  | nil => rw [List.nil_append, putSlot, if_pos rfl, List.nil_append]
  | cons slot rest ih =>
    obtain ⟨hslot, hrest⟩ := List.forall_mem_cons.mp h
    rw [List.cons_append, putSlot, if_neg (bne_iff_ne.mp hslot).symm, ih hrest, List.cons_append]

/-- A slot that was set holds what it was set to. -/
theorem slot_setSlot {name : String} {content tree : Tree} (h : tree.isNode = true) (hcontent : content.isNull = false) :
    (setSlot name content tree).slot name = content := by
  cases tree with
  | node kind slots comments =>
    rw [setSlot, if_neg (by rw [hcontent]; exact Bool.false_ne_true), slot, Tree.slots]
    induction slots with
    | nil => rw [putSlot, List.lookup_cons_self, Option.getD_some]
    | cons slot rest ih =>
      rw [putSlot]
      split_ifs with hname
      · rw [List.lookup_cons_self, Option.getD_some]
      · rw [List.lookup_cons, beq_eq_false_iff_ne.mpr fun heq => hname heq.symm]
        exact ih h
  | _ => cases h

/-- Filling a slot keeps the kind of the node. -/
theorem kind?_setSlot (name : String) (content tree : Tree) : (setSlot name content tree).kind? = tree.kind? := by
  cases tree with
  | node kind slots comments =>
    rw [setSlot]
    split_ifs <;> rfl
  | _ => rfl

/-- A node with items in its slot for them, the slots before and behind being those given. -/
def withItems (kind : Kind) (before after : List (String × Tree)) (comments : List String)
    (items : List Tree) : Tree :=
  .node kind (before ++ ("expressions", .list items) :: after) comments

section

variable {kind : Kind} {before after : List (String × Tree)} {comments : List String} {items : List Tree}

/-- The children of a node with items are those of the slots in front, the items, and those of the slots
behind. -/
theorem children_withItems :
    (withItems kind before after comments items).children =
      (before.zipIdx.flatMap fun ((_, content), position) => content.branches position) ++
        branches before.length (.list items) ++
        (after.zipIdx (before.length + 1)).flatMap fun ((_, content), position) => content.branches position := by
  rw [children, withItems, slots, List.zipIdx_append, List.zipIdx_cons, List.flatMap_append, List.flatMap_cons,
    Nat.zero_add, List.append_assoc]

/-- Without bind parameters outside of its items, the bind parameters of a node are those of the items. -/
theorem parameters_withItems (hkind : ∀ items, (withItems kind before after comments items).isParameter = false)
    (houter : (withItems kind before after comments []).parameters = []) :
    (withItems kind before after comments items).parameters = itemParameters before.length items := by
  rw [parameters_eq rfl, children_withItems] at houter ⊢
  simp only [List.filter_cons, hkind, Bool.false_eq_true, if_false, List.filter_nil, List.nil_append,
    List.flatMap_append, List.append_eq_nil_iff] at houter ⊢
  rw [houter.1.1, houter.2, List.nil_append, List.append_nil]
  rfl

/-- A list of values is no bind parameter itself. -/
theorem isParameter_withItems : (withItems .values before after comments items).isParameter = false := rfl

/-- Where no slot in front carries the name, the items are found under it. -/
theorem itemsAt_withItems (hbefore : ∀ slot ∈ before, ("expressions" != slot.1) = true) :
    (withItems kind before after comments items).itemsAt "expressions" = items := by
  have hlookup : (before ++ ("expressions", Tree.list items) :: after).lookup "expressions" = some (.list items) :=
    List.lookup_eq_some_iff.mpr ⟨before, after, rfl, hbefore⟩
  simp only [itemsAt, slot, withItems, slots, hlookup, Option.getD_some, Tree.items]

/-- The steps to the items start behind the slots in front of them. -/
theorem itemSteps_withItems (hbefore : ∀ slot ∈ before, ("expressions" != slot.1) = true) :
    (withItems kind before after comments items).itemSteps "expressions" = branches before.length (.list items) := by
  have hindex : ((before ++ ("expressions", Tree.list items) :: after).findIdx
      fun slot => slot.1 == "expressions") = before.length := by
    refine (List.findIdx_eq (by simp)).mpr ⟨by simp, fun index hindex => ?_⟩
    rw [List.getElem_append_left hindex, beq_eq_false_iff_ne]
    exact (bne_iff_ne.mp (hbefore _ (List.getElem_mem hindex))).symm
  unfold itemSteps
  rw [itemsAt_withItems hbefore, branches, ← hindex]
  rfl

/-- A node with items for a slot is of this form, and so it is with other items. -/
theorem exists_withItems {tree : Tree} (h : tree.slot "expressions" = .list items) :
    ∃ kind before after comments, (∀ slot ∈ before, ("expressions" != slot.1) = true) ∧
      tree = withItems kind before after comments items ∧
      ∀ others, setSlot "expressions" (.list others) tree = withItems kind before after comments others := by
  cases tree with
  | node kind slots comments =>
    cases hslot : slots.lookup "expressions" with
    | none => simp only [slot, Tree.slots, hslot, Option.getD_none, reduceCtorEq] at h
    | some content =>
      simp only [slot, Tree.slots, hslot, Option.getD_some] at h
      obtain ⟨before, after, rfl, hbefore⟩ := List.lookup_eq_some_iff.mp hslot
      refine ⟨kind, before, after, comments, hbefore, by rw [h, withItems], fun others => ?_⟩
      rw [setSlot, if_neg (show ¬(list others).isNull = true from Bool.false_ne_true), withItems,
        putSlot_append hbefore]
  | _ => cases h

end

end Tree

/-! ## Rows of a part -/

/-- A value in rows that follow others: a bind parameter without a number of its own moves up by the number
of bind parameters in those. -/
def moved (count : Nat) (element : Tree) : Value → Value
  | .placeholder index name => .placeholder (if element.isNumbered then index else index + count) name
  | value => value

/-- The rows of tuples that follow others. -/
def movedRows (count : Nat) (tuples : List Tree) (rows : List Row) : List Row :=
  List.zipWith (fun tuple row => List.zipWith (moved count) (tuple.itemsAt "expressions") row) tuples rows

/-- A value without an index is moved nowhere. -/
theorem moved_of_index? {count : Nat} {element : Tree} {value : Value} (h : value.index? = none) :
    moved count element value = value := by
  cases value with
  | placeholder index name => cases h
  | _ => rfl

namespace Statement

/-- The statement with other tuples in its list of values. -/
def withTuples (statement : Statement) (tuples : List Tree) : Statement :=
  { statement with
    tree := .setSlot "expression" (.setSlot "expressions" (.list tuples) statement.rowSource) statement.tree }

section

variable {statement : Statement} {kind : Kind} {before after : List (String × Tree)} {comments : List String}
variable {tuples : List Tree}

/-- Replacing the tuples keeps the kind of the statement. -/
theorem isA_withTuples (statement : Statement) (tuples : List Tree) (kind : Kind) :
    (statement.withTuples tuples).tree.isA kind = statement.tree.isA kind := by
  rw [Tree.isA, Tree.isA, withTuples, Tree.kind?_setSlot]

/-- The list of values of the statement with other tuples is the old one with other items. -/
theorem rowSource_withTuples {others : List Tree} (h : statement.rowSource.slot "expressions" = .list others) :
    (statement.withTuples tuples).rowSource = .setSlot "expressions" (.list tuples) statement.rowSource := by
  obtain ⟨kind, before, after, comments, _, hsource, hset⟩ := Tree.exists_withItems h
  refine Tree.slot_setSlot ?_ (by rw [hset]; rfl)
  cases htree : statement.tree with
  | node kind slots comments => rfl
  | _ =>
    rw [rowSource, htree] at hsource
    cases hsource

/-- The elements of the tuples behind a cut have the places so many items later. -/
theorem grid_withItems_append (hbefore : ∀ slot ∈ before, ("expressions" != slot.1) = true) (front back : List Tree) :
    grid (.withItems kind before after comments (front ++ back)) =
      grid (.withItems kind before after comments front) ++
        (grid (.withItems kind before after comments back)).map (·.map (laterCell front.length)) := by
  have hlater : ∀ (step : Step) (tuple : Tree),
      elements (step.later front.length) tuple = (elements step tuple).map (laterCell front.length) := by
    intro step tuple
    rw [elements_eq_under, elements_eq_under, under_later]
  simp only [grid_eq, Tree.itemSteps_withItems hbefore, Tree.branches_append, List.map_append, List.map_map,
    Function.comp_def, hlater]

/-- An element that is no bind parameter resolves in the same way everywhere, and not to one. -/
theorem cellOutcome_of_not_isParameter {cell cell' : Place × Tree} (hsame : cell'.2 = cell.2)
    (h : cell.2.isParameter = false) (grammar : Grammar) (ordinals ordinals' : Ordinals) :
    cellOutcome grammar ordinals' cell' = cellOutcome grammar ordinals cell ∧
      ∀ value, cellOutcome grammar ordinals cell = .ok value → value.index? = none := by
  unfold cellOutcome resolveAt
  rw [hsame]
  cases hkind : cell.2.valueKind with
  | error error => exact ⟨rfl, fun value hvalue => by cases hvalue⟩
  | ok kind =>
    cases kind with
    | placeholder =>
      rw [Tree.isParameter_of_valueKind hkind] at h
      cases h
    | literal => cases cell.2.constant <;> exact ⟨rfl, fun value hvalue => by cases hvalue <;> rfl⟩
    | _ => exact ⟨rfl, fun value hvalue => by cases hvalue <;> rfl⟩

/-- A bind parameter that is numbered from elsewhere resolves to its ordinal there, and any other element to
the same as before. -/
theorem cellOutcome_moved {values values' : Tree} {ordinals ordinals' : Ordinals} {cell cell' : Place × Tree}
    {count : Nat} (hordinals : values.ordinals = .ok ordinals) (hordinals' : values'.ordinals = .ok ordinals')
    (hsame : cell'.2 = cell.2)
    (hposition : cell.2.isParameter = true → ∃ position : Nat, values.parameters[position]? = some cell ∧
      values'.parameters[count + position]? = some cell') (grammar : Grammar) :
    cellOutcome grammar ordinals' cell' = (cellOutcome grammar ordinals cell).map (moved count cell.2) := by
  cases hparameter : cell.2.isParameter with
  | true =>
    obtain ⟨position, hcell, hcell'⟩ := hposition hparameter
    obtain ⟨ordinal, hordinal, hresolved⟩ := cellOutcome_of_parameter hordinals hcell grammar
    obtain ⟨ordinal', hordinal', hresolved'⟩ := cellOutcome_of_parameter hordinals' hcell' grammar
    rw [hresolved, hresolved', hsame, Except.map, moved]
    rw [hsame] at hordinal'
    unfold Tree.ordinalAt at hordinal hordinal'
    cases hnumbered : cell.2.isNumbered with
    | true =>
      rw [hnumbered] at hordinal hordinal'
      rw [Except.ok.inj (hordinal.symm.trans hordinal')]
      rfl
    | false =>
      rw [hnumbered] at hordinal hordinal'
      cases hordinal
      cases hordinal'
      have hindex : ((count + position : Nat) : Int) = position + count := by omega
      rw [hindex]
      rfl
  | false =>
    obtain ⟨houtcome, hother⟩ := cellOutcome_of_not_isParameter hsame hparameter grammar ordinals ordinals'
    rw [houtcome]
    cases hcell : cellOutcome grammar ordinals cell with
    | error failure => rfl
    | ok value => rw [Except.map, moved_of_index? (hother value hcell)]

/-- Elements that resolve in one numbering have values in another one where they are moved. -/
theorem forall₂_moved_iff {grammar : Grammar} {ordinals ordinals' : Ordinals} {count : Nat}
    {place : Place × Tree → Place × Tree} {cells : List (List (Place × Tree))} {rows' : List Row}
    (h : ∀ cell ∈ cells.flatten,
      cellOutcome grammar ordinals' (place cell) = (cellOutcome grammar ordinals cell).map (moved count cell.2)) :
    List.Forall₂ (List.Forall₂ fun cell value => cellOutcome grammar ordinals' cell = .ok value)
        (cells.map (·.map place)) rows' ↔
      ∃ rows, List.Forall₂ (List.Forall₂ fun cell value => cellOutcome grammar ordinals cell = .ok value) cells rows ∧
        rows' = List.zipWith (List.zipWith fun cell => moved count cell.2) cells rows := by
  rw [List.forall₂_map_left_iff]
  refine forall₂_zipWith_iff fun row hrow row' => ?_
  rw [List.forall₂_map_left_iff]
  refine forall₂_zipWith_iff fun cell hcell value' => ?_
  rw [h cell (List.mem_flatten.mpr ⟨row, hrow, hcell⟩)]
  cases cellOutcome grammar ordinals cell with
  | error failure => simp only [Except.map, reduceCtorEq, false_and, exists_false]
  | ok value =>
    simp only [Except.map, Except.ok.injEq, exists_eq_left']
    exact eq_comm

/-- The rows of a grid, moved, in terms of the tuples. -/
theorem zipWith_grid (count : Nat) (values : Tree) (rows : List Row) :
    List.zipWith (List.zipWith fun cell => moved count cell.2) (grid values) rows =
      movedRows count (values.itemsAt "expressions") rows := by
  have htuples : movedRows count (values.itemsAt "expressions") rows =
      List.zipWith (List.zipWith (moved count)) ((values.itemsAt "expressions").map (·.itemsAt "expressions")) rows := by
    rw [movedRows, List.zipWith_map_left]
  rw [htuples, ← grid_snd, List.zipWith_map_left]
  simp only [List.zipWith_map_left]

/-- A move by nothing changes no value. -/
theorem moved_zero (element : Tree) (value : Value) : moved 0 element value = value := by
  cases value with
  | placeholder index name => simp only [moved, Int.natCast_zero, Int.add_zero, ite_self]
  | _ => rfl

/-- A move by nothing changes no outcome either. -/
theorem map_moved_zero (element : Tree) (outcome : Except Failure Value) :
    outcome.map (moved 0 element) = outcome := by
  cases outcome with
  | error failure => rfl
  | ok value => rw [Except.map, moved_zero]

/-- All bind parameters can be numbered exactly if those of both parts can. -/
theorem exists_ordinals_append_iff (houter : (Tree.withItems .values before after comments []).parameters = [])
    (front back : List Tree) :
    (∃ ordinals, (Tree.withItems .values before after comments (front ++ back)).ordinals = .ok ordinals) ↔
      (∃ ordinals, (Tree.withItems .values before after comments front).ordinals = .ok ordinals) ∧
        ∃ ordinals, (Tree.withItems .values before after comments back).ordinals = .ok ordinals := by
  simp only [Tree.exists_ordinals_iff_parameters, Tree.parameters_withItems (fun _ => Tree.isParameter_withItems) houter,
    Tree.itemParameters_append, List.forall_mem_append, List.forall_mem_map, laterCell_snd]

/-- A bind parameter among the elements of tuples has a position among those of the items. -/
theorem exists_position_of_element (hbefore : ∀ slot ∈ before, ("expressions" != slot.1) = true)
    (houter : (Tree.withItems .values before after comments []).parameters = [])
    (htuples : ∀ item ∈ tuples, item.isA .tuple = true) {cell : Place × Tree}
    (hcell : cell ∈ (grid (.withItems .values before after comments tuples)).flatten)
    (hparameter : cell.2.isParameter = true) :
    ∃ position : Nat, (Tree.itemParameters before.length tuples)[position]? = some cell := by
  have hitems : ∀ item ∈ (Tree.withItems .values before after comments tuples).itemsAt "expressions",
      item.isA .tuple = true := by
    rw [Tree.itemsAt_withItems hbefore]
    exact htuples
  have hmem := mem_parameters_of_element (boundElements_sublist rfl hitems) hcell hparameter
  rw [Tree.parameters_withItems (fun _ => Tree.isParameter_withItems) houter] at hmem
  exact List.getElem?_of_mem hmem

/-- The values of a whole are those of its parts. -/
theorem forall₂_grid_append_iff (hbefore : ∀ slot ∈ before, ("expressions" != slot.1) = true)
    (houter : (Tree.withItems .values before after comments []).parameters = []) {front back : List Tree}
    {ordinals ordinals₁ ordinals₂ : Ordinals} {grammar : Grammar} {rows : List Row}
    (htuples : ∀ item ∈ front ++ back, item.isA .tuple = true)
    (h : (Tree.withItems .values before after comments (front ++ back)).ordinals = .ok ordinals)
    (h₁ : (Tree.withItems .values before after comments front).ordinals = .ok ordinals₁)
    (h₂ : (Tree.withItems .values before after comments back).ordinals = .ok ordinals₂) :
    List.Forall₂ (List.Forall₂ fun cell value => cellOutcome grammar ordinals cell = .ok value)
        (grid (.withItems .values before after comments (front ++ back))) rows ↔
      ∃ first second,
        List.Forall₂ (List.Forall₂ fun cell value => cellOutcome grammar ordinals₁ cell = .ok value)
          (grid (.withItems .values before after comments front)) first ∧
        List.Forall₂ (List.Forall₂ fun cell value => cellOutcome grammar ordinals₂ cell = .ok value)
          (grid (.withItems .values before after comments back)) second ∧
        rows = first ++ movedRows (front.flatMap Tree.parameters).length back second := by
  obtain ⟨hfront, hback⟩ := List.forall_mem_append.mp htuples
  have hparameters : ∀ items, (Tree.withItems .values before after comments items).parameters =
      Tree.itemParameters before.length items :=
    fun _ => Tree.parameters_withItems (fun _ => Tree.isParameter_withItems) houter
  have hwhole := hparameters (front ++ back)
  rw [Tree.itemParameters_append] at hwhole
  -- In the front every bind parameter keeps its position, in the back it comes behind those of the front.
  have hfirst : ∀ cell ∈ (grid (.withItems .values before after comments front)).flatten,
      cellOutcome grammar ordinals cell = cellOutcome grammar ordinals₁ cell := by
    intro cell hcell
    rw [← map_moved_zero cell.2 (cellOutcome grammar ordinals₁ cell)]
    refine cellOutcome_moved h₁ h rfl (fun hparameter => ?_) grammar
    obtain ⟨position, hposition⟩ := exists_position_of_element hbefore houter hfront hcell hparameter
    refine ⟨position, by rw [hparameters, hposition], ?_⟩
    rw [hwhole, Nat.zero_add, List.getElem?_append_left (List.getElem?_eq_some_iff.mp hposition).1, hposition]
  have hsecond : ∀ cell ∈ (grid (.withItems .values before after comments back)).flatten,
      cellOutcome grammar ordinals (laterCell front.length cell) =
        (cellOutcome grammar ordinals₂ cell).map (moved (front.flatMap Tree.parameters).length cell.2) := by
    intro cell hcell
    refine cellOutcome_moved h₂ h (laterCell_snd _ cell) (fun hparameter => ?_) grammar
    obtain ⟨position, hposition⟩ := exists_position_of_element hbefore houter hback hcell hparameter
    refine ⟨position, by rw [hparameters, hposition], ?_⟩
    rw [hwhole, ← Tree.length_itemParameters before.length, List.getElem?_append_right (Nat.le_add_right _ _),
      Nat.add_sub_cancel_left, List.getElem?_map, hposition, Option.map_some]
  -- So the rows of the front do not depend on which of the two sets of ordinals is used.
  have hkept : ∀ first : List Row,
      List.Forall₂ (List.Forall₂ fun cell value => cellOutcome grammar ordinals cell = .ok value)
          (grid (.withItems .values before after comments front)) first ↔
        List.Forall₂ (List.Forall₂ fun cell value => cellOutcome grammar ordinals₁ cell = .ok value)
          (grid (.withItems .values before after comments front)) first :=
    fun _ => forall₂_congr_of_mem fun row hrow _ => forall₂_congr_of_mem fun cell hcell _ => by
      rw [hfirst cell (List.mem_flatten.mpr ⟨row, hrow, hcell⟩)]
  rw [grid_withItems_append hbefore, forall₂_append_iff]
  simp only [hkept, forall₂_moved_iff hsecond, zipWith_grid, Tree.itemsAt_withItems hbefore]
  constructor
  · rintro ⟨first, _, hfirst, ⟨second, hsecond, rfl⟩, rfl⟩
    exact ⟨first, second, hfirst, hsecond, rfl⟩
  · rintro ⟨first, second, hfirst, hsecond, rfl⟩
    exact ⟨first, _, hfirst, ⟨second, hsecond, rfl⟩, rfl⟩

end

/-- What the list of values of a statement has to be for the statement to have rows. -/
structure HasRows (grammar : Grammar) (values : Tree) (rows : List Row) : Prop where
  source : values.isA .values = true
  tuples : ∀ item ∈ values.itemsAt "expressions", item.isA .tuple = true
  resolved : ∃ ordinals, values.ordinals = .ok ordinals ∧
    List.Forall₂ (List.Forall₂ fun cell value => cellOutcome grammar ordinals cell = .ok value) (grid values) rows

/-- An insertion is answered with exactly the rows that its list of values has. -/
theorem rows_eq_ok_iff_hasRows {statement : Statement} {keyPositions : List Int} {rows : List Row} :
    (statement.rows keyPositions).outcome = .ok rows ↔
      statement.tree.isA .insert = true ∧ HasRows statement.grammar statement.rowSource rows := by
  rw [rows_eq_ok_iff]
  constructor
  · rintro ⟨root, source, tuples, resolved⟩
    exact ⟨root, source, tuples, resolved⟩
  · rintro ⟨root, source, tuples, resolved⟩
    exact ⟨root, source, tuples, resolved⟩

/-- A list of values has rows exactly if its parts have. -/
theorem hasRows_append_iff {kind : Kind} {before after : List (String × Tree)} {comments : List String}
    (hbefore : ∀ slot ∈ before, ("expressions" != slot.1) = true)
    (houter : (Tree.withItems kind before after comments []).parameters = []) {front back : List Tree}
    {grammar : Grammar} {rows : List Row} :
    HasRows grammar (.withItems kind before after comments (front ++ back)) rows ↔
      ∃ first second, HasRows grammar (.withItems kind before after comments front) first ∧
        HasRows grammar (.withItems kind before after comments back) second ∧
        rows = first ++ movedRows (front.flatMap Tree.parameters).length back second := by
  have hkind : ∀ {tuples rows}, HasRows grammar (.withItems kind before after comments tuples) rows →
      kind = .values :=
    fun h => Option.some.inj (Tree.kind?_of_isA h.source)
  constructor
  · intro h
    cases hkind h
    obtain ⟨source, htuples, ordinals, hordinals, hresolved⟩ := h
    rw [Tree.itemsAt_withItems hbefore] at htuples
    obtain ⟨hfront, hback⟩ := List.forall_mem_append.mp htuples
    obtain ⟨⟨ordinals₁, h₁⟩, ordinals₂, h₂⟩ := (exists_ordinals_append_iff houter front back).mp ⟨ordinals, hordinals⟩
    obtain ⟨first, second, hfirst, hsecond, rfl⟩ :=
      (forall₂_grid_append_iff hbefore houter htuples hordinals h₁ h₂).mp hresolved
    refine ⟨first, second, ⟨source, ?_, ordinals₁, h₁, hfirst⟩, ⟨source, ?_, ordinals₂, h₂, hsecond⟩, rfl⟩
    · rw [Tree.itemsAt_withItems hbefore]
      exact hfront
    · rw [Tree.itemsAt_withItems hbefore]
      exact hback
  · rintro ⟨first, second, hfront, hback, rfl⟩
    cases hkind hfront
    obtain ⟨source, hfront, ordinals₁, h₁, hfirst⟩ := hfront
    obtain ⟨_, hback, ordinals₂, h₂, hsecond⟩ := hback
    obtain ⟨ordinals, hordinals⟩ := (exists_ordinals_append_iff houter front back).mpr ⟨⟨ordinals₁, h₁⟩, ordinals₂, h₂⟩
    rw [Tree.itemsAt_withItems hbefore] at hfront hback
    have htuples := List.forall_mem_append.mpr ⟨hfront, hback⟩
    refine ⟨source, by rw [Tree.itemsAt_withItems hbefore]; exact htuples, ordinals, hordinals, ?_⟩
    exact (forall₂_grid_append_iff hbefore houter htuples hordinals h₁ h₂).mpr ⟨first, second, hfirst, hsecond, rfl⟩

/-- A batch has rows exactly if both of its parts have. They are those of the front followed by those of the
back, in which every bind parameter without a number of its own comes behind the bind parameters of the
front; nothing else changes. -/
theorem rows_append_iff {statement : Statement} {front back : List Tree}
    (hbatch : statement.rowSource.slot "expressions" = .list (front ++ back))
    (houter : (statement.withTuples []).rowSource.parameters = []) (keyPositions : List Int) (rows : List Row) :
    (statement.rows keyPositions).outcome = .ok rows ↔
      ∃ first second, ((statement.withTuples front).rows keyPositions).outcome = .ok first ∧
        ((statement.withTuples back).rows keyPositions).outcome = .ok second ∧
        rows = first ++ movedRows (front.flatMap Tree.parameters).length back second := by
  obtain ⟨kind, before, after, comments, hbefore, hsource, hset⟩ := Tree.exists_withItems hbatch
  have hparts : ∀ tuples, (statement.withTuples tuples).rowSource = .withItems kind before after comments tuples :=
    fun tuples => (rowSource_withTuples hbatch).trans (hset tuples)
  have hgrammar : ∀ tuples, (statement.withTuples tuples).grammar = statement.grammar := fun _ => rfl
  rw [hparts] at houter
  simp only [rows_eq_ok_iff_hasRows, isA_withTuples, hgrammar, hparts]
  rw [hsource, hasRows_append_iff hbefore houter]
  constructor
  · rintro ⟨root, first, second, hfirst, hsecond, hrows⟩
    exact ⟨first, second, ⟨root, hfirst⟩, ⟨root, hsecond⟩, hrows⟩
  · rintro ⟨first, second, ⟨root, hfirst⟩, ⟨_, hsecond⟩, hrows⟩
    exact ⟨root, first, second, hfirst, hsecond, hrows⟩

/-- Tuples with bind parameters of all sorts, some of them inside of expressions. -/
def mixedTuples : List Tree :=
  let bound : Tree := .bare .placeholder []
  let numbered : Tree := .bare .parameter [("this", .numberLiteral "1")]
  let named : Tree := .bare .placeholder [("this", .text "n")]
  [.tuple [bound, .unary .minus bound], .tuple [bound, numbered], .tuple [.unary .minus bound, named]]

/-- An insertion of these. -/
def mixedBatch : Statement where
  dialect := .postgresql
  sql := "INSERT INTO t VALUES (%s, -%s), (%s, $1), (-%s, %(n)s)"
  tree := .bare .insert [("this", .bare .table [("this", .identifier "t" false)]),
    ("expression", .bare .values [("expressions", .list mixedTuples)])]

/-- Behind the first row the numbered parameter stays and the others move up by two. -/
theorem rows_append_iff_mixed :
    mixedBatch.rowSource.slot "expressions" = .list (mixedTuples.take 1 ++ mixedTuples.drop 1) ∧
      (mixedBatch.withTuples []).rowSource.parameters = [] ∧
      ((mixedBatch.withTuples (mixedTuples.drop 1)).rows []).outcome =
        .ok [[.placeholder 0 none, .placeholder 0 none], [.expression "-%s" "Neg", .placeholder 3 (some "n")]] ∧
      (mixedBatch.rows []).outcome =
        .ok [[.placeholder 0 none, .expression "-%s" "Neg"], [.placeholder 2 none, .placeholder 0 none],
          [.expression "-%s" "Neg", .placeholder 5 (some "n")]] := by
  have hbatch : mixedBatch.rowSource.slot "expressions" = .list (mixedTuples.take 1 ++ mixedTuples.drop 1) := rfl
  have houter : (mixedBatch.withTuples []).rowSource.parameters = [] := rfl
  have hfront : ((mixedBatch.withTuples (mixedTuples.take 1)).rows []).outcome =
      .ok [[.placeholder 0 none, .expression "-%s" "Neg"]] := by cbv
  have hback : ((mixedBatch.withTuples (mixedTuples.drop 1)).rows []).outcome =
      .ok [[.placeholder 0 none, .placeholder 0 none], [.expression "-%s" "Neg", .placeholder 3 (some "n")]] := by cbv
  have hmoved : movedRows (List.flatMap Tree.parameters (mixedTuples.take 1)).length (mixedTuples.drop 1)
      [[.placeholder 0 none, .placeholder 0 none], [.expression "-%s" "Neg", .placeholder 3 (some "n")]] =
      [[.placeholder 2 none, .placeholder 0 none], [.expression "-%s" "Neg", .placeholder 5 (some "n")]] := by cbv
  refine ⟨hbatch, houter, hback, (rows_append_iff hbatch houter [] _).mpr ⟨_, _, hfront, hback, ?_⟩⟩
  rw [hmoved]
  rfl

end Statement

end SqlInsert
