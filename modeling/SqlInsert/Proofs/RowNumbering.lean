import SqlInsert.Proofs.RowDecision
/-!
# The bind parameters among the elements

The bind parameters are numbered through the whole list of values, and the rows read the numbers under
the places of their elements. Both meet: an element that is a bind parameter stands in the list of bind
parameters, its value carries its own ordinal, and no other value is that of a bind parameter. Without
numbers of their own the ordinals rise from row to row and leave out those inside of expressions.
-/

namespace SqlInsert

/-- The members of a row that are selected in two ways are related one by one if the selections agree
on related members. -/
theorem forall₂_filter_filterMap {α β γ : Type} {relation : α → β → Prop} {kept : α → γ → Prop}
    {isKept : α → Bool} {keep : β → Option γ} {list : List α} {values : List β}
    (h : List.Forall₂ relation list values)
    (hkept : ∀ member value, relation member value → isKept member = true →
      ∃ result, keep value = some result ∧ kept member result)
    (hother : ∀ member value, relation member value → isKept member = false → keep value = none) :
    List.Forall₂ kept (list.filter isKept) (values.filterMap keep) := by
  induction h with
  | nil => exact .nil
  | @cons member value _ _ hhead _ ih =>
    rw [List.filter_cons, List.filterMap_cons]
    cases hmember : isKept member with
    | false =>
      rw [hother member value hhead hmember]
      exact ih
    | true =>
      obtain ⟨result, hresult, hrelated⟩ := hkept member value hhead hmember
      rw [hresult]
      exact .cons hrelated ih

/-- Members selected with their positions are found in these positions. -/
theorem getElem?_of_sublist_zipIdx {α : Type} {list : List α} {entries : List (α × Nat)}
    (h : entries.Sublist list.zipIdx) : ∀ entry ∈ entries, list[entry.2]? = some entry.1 :=
  fun _ hentry => List.mk_mem_zipIdx_iff_getElem?.mp (h.subset hentry)

namespace Tree

/-- A tree of a kind is a node. -/
theorem isNode_of_isA {tree : Tree} {kind : Kind} (h : tree.isA kind = true) : tree.isNode = true := by
  cases tree with
  | node kind slots comments => rfl
  | _ => cases h

/-- A bind parameter has one position. -/
theorem parameters_position_unique {root : Tree} {first second : Nat} {cell : Place × Tree}
    (hfirst : root.parameters[first]? = some cell) (hsecond : root.parameters[second]? = some cell) :
    first = second := by
  obtain ⟨hlt, _⟩ := List.getElem?_eq_some_iff.mp hfirst
  exact (List.getElem?_inj hlt root.parameters_nodup).mp (hfirst.trans hsecond.symm)

end Tree

/-- The index of the value of a bind parameter. -/
def Value.index? : Value → Option Int
  | .placeholder index _ => some index
  | _ => none

/-- The indices of the bind parameters in rows, row by row. -/
def rowIndices (rows : List Row) : List Int :=
  rows.flatten.filterMap Value.index?

namespace Statement

/-- The bind parameters among the elements of the rows. -/
def boundElements (values : Tree) : List (Place × Tree) :=
  (grid values).flatten.filter (·.2.isParameter)

/-- What the value of an element owes to the numbering of the bind parameters. -/
structure FollowsNumbering (values : Tree) (cell : Place × Tree) (value : Value) : Prop where
  /-- A bind parameter is counted. -/
  counted : cell.2.isParameter = true → cell ∈ values.parameters
  /-- The bind parameter in a position carries its ordinal there. -/
  bound : ∀ position, values.parameters[position]? = some cell →
    ∃ ordinal, cell.2.ordinalAt position = .ok ordinal ∧ value = .placeholder ordinal cell.2.boundName?
  /-- No other element has a value of this sort. -/
  other : cell ∉ values.parameters → value.kind ≠ .placeholder

/-- The elements of a tuple are its items, placed under its step. -/
theorem elements_eq_under (step : Step) (tuple : Tree) :
    elements step tuple =
      under step ((tuple.itemSteps "expressions").map fun child => ([child.1], child.2)) := by
  unfold elements under
  rw [List.map_map]
  rfl

section

variable {values : Tree} {ordinals : Ordinals} {rows : List Row} {cell : Place × Tree} {position : Nat}
variable {entries : List ((Place × Tree) × Nat)}

/-- The elements that are bind parameters are among the bind parameters of the list of values, in the
same order. -/
theorem boundElements_sublist (hvalues : values.isA .values = true)
    (htuples : ∀ item ∈ values.itemsAt "expressions", item.isA .tuple = true) :
    (boundElements values).Sublist values.parameters := by
  have hnodes : ((grid values).flatten.filter (·.2.isNode)).Sublist values.nodes := by
    refine List.Sublist.trans ?_ (Tree.itemNodes_sublist_nodes "expressions" (Tree.isNode_of_isA hvalues))
    rw [grid_eq, ← List.flatMap_def, List.filter_flatMap]
    -- The elements of a tuple are among the nodes of the tuple, as its items.
    refine List.Sublist.flatMap_right _ fun step hstep => ?_
    rw [← itemSteps_snd] at htuples
    have htuple := Tree.isNode_of_isA (htuples step.2 (List.mem_map_of_mem hstep))
    have hinner := Tree.items_sublist_nodes "expressions" htuple
    rw [elements_eq_under, under, List.filter_map]
    exact hinner.map _
  have hfilter := hnodes.filter (·.2.isParameter)
  rw [List.filter_filter] at hfilter
  have hbound : boundElements values =
      (grid values).flatten.filter fun cell => cell.2.isParameter && cell.2.isNode := by
    refine List.filter_congr fun cell _ => ?_
    cases hparameter : cell.2.isParameter with
    | false => rfl
    | true => rw [Tree.isNode_of_isParameter hparameter]; rfl
  rw [hbound]
  exact hfilter

/-- An element that is a bind parameter is among those numbered. -/
theorem mem_parameters_of_element (hbound : (boundElements values).Sublist values.parameters)
    (hcell : cell ∈ (grid values).flatten) (hparameter : cell.2.isParameter = true) :
    cell ∈ values.parameters :=
  hbound.subset (List.mem_filter.mpr ⟨hcell, hparameter⟩)

/-- The number of an element can be read where the whole list of values is numbered. -/
theorem numberFault?_of_element (hordinals : values.ordinals = .ok ordinals)
    (hbound : (boundElements values).Sublist values.parameters)
    (hcell : cell ∈ (grid values).flatten) : cell.2.numberFault? = none := by
  cases hparameter : cell.2.isParameter with
  | false => exact Tree.numberFault?_of_not_isParameter hparameter
  | true =>
    have hnode := (List.mem_filter.mp (mem_parameters_of_element hbound hcell hparameter)).1
    exact (Tree.exists_ordinals_iff values).mp ⟨ordinals, hordinals⟩ cell hnode

/-- Every element resolves as its sort says. -/
theorem resolvesAs_element (hordinals : values.ordinals = .ok ordinals)
    (hbound : (boundElements values).Sublist values.parameters)
    (hcell : cell ∈ (grid values).flatten) (grammar : Grammar) :
    ∃ kind, cell.2.valueKind = .ok kind ∧
      cell.2.ResolvesAs grammar kind (cellOutcome grammar ordinals cell) := by
  obtain ⟨kind, hkind⟩ := Tree.exists_valueKind (numberFault?_of_element hordinals hbound hcell)
  refine ⟨kind, hkind, resolvesAs_resolveAt hkind fun hplaceholder => ?_⟩
  rw [hplaceholder] at hkind
  have hparameter := Tree.isParameter_of_valueKind hkind
  exact Tree.exists_lookup_ordinals hordinals (mem_parameters_of_element hbound hcell hparameter)

/-- A bind parameter among the elements resolves to its ordinal. -/
theorem cellOutcome_of_parameter (hordinals : values.ordinals = .ok ordinals)
    (hcell : values.parameters[position]? = some cell) (grammar : Grammar) :
    ∃ ordinal, cell.2.ordinalAt position = .ok ordinal ∧
      cellOutcome grammar ordinals cell = .ok (.placeholder ordinal cell.2.boundName?) := by
  obtain ⟨ordinal, hordinal, hlookup⟩ := Tree.lookup_ordinals hordinals hcell
  obtain ⟨hnode, hparameter⟩ := List.mem_filter.mp (List.mem_of_getElem? hcell)
  have hfault := (Tree.exists_ordinals_iff values).mp ⟨ordinals, hordinals⟩ cell hnode
  have hkind := Tree.valueKind_of_isParameter hparameter hfault
  refine ⟨ordinal, hordinal, ?_⟩
  unfold cellOutcome resolveAt
  simp only [hkind, hlookup]
  rfl

/-- The values of all elements follow the numbering. -/
theorem followsNumbering_rows {grammar : Grammar} (hordinals : values.ordinals = .ok ordinals)
    (hbound : (boundElements values).Sublist values.parameters)
    (hrows : List.Forall₂ (List.Forall₂ fun cell value => cellOutcome grammar ordinals cell = .ok value)
      (grid values) rows) :
    List.Forall₂ (List.Forall₂ (FollowsNumbering values)) (grid values) rows := by
  have hlisted : ∀ cells ∈ grid values, ∀ cell ∈ cells, cell ∈ (grid values).flatten :=
    fun cells hcells cell hcell => List.mem_flatten.mpr ⟨cells, hcells, hcell⟩
  refine ((List.forall₂_and_left _ _).mpr ⟨hlisted, hrows⟩).imp fun cells row hrow => ?_
  refine ((List.forall₂_and_left _ _).mpr hrow).imp fun cell value hcell => ?_
  obtain ⟨helement, hvalue⟩ := hcell
  have hcounted : cell.2.isParameter = true → cell ∈ values.parameters :=
    mem_parameters_of_element hbound helement
  refine ⟨hcounted, ?_, ?_⟩
  · intro position hposition
    obtain ⟨ordinal, hordinal, hresolved⟩ := cellOutcome_of_parameter hordinals hposition grammar
    rw [hvalue] at hresolved
    exact ⟨ordinal, hordinal, Except.ok.inj hresolved⟩
  · intro hnot hsort
    obtain ⟨kind, hkind, hresolves⟩ := resolvesAs_element hordinals hbound helement grammar
    rw [← hresolves.kind_eq hvalue, hsort] at hkind
    exact hnot (hcounted (Tree.isParameter_of_valueKind hkind))

/-- Without a number of its own a bind parameter has its position as its ordinal. -/
theorem index_of_followsNumbering {value : Value} (h : FollowsNumbering values cell value)
    (hparameter : cell.2.isParameter = true) (hunnumbered : cell.2.isNumbered = false) :
    ∃ index, value.index? = some index ∧
      ∀ position : Nat, values.parameters[position]? = some cell → index = (position : Int) := by
  obtain ⟨position, hposition⟩ := List.getElem?_of_mem (h.counted hparameter)
  obtain ⟨ordinal, hordinal, rfl⟩ := h.bound position hposition
  refine ⟨ordinal, rfl, fun other hother => ?_⟩
  unfold Tree.ordinalAt at hordinal
  rw [hunnumbered] at hordinal
  cases hordinal
  rw [Tree.parameters_position_unique hother hposition]

/-- Only a bind parameter gets an index. -/
theorem index_of_other {value : Value} (h : FollowsNumbering values cell value)
    (hparameter : cell.2.isParameter = false) : value.index? = none := by
  have hnot : cell ∉ values.parameters := by
    intro hmem
    rw [(List.mem_filter.mp hmem).2] at hparameter
    cases hparameter
  cases value with
  | placeholder index name => exact absurd rfl (h.other hnot)
  | _ => rfl

/-- Without numbers of their own the indices in the rows are the positions of the elements among the bind
parameters. -/
theorem rowIndices_eq_positions (hunnumbered : ∀ cell ∈ values.parameters, cell.2.isNumbered = false)
    (hbound : (boundElements values).Sublist values.parameters)
    (hrows : List.Forall₂ (List.Forall₂ (FollowsNumbering values)) (grid values) rows) :
    ∃ entries : List ((Place × Tree) × Nat), entries.Sublist values.parameters.zipIdx ∧
      boundElements values = entries.map Prod.fst ∧
      rowIndices rows = entries.map fun entry => (entry.2 : Int) := by
  -- Selecting bind parameters in order selects their positions in order.
  have hpositions := hbound
  rw [← List.zipIdx_map_fst 0 values.parameters, List.sublist_map_iff] at hpositions
  obtain ⟨entries, hentries, hfst⟩ := hpositions
  have hindices : List.Forall₂
      (fun cell index => ∀ position : Nat, values.parameters[position]? = some cell → index = (position : Int))
      (boundElements values) (rowIndices rows) := by
    refine forall₂_filter_filterMap (List.rel_flatten hrows) ?_ fun _ _ hvalue => index_of_other hvalue
    intro cell value hvalue hparameter
    exact index_of_followsNumbering hvalue hparameter (hunnumbered cell (hvalue.counted hparameter))
  refine ⟨entries, hentries, hfst, ?_⟩
  rw [hfst, List.forall₂_map_left_iff] at hindices
  have hmem := getElem?_of_sublist_zipIdx hentries
  rw [← List.forall₂_eq_eq_eq, List.forall₂_map_right_iff]
  have hequal := (List.forall₂_and_left _ _).mpr ⟨hmem, hindices⟩
  exact (hequal.imp fun entry index hentry => hentry.2 entry.2 hentry.1).flip

/-- The position of a bind parameter is an index in the rows exactly if it is an element itself. -/
theorem mem_rowIndices_iff (hentries : entries.Sublist values.parameters.zipIdx)
    (hfst : boundElements values = entries.map Prod.fst)
    (hindices : rowIndices rows = entries.map fun entry => (entry.2 : Int))
    (hcell : values.parameters[position]? = some cell) :
    (position : Int) ∈ rowIndices rows ↔ cell ∈ (grid values).flatten := by
  have hparameter := (List.mem_filter.mp (List.mem_of_getElem? hcell)).2
  have hmem := getElem?_of_sublist_zipIdx hentries
  rw [hindices, List.mem_map]
  constructor
  · rintro ⟨entry, hentry, heq⟩
    have hsame := hmem entry hentry
    rw [Int.ofNat.inj heq, hcell] at hsame
    have hbound : entry.1 ∈ boundElements values := by
      rw [hfst]
      exact List.mem_map.mpr ⟨entry, hentry, rfl⟩
    rw [Option.some.inj hsame]
    exact (List.mem_filter.mp hbound).1
  · intro helement
    have hbound : cell ∈ boundElements values := List.mem_filter.mpr ⟨helement, hparameter⟩
    rw [hfst] at hbound
    obtain ⟨entry, hentry, rfl⟩ := List.mem_map.mp hbound
    exact ⟨entry, hentry, congrArg Int.ofNat (Tree.parameters_position_unique (hmem entry hentry) hcell)⟩

/-- Indices that are positions of selected bind parameters rise strictly and stay below their number. -/
theorem positions_rise (hentries : entries.Sublist values.parameters.zipIdx) :
    (entries.map fun entry => (entry.2 : Int)).Pairwise (· < ·) ∧
      ∀ index ∈ entries.map fun entry => (entry.2 : Int), 0 ≤ index ∧ index < values.parameters.length := by
  have hpositions : (entries.map Prod.snd).Sublist (List.range' 0 values.parameters.length) := by
    rw [← List.zipIdx_map_snd]
    exact hentries.map _
  constructor
  · have hrise : (entries.map Prod.snd).Pairwise (· < ·) :=
      List.Pairwise.sublist hpositions List.pairwise_lt_range'
    exact List.pairwise_map.mpr ((List.pairwise_map.mp hrise).imp fun hlt => Int.ofNat_lt.mpr hlt)
  · intro index hindex
    obtain ⟨entry, hentry, rfl⟩ := List.mem_map.mp hindex
    have hrange := List.mem_range'_1.mp (hpositions.subset (List.mem_map_of_mem hentry))
    exact ⟨Int.natCast_nonneg entry.2, by omega⟩

end

/-- The rows of a statement follow the numbering of its bind parameters. Without numbers of their own the
indices rise strictly through the rows, stay below the number of bind parameters, and leave out
exactly the positions of those that are no elements themselves. -/
theorem rows_follow_numbering {statement : Statement} {keyPositions : List Int} {rows : List Row}
    (h : (statement.rows keyPositions).outcome = .ok rows) :
    ∃ values ordinals, statement.values = .ok values ∧ values.ordinals = .ok ordinals ∧
      (∀ (position : Nat) (cell : Place × Tree), values.parameters[position]? = some cell →
        ∃ ordinal, cell.2.ordinalAt position = .ok ordinal ∧ ordinals.lookup cell.1 = some ordinal) ∧
      List.Forall₂ (List.Forall₂ (FollowsNumbering values)) (grid values) rows ∧
      ((∀ cell ∈ values.parameters, cell.2.isNumbered = false) →
        (rowIndices rows).Pairwise (· < ·) ∧
        (∀ index ∈ rowIndices rows, 0 ≤ index ∧ index < values.parameters.length) ∧
        ∀ (position : Nat) (cell : Place × Tree), values.parameters[position]? = some cell →
          ((position : Int) ∉ rowIndices rows ↔ cell ∉ (grid values).flatten)) := by
  have hdecided := rowsDecision_outcome statement keyPositions
  rw [h] at hdecided
  cases hdecided with
  | @rows ordinals rows root source numbers tuples resolved =>
    have hbound := boundElements_sublist source tuples
    have hrows := followsNumbering_rows numbers hbound resolved
    refine ⟨statement.rowSource, ordinals, ?_, numbers, ?_, hrows, fun hunnumbered => ?_⟩
    · rw [values_eq, if_pos root, if_pos source]
    · exact fun position cell hcell => Tree.lookup_ordinals numbers hcell
    · obtain ⟨entries, hentries, hfst, hindices⟩ := rowIndices_eq_positions hunnumbered hbound hrows
      obtain ⟨hrise, hrange⟩ := positions_rise hentries
      rw [← hindices] at hrise hrange
      refine ⟨hrise, hrange, fun position cell hcell => ?_⟩
      exact not_congr (mem_rowIndices_iff hentries hfst hindices hcell)

/-- An insertion of two rows with a bind parameter inside of an expression in the first. -/
def nestedBinding : Statement where
  dialect := .mysql
  sql := "INSERT INTO t VALUES (?, -?), (?)"
  tree :=
    let bound : Tree := .bare .placeholder []
    let rows : Tree := .list [.tuple [bound, .unary .minus bound], .tuple [bound]]
    .bare .insert [("this", .bare .table [("this", .identifier "t" false)]),
      ("expression", .bare .values [("expressions", rows)])]

/-- Its rows leave out the index in the middle. -/
def nestedBindingRows : List Row :=
  [[.placeholder 0 none, .expression "-?" "Neg"], [.placeholder 2 none]]

/-- The parameter inside of the expression takes a position, which no row shows. -/
theorem rows_follow_numbering_nested :
    (nestedBinding.rows []).outcome = .ok nestedBindingRows ∧
      ∃ values ordinals, nestedBinding.values = .ok values ∧ values.ordinals = .ok ordinals ∧
        (∀ cell ∈ values.parameters, cell.2.isNumbered = false) ∧
        List.Forall₂ (List.Forall₂ (FollowsNumbering values)) (grid values) nestedBindingRows ∧
        (rowIndices nestedBindingRows).Pairwise (· < ·) ∧
        ∀ (position : Nat) (cell : Place × Tree), values.parameters[position]? = some cell →
          ((position : Int) ∉ rowIndices nestedBindingRows ↔ cell ∉ (grid values).flatten) := by
  have hrows : (nestedBinding.rows []).outcome = .ok nestedBindingRows := rfl
  refine ⟨hrows, ?_⟩
  obtain ⟨values, ordinals, hvalues, hordinals, _, hfollow, hindices⟩ := rows_follow_numbering hrows
  have hunnumbered : ∀ cell ∈ values.parameters, cell.2.isNumbered = false := by
    cases hvalues
    decide
  obtain ⟨hrise, _, hskipped⟩ := hindices hunnumbered
  exact ⟨values, ordinals, hvalues, hordinals, hunnumbered, hfollow, hrise, hskipped⟩

end Statement

end SqlInsert
