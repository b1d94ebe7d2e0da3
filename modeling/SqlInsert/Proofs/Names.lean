import SqlInsert.Insert.Statement
import SqlInsert.Proofs.Outcome
/-!
# The target and the names of a statement

The target of an insertion is a table, with or without a column list around it. Lists of names are
answered only as a whole: each entry has to be a plain reference, and the first that is none is refused.
-/

namespace SqlInsert

namespace Statement

/-- Whether a node is a plain reference by name. -/
def isReference (tree : Tree) : Bool :=
  tree.kind?.any Kind.isName

/-- The outcome of asking for the name of one entry. -/
def nameOutcome (grammar : Grammar) (position : Position) (tree : Tree) : Except Failure String :=
  if isReference tree then .ok (tree.sql grammar) else .error (.recognition (.unrecognized tree position))

/-- Names are resolved one after the other, up to the first that is refused. -/
theorem outcome_names (grammar : Grammar) (position : Position) (trees : List Tree) :
    (names grammar position trees).outcome = trees.mapM (nameOutcome grammar position) := by
  induction trees with
  | nil => rfl
  | cons tree rest ih =>
    rw [names, List.mapM_cons, ← ih]
    unfold nameOutcome isReference
    cases tree.kind?.any Kind.isName with
    | false => rfl
    | true =>
      simp only [if_true, Logged.outcome_bind, Logged.outcome_pure, ok_bind]
      rfl

/-- A tree gives a name exactly where it is a reference. -/
theorem exists_nameOutcome_iff {grammar : Grammar} {position : Position} {tree : Tree} :
    (∃ text, nameOutcome grammar position tree = .ok text) ↔ isReference tree = true := by
  unfold nameOutcome
  cases isReference tree <;> simp only [Bool.false_eq_true, if_false, if_true, reduceCtorEq, exists_false,
    Except.ok.injEq, exists_eq']

/-- All names are there exactly when every entry is a plain reference. -/
theorem exists_names_iff {grammar : Grammar} {position : Position} {trees : List Tree} :
    (∃ texts, (names grammar position trees).outcome = .ok texts) ↔
      ∀ tree ∈ trees, isReference tree = true := by
  rw [outcome_names, exists_mapM_iff]
  simp only [exists_nameOutcome_iff]

/-- The first entry that is no plain reference is refused. -/
theorem names_eq_error_iff {grammar : Grammar} {position : Position} {trees : List Tree} {failure : Failure} :
    (names grammar position trees).outcome = .error failure ↔
      ∃ tree, IsFirst (fun tree => isReference tree = true) trees tree ∧
        failure = .recognition (.unrecognized tree position) := by
  rw [outcome_names, mapM_eq_error_iff]
  simp only [exists_nameOutcome_iff]
  refine exists_congr fun tree => and_congr_right fun hfirst => ?_
  unfold nameOutcome
  rw [if_neg hfirst.not_holds, Except.error.injEq]
  exact eq_comm

/-- The names of plain references are given as they are written. -/
theorem names_eq_of_references {grammar : Grammar} {position : Position} {trees : List Tree}
    (h : ∀ tree ∈ trees, isReference tree = true) :
    (names grammar position trees).outcome = .ok (trees.map (·.sql grammar)) := by
  rw [outcome_names, mapM_eq_ok_iff, List.forall₂_map_right_iff, List.forall₂_same]
  exact fun tree htree => if_pos (h tree htree)

/-- The table that rows are inserted into, behind its column list. -/
def targetTable (statement : Statement) : Tree :=
  let target := statement.tree.slot "this"
  if target.isA .schema then target.slot "this" else target

/-- The entries of the column list of an insertion into a table. -/
def columnList (statement : Statement) : List Tree :=
  let target := statement.tree.slot "this"
  if target.isA .schema then target.itemsAt "expressions"
  else
    let given := target.slot "alias"
    if given.isA .tableAlias then given.itemsAt "columns" else []

/-- Whether a statement says what is assigned where a key exists already. -/
def updatesDuplicates (statement : Statement) : Bool :=
  let conflict := statement.tree.slot "conflict"
  conflict.isA .onConflict && (conflict.slot "duplicate").isGiven

/-- The nodes that stand for what is assigned there. -/
def assignedNodes (statement : Statement) : List Tree :=
  if statement.updatesDuplicates then
    ((statement.tree.slot "conflict").itemsAt "expressions").map assignedNode
  else []

/-- The table of an insertion is its target, where the target is a table at all. -/
theorem table_eq (statement : Statement) :
    statement.table =
      if statement.tree.isA .insert then
        if statement.targetTable.isA .table then .ok statement.targetTable
        else .error (.unrecognized statement.targetTable .target)
      else .error (.notInsert statement.tree) := by
  unfold table target root targetTable
  cases statement.tree.isA .insert <;> rfl

/-- There is a table exactly in an insertion into one. -/
theorem exists_table_iff (statement : Statement) :
    (∃ table, statement.table = .ok table) ↔
      statement.tree.isA .insert = true ∧ statement.targetTable.isA .table = true := by
  rw [table_eq]
  cases statement.tree.isA .insert with
  | false => simp only [Bool.false_eq_true, if_false, reduceCtorEq, exists_false, false_and]
  | true =>
    cases statement.targetTable.isA .table <;>
      simp only [Bool.false_eq_true, if_false, if_true, reduceCtorEq, exists_false, and_false, and_self,
        Except.ok.injEq, exists_eq']

/-- Whether the target is a table or has a column list of its own. -/
def takesColumns (statement : Statement) : Bool :=
  let target := statement.tree.slot "this"
  target.isA .schema || target.isA .table

/-- The entries of the column list are there if an insertion has a target that takes columns. -/
theorem columnNodes_eq {statement : Statement} (hroot : statement.tree.isA .insert = true) :
    statement.columnNodes =
      if statement.takesColumns then .ok statement.columnList
      else .error (.unrecognized (statement.tree.slot "this") .target) := by
  have htarget : statement.target = .ok (statement.tree.slot "this") := by
    unfold target root
    rw [if_pos hroot]
    rfl
  have htakes : statement.takesColumns =
      ((statement.tree.slot "this").isA .schema || (statement.tree.slot "this").isA .table) := rfl
  unfold columnNodes columnList
  dsimp only
  rw [htarget, ok_bind, htakes]
  cases hschema : (statement.tree.slot "this").isA .schema with
  | true => rfl
  | false =>
    rw [table_eq, if_pos hroot]
    unfold targetTable
    simp only [hschema, Bool.false_eq_true, if_false, Bool.false_or]
    cases (statement.tree.slot "this").isA .table <;> rfl

/-- Where the table is found, the column list is answered. -/
theorem columnNodes_of_table {statement : Statement} {table : Tree} (h : statement.table = .ok table) :
    statement.columnNodes = .ok statement.columnList := by
  obtain ⟨hroot, htable⟩ := (exists_table_iff statement).mp ⟨table, h⟩
  rw [columnNodes_eq hroot, if_pos]
  unfold takesColumns
  unfold targetTable at htable
  dsimp only at htable ⊢
  cases hschema : (statement.tree.slot "this").isA .schema with
  | true => rfl
  | false => simpa only [hschema, Bool.false_eq_true, if_false, Bool.false_or] using htable

/-- The columns that are answered are the names in the column list, if there is one. -/
theorem outcome_columns_of_nodes {statement : Statement} {nodes : List Tree} (h : statement.columnNodes = .ok nodes) :
    statement.columns.outcome =
      (names statement.grammar .columnList nodes).outcome.map fun texts =>
        if nodes.isEmpty then none else some texts := by
  unfold columns
  rw [h]
  cases nodes with
  | nil => rfl
  | cons node rest =>
    simp only [Logged.outcome_bind, Logged.outcome_note, Logged.outcome_pure, ok_bind]
    cases (names statement.grammar .columnList (node :: rest)).outcome <;> rfl

/-- The columns of an insertion into a table are the names in its column list, if it has one. -/
theorem outcome_columns {statement : Statement} {table : Tree} (h : statement.table = .ok table) :
    statement.columns.outcome =
      (names statement.grammar .columnList statement.columnList).outcome.map fun texts =>
        if statement.columnList.isEmpty then none else some texts :=
  outcome_columns_of_nodes (columnNodes_of_table h)

/-- There are columns exactly if every entry of the column list is a plain reference. -/
theorem exists_columns_iff {statement : Statement} {table : Tree} (h : statement.table = .ok table) :
    (∃ columns, statement.columns.outcome = .ok columns) ↔
      ∀ node ∈ statement.columnList, isReference node = true := by
  rw [outcome_columns h, exists_map_eq_ok_iff, exists_names_iff]

/-- The first entry of the column list that is no plain reference is refused. -/
theorem columns_eq_error_iff {statement : Statement} {table : Tree} (h : statement.table = .ok table)
    {failure : Failure} :
    statement.columns.outcome = .error failure ↔
      ∃ node, IsFirst (fun node => isReference node = true) statement.columnList node ∧
        failure = .recognition (.unrecognized node .columnList) := by
  rw [outcome_columns h, map_eq_error_iff, names_eq_error_iff]

/-- What an insertion assigns where a key exists already are the names of the assigned nodes. -/
theorem outcome_duplicateKeyUpdate {statement : Statement} (h : statement.tree.isA .insert = true) :
    statement.duplicateKeyUpdate.outcome =
      (names statement.grammar .duplicateKeyUpdate statement.assignedNodes).outcome.map fun texts =>
        if statement.updatesDuplicates then some texts else none := by
  unfold duplicateKeyUpdate root assignedNodes
  simp only [if_pos h]
  change Logged.outcome (if statement.updatesDuplicates = true then _ else _) = _
  cases statement.updatesDuplicates with
  | false => rfl
  | true =>
    simp only [if_true, Logged.outcome_bind, Logged.outcome_pure]
    cases (names statement.grammar .duplicateKeyUpdate _).outcome <;> rfl

/-- The first assigned node that is no plain reference is refused. -/
theorem duplicateKeyUpdate_eq_error_iff {statement : Statement} (h : statement.tree.isA .insert = true)
    {failure : Failure} :
    statement.duplicateKeyUpdate.outcome = .error failure ↔
      ∃ node, IsFirst (fun node => isReference node = true) statement.assignedNodes node ∧
        failure = .recognition (.unrecognized node .duplicateKeyUpdate) := by
  rw [outcome_duplicateKeyUpdate h, map_eq_error_iff, names_eq_error_iff]

end Statement

end SqlInsert
