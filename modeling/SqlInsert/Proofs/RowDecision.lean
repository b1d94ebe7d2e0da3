import SqlInsert.Insert.Statement
import SqlInsert.Proofs.Resolution
/-!
# What decides the question for the rows

The rows of a statement are asked for in three passes: the bind parameters below the list of values are
numbered, its items are checked to be tuples, and the elements are resolved row by row. The outcome is
that of the first circumstance that applies, whatever else is wrong, and without any of them it is one
value for each element.
-/

namespace SqlInsert

namespace Statement

/-- What the rows come from. -/
def rowSource (statement : Statement) : Tree :=
  statement.tree.slot "expression"

/-- The step down to an item of a list slot. -/
def itemStep (name : String) (tree : Tree) (index : Nat) : Step :=
  ⟨tree.slots.findIdx fun slot => slot.1 == name, some index⟩

/-- The elements of the tuples as they are written, row by row, each with its place below the list of values. -/
def grid (values : Tree) : List (List (Place × Tree)) :=
  (values.itemsAt "expressions").zipIdx.map fun (tuple, row) =>
    (tuple.itemsAt "expressions").zipIdx.map fun (element, column) =>
      ([itemStep "expressions" values row, itemStep "expressions" tuple column], element)

/-- The outcome of resolving an element with the ordinals around it. -/
def cellOutcome (grammar : Grammar) (ordinals : Ordinals) (cell : Place × Tree) : Except Failure Value :=
  (resolveAt grammar ordinals cell.1 cell.2).outcome

/-- Behind the steps stand the items, in their order. -/
theorem itemSteps_snd (name : String) (tree : Tree) :
    (tree.itemSteps name).map Prod.snd = tree.itemsAt name := by
  unfold Tree.itemSteps
  rw [List.map_map]
  exact List.zipIdx_map_fst 0 _

/-- The elements that are resolved are those of the grid. -/
theorem grid_eq (values : Tree) :
    grid values = (values.itemSteps "expressions").map fun step => elements step.1 step.2 := by
  rw [grid, Tree.itemSteps, List.map_map]
  refine List.map_congr_left fun row _ => ?_
  rw [Function.comp_apply, elements, Tree.itemSteps, List.map_map]
  rfl

/-- The grid holds the elements of the tuples as they are written. -/
theorem grid_snd (values : Tree) :
    (grid values).map (·.map Prod.snd) = (values.itemsAt "expressions").map (·.itemsAt "expressions") := by
  rw [← itemSteps_snd, grid_eq, List.map_map, List.map_map]
  refine List.map_congr_left fun step _ => ?_
  rw [Function.comp_apply, Function.comp_apply, ← itemSteps_snd, elements, List.map_map]
  rfl

/-- The values of a row are resolved element by element. -/
theorem outcome_rowValues (grammar : Grammar) (ordinals : Ordinals) (cells : List (Place × Tree)) :
    (rowValues grammar ordinals cells).outcome = cells.mapM (cellOutcome grammar ordinals) := by
  induction cells with
  | nil => rfl
  | cons cell rest ih =>
    rw [rowValues, List.mapM_cons, ← ih]
    simp only [Logged.outcome_bind, Logged.outcome_pure]
    rfl

/-- The values of all rows are resolved row by row. -/
theorem outcome_rowsValues (grammar : Grammar) (ordinals : Ordinals) (steps : List (Step × Tree)) :
    (rowsValues grammar ordinals steps).outcome =
      (steps.map fun step => elements step.1 step.2).mapM (·.mapM (cellOutcome grammar ordinals)) := by
  induction steps with
  | nil => rfl
  | cons step rest ih =>
    rw [rowsValues, List.map_cons, List.mapM_cons, ← ih]
    simp only [Logged.outcome_bind, Logged.outcome_pure, outcome_rowValues]
    rfl

/-- The tuples of a list of values are all of its items, and each of them is a tuple. -/
theorem tuples_eq_ok_iff {steps found : List (Step × Tree)} :
    tuples steps = .ok found ↔ found = steps ∧ ∀ item ∈ steps.map Prod.snd, item.isA .tuple = true := by
  induction steps generalizing found with
  | nil =>
    simp only [tuples, Except.ok.injEq, List.map_nil, List.not_mem_nil, false_implies, implies_true, and_true]
    exact eq_comm
  | cons step rest ih =>
    rw [tuples, List.map_cons, List.forall_mem_cons]
    cases hitem : step.2.isA .tuple with
    | false => simp only [Bool.false_eq_true, if_false, reduceCtorEq, false_and, and_false]
    | true =>
      simp only [if_true, true_and]
      cases hrest : tuples rest with
      | error error =>
        simp only [Except.map, reduceCtorEq, false_iff, not_and]
        intro _ hall
        rw [ih.mpr ⟨rfl, hall⟩] at hrest
        cases hrest
      | ok others =>
        obtain ⟨rfl, hall⟩ := ih.mp hrest
        simp only [Except.map, Except.ok.injEq]
        exact ⟨fun h => ⟨h.symm, hall⟩, fun h => h.1.symm⟩

/-- The first item that is no tuple is refused, whatever the tuples before it hold. -/
theorem tuples_of_isFirst {steps : List (Step × Tree)} {item : Tree}
    (h : IsFirst (fun item : Tree => item.isA .tuple = true) (steps.map Prod.snd) item) :
    tuples steps = .error (.unrecognized item .values) := by
  induction steps with
  | nil => exact absurd h (not_isFirst_nil _ item)
  | cons step rest ih =>
    rw [List.map_cons, isFirst_cons] at h
    rw [tuples]
    rcases h with ⟨rfl, hitem⟩ | ⟨hitem, hrest⟩
    · rw [if_neg hitem]
    · rw [if_pos hitem, ih hrest]
      rfl

/-- The values of an insertion are its source, where that is a list of values at all. -/
theorem values_eq (statement : Statement) :
    statement.values =
      if statement.tree.isA .insert then
        if statement.rowSource.isA .values then .ok statement.rowSource
        else .error (.notValues statement.rowSource)
      else .error (.notInsert statement.tree) := by
  unfold values root rowSource
  split <;> rfl

/-- The three passes of the question for the rows, without the journal. -/
theorem outcome_rows (statement : Statement) (keyPositions : List Int) :
    (statement.rows keyPositions).outcome = (do
      let values ← statement.values.mapError .recognition
      let ordinals ← values.ordinals.mapError .conversion
      let found ← (tuples (values.itemSteps "expressions")).mapError .recognition
      (found.map fun step => elements step.1 step.2).mapM
        (·.mapM (cellOutcome statement.grammar ordinals))) := by
  unfold rows resolveRows refuse
  simp only [Logged.outcome_bind, Logged.outcome_note, ok_bind]
  cases statement.values with
  | error error => rfl
  | ok values =>
    simp only [Except.mapError, ok_bind]
    cases values.ordinals with
    | error error => rfl
    | ok ordinals =>
      simp only [Logged.outcome_bind, Logged.outcome_reporting, ok_bind]
      cases tuples (values.itemSteps "expressions") with
      | error error => rfl
      | ok found =>
        simp only [outcome_rowsValues, ok_bind]
        cases (found.map fun step => elements step.1 step.2).mapM
          (·.mapM (cellOutcome statement.grammar ordinals)) <;> rfl

/-- What the question for the rows comes to, by the first circumstance that applies. -/
inductive RowsDecision (statement : Statement) : Except Failure (List Row) → Prop
  | notInsert (root : statement.tree.isA .insert = false) :
      RowsDecision statement (.error (.recognition (.notInsert statement.tree)))
  | notValues (root : statement.tree.isA .insert = true) (source : statement.rowSource.isA .values = false) :
      RowsDecision statement (.error (.recognition (.notValues statement.rowSource)))
  /-- The number of a bind parameter cannot be read, however deep below the list of values it is. -/
  | unreadableNumber {cell : Place × Tree} {error : ConversionError}
      (root : statement.tree.isA .insert = true) (source : statement.rowSource.isA .values = true)
      (first : IsFirst (fun cell : Place × Tree => cell.2.numberFault? = none) statement.rowSource.nodes cell)
      (fault : cell.2.numberFault? = some error) :
      RowsDecision statement (.error (.conversion error))
  | notTuple {ordinals : Ordinals} {item : Tree} (root : statement.tree.isA .insert = true)
      (source : statement.rowSource.isA .values = true)
      (numbers : statement.rowSource.ordinals = .ok ordinals)
      (first : IsFirst (fun item : Tree => item.isA .tuple = true)
        (statement.rowSource.itemsAt "expressions") item) :
      RowsDecision statement (.error (.recognition (.unrecognized item .values)))
  /-- An element has no value. -/
  | unresolved {ordinals : Ordinals} {cell : Place × Tree} {failure : Failure}
      (root : statement.tree.isA .insert = true) (source : statement.rowSource.isA .values = true)
      (numbers : statement.rowSource.ordinals = .ok ordinals)
      (tuples : ∀ item ∈ statement.rowSource.itemsAt "expressions", item.isA .tuple = true)
      (first : IsFirst (fun cell => ∃ value, cellOutcome statement.grammar ordinals cell = .ok value)
        (grid statement.rowSource).flatten cell)
      (fails : cellOutcome statement.grammar ordinals cell = .error failure) :
      RowsDecision statement (.error failure)
  | rows {ordinals : Ordinals} {rows : List Row} (root : statement.tree.isA .insert = true)
      (source : statement.rowSource.isA .values = true)
      (numbers : statement.rowSource.ordinals = .ok ordinals)
      (tuples : ∀ item ∈ statement.rowSource.itemsAt "expressions", item.isA .tuple = true)
      (resolved : List.Forall₂
        (List.Forall₂ fun cell value => cellOutcome statement.grammar ordinals cell = .ok value)
        (grid statement.rowSource) rows) :
      RowsDecision statement (.ok rows)

/-- A circumstance that applies decides. -/
theorem RowsDecision.outcome_eq {statement : Statement} {outcome : Except Failure (List Row)}
    (h : RowsDecision statement outcome) (keyPositions : List Int) :
    (statement.rows keyPositions).outcome = outcome := by
  rw [outcome_rows, values_eq]
  cases h with
  | notInsert root =>
    simp only [root, Bool.false_eq_true, if_false, Except.mapError, error_bind]
  | notValues root source =>
    simp only [root, source, Bool.false_eq_true, if_true, if_false, Except.mapError, error_bind]
  | unreadableNumber root source first fault =>
    have hordinals : statement.rowSource.ordinals = .error _ :=
      ordinalsFrom_eq_error_iff.mpr ⟨_, first, fault⟩
    simp only [root, source, hordinals, if_true, Except.mapError, ok_bind, error_bind]
  | notTuple root source numbers first =>
    rw [← itemSteps_snd] at first
    simp only [root, source, numbers, tuples_of_isFirst first, if_true, Except.mapError, ok_bind, error_bind]
  | unresolved root source numbers tuples first fails =>
    rw [← itemSteps_snd] at tuples
    simp only [root, source, numbers, tuples_eq_ok_iff.mpr ⟨rfl, tuples⟩, if_true, Except.mapError, ok_bind]
    rw [← grid_eq]
    exact mapM_mapM_eq_error_iff.mpr ⟨_, first, fails⟩
  | rows root source numbers tuples resolved =>
    rw [← itemSteps_snd] at tuples
    simp only [root, source, numbers, tuples_eq_ok_iff.mpr ⟨rfl, tuples⟩, if_true, Except.mapError, ok_bind]
    rw [← grid_eq]
    exact mapM_mapM_eq_ok_iff.mpr resolved

/-- Some circumstance applies to every statement. -/
theorem exists_rowsDecision (statement : Statement) : ∃ outcome, RowsDecision statement outcome := by
  cases root : statement.tree.isA .insert with
  | false => exact ⟨_, .notInsert root⟩
  | true =>
    cases source : statement.rowSource.isA .values with
    | false => exact ⟨_, .notValues root source⟩
    | true =>
      cases numbers : statement.rowSource.ordinals with
      | error error =>
        obtain ⟨cell, first, fault⟩ := ordinalsFrom_eq_error_iff.mp numbers
        exact ⟨_, .unreadableNumber root source first fault⟩
      | ok ordinals =>
        rcases all_or_isFirst (fun item : Tree => item.isA .tuple = true)
          (statement.rowSource.itemsAt "expressions") with tuples | ⟨item, first⟩
        · cases hrows : (grid statement.rowSource).mapM (·.mapM (cellOutcome statement.grammar ordinals)) with
          | error failure =>
            obtain ⟨cell, first, fails⟩ := mapM_mapM_eq_error_iff.mp hrows
            exact ⟨_, .unresolved root source numbers tuples first fails⟩
          | ok rows => exact ⟨_, .rows root source numbers tuples (mapM_mapM_eq_ok_iff.mp hrows)⟩
        · exact ⟨_, .notTuple root source numbers first⟩

/-- The circumstance that applies gives the outcome. -/
theorem rowsDecision_outcome (statement : Statement) (keyPositions : List Int) :
    RowsDecision statement (statement.rows keyPositions).outcome := by
  obtain ⟨outcome, hdecided⟩ := exists_rowsDecision statement
  rw [hdecided.outcome_eq keyPositions]
  exact hdecided

/-- There are rows exactly if the statement inserts tuples of values, its bind parameters can be numbered,
and each element has a value. -/
theorem rows_eq_ok_iff {statement : Statement} {keyPositions : List Int} {rows : List Row} :
    (statement.rows keyPositions).outcome = .ok rows ↔
      statement.tree.isA .insert = true ∧ statement.rowSource.isA .values = true ∧
        (∀ item ∈ statement.rowSource.itemsAt "expressions", item.isA .tuple = true) ∧
        ∃ ordinals, statement.rowSource.ordinals = .ok ordinals ∧
          List.Forall₂ (List.Forall₂ fun cell value => cellOutcome statement.grammar ordinals cell = .ok value)
            (grid statement.rowSource) rows := by
  constructor
  · intro h
    have hdecided := rowsDecision_outcome statement keyPositions
    rw [h] at hdecided
    cases hdecided with
    | rows root source numbers tuples resolved => exact ⟨root, source, tuples, _, numbers, resolved⟩
  · rintro ⟨root, source, tuples, _, numbers, resolved⟩
    exact (RowsDecision.rows root source numbers tuples resolved).outcome_eq keyPositions

/-- The outcome of the question for the rows is that of the first circumstance that applies, whatever
else is wrong with the statement and whichever positions of keys are asked for. -/
theorem rows_outcome_iff_decision (statement : Statement) (keyPositions : List Int)
    (outcome : Except Failure (List Row)) :
    (statement.rows keyPositions).outcome = outcome ↔ RowsDecision statement outcome := by
  constructor
  · intro h
    rw [← h]
    exact rowsDecision_outcome statement keyPositions
  · intro h
    exact h.outcome_eq keyPositions

/-- An insertion of items into a table. -/
def insertionOf (items : List Tree) : Statement where
  dialect := .mysql
  sql := ""
  tree := .bare .insert [("this", .bare .table [("this", .identifier "t" false)]),
    ("expression", .bare .values [("expressions", .list items)])]

/-- A bind parameter with a name. -/
def namedParameter (name : String) : Tree :=
  .bare .placeholder [("this", .text name)]

/-- Two rows of different lengths, which have a value for each element. An element without a value decides in the
order of the elements; an item that is no tuple decides before it, and the number of a bind parameter below a call
before both, though it stands behind them. -/
theorem rows_outcome_iff_decision_competing :
    RowsDecision (insertionOf [.tuple [.numberLiteral "1", .bare .placeholder []], .tuple [.bare .null []]])
        (.ok [[.literal (.int 1), .placeholder 0 none], [.null]]) ∧
      RowsDecision (insertionOf [.tuple [.numberLiteral "1", .bare .ordered []], .tuple [.bare .table []]])
        (.error (.recognition (.unrecognized (.bare .ordered []) .values))) ∧
      RowsDecision (insertionOf [.tuple [.bare .ordered []], .bare .null [], .bare .table []])
        (.error (.recognition (.unrecognized (.bare .null []) .values))) ∧
      RowsDecision (insertionOf [.tuple [.bare .ordered []], .bare .null [],
          .tuple [.bare (.call .length) [("this", namedParameter "²")]]])
        (.error (.conversion (.invalidInteger 10 "²"))) :=
  ⟨(rows_outcome_iff_decision _ [] _).mp rfl, (rows_outcome_iff_decision _ [] _).mp rfl,
    (rows_outcome_iff_decision _ [] _).mp rfl, (rows_outcome_iff_decision _ [] _).mp rfl⟩

end Statement

end SqlInsert
