import SqlInsert.CommandLine.Recognize
import SqlInsert.Proofs.Names
import SqlInsert.Proofs.RowNumbering
/-!
# Refusals and interruptions of recognition

A statement that is not recognized is refused with a node of it that no rule applies to. Recognition is
interrupted instead where a content cannot be converted: the digits of a hexadecimal or binary constant,
a number that has no negative, or the number of a bind parameter. The command tells a refusal as a result
with an error; an interruption it passes on.
-/

namespace SqlInsert

namespace Tree

/-- The content of a constant cannot be converted. -/
inductive Unconvertible (tree : Tree) : ConversionError → Prop
  | hexDigits {error : ConversionError} (form : tree.isA (.prefixedDigits .hex) = true)
      (fails : integerIn 16 tree.content = .error error) : Unconvertible tree error
  | bitDigits {error : ConversionError} (form : tree.isA (.prefixedDigits .bit) = true)
      (fails : integerIn 2 tree.content = .error error) : Unconvertible tree error
  | negated {error : ConversionError} (form : tree.isNegatedNumber = true)
      (fails : (Constant.ofNumberText (tree.slot "this").content).negated = .error error) :
      Unconvertible tree error

/-- A literal never fails to convert. -/
theorem not_unconvertible_of_literal {tree : Tree} (h : tree.isA .literal = true) (error : ConversionError) :
    ¬tree.Unconvertible error := by
  intro hunconvertible
  cases hunconvertible with
  | hexDigits form _ => cases isA_unique form h
  | bitDigits form _ => cases isA_unique form h
  | negated form _ => cases isA_unique (Bool.and_eq_true_iff.mp form).1 h

/-- A constant that stands for a failure has a content that cannot be converted. -/
theorem unconvertible_of_standsFor {tree : Tree} {outcome : Except ConversionError Constant}
    (h : tree.StandsFor outcome) {error : ConversionError} (houtcome : outcome = .error error) :
    tree.Unconvertible error := by
  induction h with
  | hexDigits form => exact .hexDigits form (map_eq_error_iff.mp houtcome)
  | bitDigits form => exact .bitDigits form (map_eq_error_iff.mp houtcome)
  | introduced _ literal _ ih => exact absurd (ih houtcome) (not_unconvertible_of_literal literal error)
  | negated form operand => exact .negated (Bool.and_eq_true_iff.mpr ⟨form, operand⟩) houtcome
  | _ => cases houtcome

/-- An element whose content cannot be converted is a constant all the same, and asking for it fails. -/
theorem constant_of_unconvertible {tree : Tree} {error : ConversionError} (h : tree.Unconvertible error) :
    tree.valueKind = .ok .literal ∧ tree.constant = .error error := by
  unfold valueKind constant isA
  cases h with
  | hexDigits form fails =>
    rw [kind?_of_isA form]
    simp only [fails]
    exact ⟨rfl, rfl⟩
  | bitDigits form fails =>
    rw [kind?_of_isA form]
    simp only [fails]
    exact ⟨rfl, rfl⟩
  | negated form fails =>
    have hkind := kind?_of_isA (Bool.and_eq_true_iff.mp form).1
    have hbound : tree.isBound = .ok false := by
      unfold isBound isA
      rw [hkind]
      rfl
    rw [hbound, ok_bind, hkind]
    simp only [form, fails, Bool.or_true, Bool.true_or, if_true]
    exact ⟨rfl, trivial⟩

end Tree

namespace Statement

variable {statement : Statement}

/-- A node of the statement that no rule applies to, as a refusal tells it. -/
inductive Offends (statement : Statement) : RecognitionError → Prop
  | notInsert (root : statement.tree.isA .insert = false) : Offends statement (.notInsert statement.tree)
  | target (table : statement.targetTable.isA .table = false) :
      Offends statement (.unrecognized statement.targetTable .target)
  | column {node : Tree} (member : node ∈ statement.columnList) (name : ¬isReference node = true) :
      Offends statement (.unrecognized node .columnList)
  | notValues (source : statement.rowSource.isA .values = false) :
      Offends statement (.notValues statement.rowSource)
  | notTuple {item : Tree} (member : item ∈ statement.rowSource.itemsAt "expressions")
      (tuple : ¬item.isA .tuple = true) : Offends statement (.unrecognized item .values)
  | element {cell : Place × Tree} (member : cell ∈ (grid statement.rowSource).flatten)
      (sort : cell.2.valueKind = .ok .unrecognized) : Offends statement (.unrecognized cell.2 .values)
  | assigned {node : Tree} (member : node ∈ statement.assignedNodes) (name : ¬isReference node = true) :
      Offends statement (.unrecognized node .duplicateKeyUpdate)

/-- The rows of a statement are looked at: it is an insertion of values into a table, and its columns are
named. -/
structure ReachesRows (statement : Statement) : Prop where
  root : statement.tree.isA .insert = true
  table : statement.targetTable.isA .table = true
  columns : ∀ node ∈ statement.columnList, isReference node = true
  source : statement.rowSource.isA .values = true

/-- What interrupts the question for the rows: the first number of a bind parameter that cannot be read,
or else a first element without a value whose content cannot be converted. -/
inductive RowsInterruption (statement : Statement) : ConversionError → Prop
  | number {cell : Place × Tree} {error : ConversionError}
      (first : IsFirst (fun cell : Place × Tree => cell.2.numberFault? = none) statement.rowSource.nodes cell)
      (fault : cell.2.numberFault? = some error) : RowsInterruption statement error
  | element {ordinals : Ordinals} {cell : Place × Tree} {error : ConversionError}
      (numbers : statement.rowSource.ordinals = .ok ordinals)
      (tuples : ∀ item ∈ statement.rowSource.itemsAt "expressions", item.isA .tuple = true)
      (first : IsFirst (fun cell => ∃ value, cellOutcome statement.grammar ordinals cell = .ok value)
        (grid statement.rowSource).flatten cell)
      (content : cell.2.Unconvertible error) : RowsInterruption statement error

/-- What interrupts the recognition. -/
def Interrupts (statement : Statement) (error : ConversionError) : Prop :=
  statement.ReachesRows ∧ statement.RowsInterruption error

/-- An element without a value is refused or cannot be converted. -/
theorem cellOutcome_error_cases {ordinals : Ordinals} {cell : Place × Tree} {failure : Failure}
    (hordinals : statement.rowSource.ordinals = .ok ordinals)
    (hbound : (boundElements statement.rowSource).Sublist statement.rowSource.parameters)
    (hcell : cell ∈ (grid statement.rowSource).flatten)
    (h : cellOutcome statement.grammar ordinals cell = .error failure) :
    (∃ error, failure = .recognition error ∧ statement.Offends error) ∨
      ∃ error, failure = .conversion error ∧ cell.2.Unconvertible error := by
  obtain ⟨kind, hkind, hresolves⟩ := resolvesAs_element hordinals hbound hcell statement.grammar
  rw [h] at hresolves
  cases hresolves with
  | unconverted stands => exact .inr ⟨_, rfl, Tree.unconvertible_of_standsFor stands rfl⟩
  | unrecognized => exact .inl ⟨_, rfl, .element hcell hkind⟩

/-- An element that cannot be converted ends with its own conversion error. -/
theorem cellOutcome_of_unconvertible {cell : Place × Tree} {error : ConversionError}
    (h : cell.2.Unconvertible error) (grammar : Grammar) (ordinals : Ordinals) :
    cellOutcome grammar ordinals cell = .error (.conversion error) := by
  obtain ⟨hkind, hconstant⟩ := Tree.constant_of_unconvertible h
  unfold cellOutcome resolveAt
  simp only [hkind, hconstant]
  rfl

/-- The question for the rows fails by a refusal or by what interrupts it. -/
theorem rows_error_cases {keyPositions : List Int} {failure : Failure}
    (h : (statement.rows keyPositions).outcome = .error failure) :
    (∃ error, failure = .recognition error ∧ statement.Offends error) ∨
      statement.rowSource.isA .values = true ∧
        ∃ error, failure = .conversion error ∧ statement.RowsInterruption error := by
  have hdecided := rowsDecision_outcome statement keyPositions
  rw [h] at hdecided
  cases hdecided with
  | notInsert root => exact .inl ⟨_, rfl, .notInsert root⟩
  | notValues _ source => exact .inl ⟨_, rfl, .notValues source⟩
  | unreadableNumber _ source first fault => exact .inr ⟨source, _, rfl, .number first fault⟩
  | notTuple _ _ _ first => exact .inl ⟨_, rfl, .notTuple first.mem first.not_holds⟩
  | unresolved _ source numbers tuples first fails =>
    rcases cellOutcome_error_cases numbers (boundElements_sublist source tuples) first.mem fails with
      hrefused | ⟨error, rfl, hcontent⟩
    · exact .inl hrefused
    · exact .inr ⟨source, error, rfl, .element numbers tuples first hcontent⟩

/-- What interrupts the question for the rows does so wherever it is asked. -/
theorem rows_of_interruption {error : ConversionError} (hroot : statement.tree.isA .insert = true)
    (hsource : statement.rowSource.isA .values = true) (h : statement.RowsInterruption error)
    (keyPositions : List Int) : (statement.rows keyPositions).outcome = .error (.conversion error) := by
  cases h with
  | number first fault =>
    exact (RowsDecision.unreadableNumber hroot hsource first fault).outcome_eq keyPositions
  | @element ordinals cell _ numbers tuples first content =>
    have hfails := cellOutcome_of_unconvertible content statement.grammar ordinals
    exact (RowsDecision.unresolved hroot hsource numbers tuples first hfails).outcome_eq keyPositions

/-- An error about the target is one the statement offends with. -/
theorem offends_of_table {error : RecognitionError} (h : statement.table = .error error) :
    statement.Offends error := by
  rw [table_eq] at h
  cases hroot : statement.tree.isA .insert with
  | false =>
    rw [hroot] at h
    cases h
    exact .notInsert hroot
  | true =>
    cases htable : statement.targetTable.isA .table with
    | false =>
      rw [hroot, htable] at h
      cases h
      exact .target htable
    | true =>
      rw [hroot, htable] at h
      cases h

/-- Where there is a table, asking for an alias does not fail. -/
theorem exists_tableAlias {table : Tree} (h : statement.table = .ok table) :
    ∃ given, statement.tableAlias = .ok given := by
  obtain ⟨hroot, _⟩ := (exists_table_iff statement).mp ⟨table, h⟩
  unfold tableAlias root
  rw [if_pos hroot, ok_bind, h]
  cases statement.tree.alias? statement.grammar with
  | none => exact ⟨_, rfl⟩
  | some given => exact ⟨_, rfl⟩

/-- The questions of the recognition in their order, without the journal. -/
theorem outcome_recognize (statement : Statement) (keyPositions : List Int) :
    (statement.recognize keyPositions).outcome = (do
      let tableName ← (statement.table.map (·.tableName statement.grammar)).mapError .recognition
      let tableAlias ← statement.tableAlias.mapError .recognition
      let columns ← statement.columns.outcome
      let rows ← (statement.rows keyPositions).outcome
      let duplicateKeyUpdate ← statement.duplicateKeyUpdate.outcome
      return {
        sql := statement.sql, dialect := statement.dialect.key, sqlType := insertType,
        tableName := some tableName, tableAlias, columns, rows, keyPositions, duplicateKeyUpdate,
        errors := [] }) := by
  unfold recognize answer tableName
  simp only [Logged.outcome_bind, Logged.outcome_note, Logged.outcome_ofExcept, Logged.outcome_pure, ok_bind]
  rfl

/-- Recognition fails by a refusal or by what interrupts it. -/
theorem recognize_error_cases {keyPositions : List Int} {failure : Failure}
    (h : (statement.recognize keyPositions).outcome = .error failure) :
    (∃ error, failure = .recognition error ∧ statement.Offends error) ∨
      ∃ error, failure = .conversion error ∧ statement.Interrupts error := by
  rw [outcome_recognize] at h
  cases htable : statement.table with
  | error error =>
    rw [htable] at h
    cases h
    exact .inl ⟨error, rfl, offends_of_table htable⟩
  | ok table =>
    -- Behind a table only the columns, the rows and the assigned columns are left to fail.
    obtain ⟨hroot, htarget⟩ := (exists_table_iff statement).mp ⟨table, htable⟩
    obtain ⟨given, hgiven⟩ := exists_tableAlias htable
    rw [htable, hgiven] at h
    simp only [Except.map, Except.mapError, ok_bind] at h
    rcases bind_eq_error_iff.mp h with hcolumns | ⟨columns, hcolumns, hafter⟩
    · obtain ⟨node, hfirst, rfl⟩ := (columns_eq_error_iff htable).mp hcolumns
      exact .inl ⟨_, rfl, .column hfirst.mem hfirst.not_holds⟩
    · have hnames := (exists_columns_iff htable).mp ⟨columns, hcolumns⟩
      rcases bind_eq_error_iff.mp hafter with hrows | ⟨rows, _, hlast⟩
      · rcases rows_error_cases hrows with hrefused | ⟨hsource, error, rfl, hinterruption⟩
        · exact .inl hrefused
        · exact .inr ⟨error, rfl, ⟨hroot, htarget, hnames, hsource⟩, hinterruption⟩
      · rcases bind_eq_error_iff.mp hlast with hassigned | ⟨assigned, _, hresult⟩
        · obtain ⟨node, hfirst, rfl⟩ := (duplicateKeyUpdate_eq_error_iff hroot).mp hassigned
          exact .inl ⟨_, rfl, .assigned hfirst.mem hfirst.not_holds⟩
        · cases hresult

/-- What interrupts the recognition does so. -/
theorem recognize_of_interrupts {error : ConversionError} (h : statement.Interrupts error)
    (keyPositions : List Int) : (statement.recognize keyPositions).outcome = .error (.conversion error) := by
  obtain ⟨hreaches, hinterruption⟩ := h
  obtain ⟨table, htable⟩ := (exists_table_iff statement).mpr ⟨hreaches.root, hreaches.table⟩
  obtain ⟨given, hgiven⟩ := exists_tableAlias htable
  obtain ⟨columns, hcolumns⟩ := (exists_columns_iff htable).mpr hreaches.columns
  have hrows := rows_of_interruption hreaches.root hreaches.source hinterruption keyPositions
  rw [outcome_recognize, htable, hgiven, hcolumns, hrows]
  rfl

/-- The result by which the command tells a refusal ends it as a failure. -/
theorem conclude_ofError (sql dialect message output : String) :
    (CommandLine.conclude (.ofError sql dialect message) output).outcome =
      .ok ⟨output, CommandLine.Ending.failure, none⟩ := rfl

/-- A refused recognition becomes a result that carries the message. -/
theorem resultOf_of_recognition {keyPositions : List Int} {error : RecognitionError}
    (h : (statement.recognize keyPositions).outcome = .error (.recognition error)) :
    (CommandLine.resultOf statement keyPositions).outcome =
      .ok (.ofError statement.sql statement.dialect.key error.message) := by
  unfold CommandLine.resultOf
  simp only [h]

/-- A conversion error interrupts the command instead of becoming a result. -/
theorem resultOf_of_conversion {keyPositions : List Int} {error : ConversionError}
    (h : (statement.recognize keyPositions).outcome = .error (.conversion error)) :
    (CommandLine.resultOf statement keyPositions).outcome = .error (.interrupted "" (.conversion error)) := by
  unfold CommandLine.resultOf
  simp only [h]

/-- A statement is recognized or refused, and the command tells a failure as a result with an error, which
ends it as a failure. -/
structure IsAnsweredOrRefused (statement : Statement) (keyPositions : List Int) : Prop where
  answered : (∃ result, (statement.recognize keyPositions).outcome = .ok result) ∨
    ∃ error, (statement.recognize keyPositions).outcome = .error (.recognition error) ∧
      statement.Offends error
  told : ∀ failure, (statement.recognize keyPositions).outcome = .error failure →
    ∃ message, (CommandLine.resultOf statement keyPositions).outcome =
        .ok (.ofError statement.sql statement.dialect.key message) ∧
      ∀ output, (CommandLine.conclude (.ofError statement.sql statement.dialect.key message) output).outcome =
        .ok ⟨output, CommandLine.Ending.failure, none⟩

/-- A statement is recognized or refused exactly if no content that cannot be converted interrupts it. What
interrupts it passes through the command. -/
theorem isAnsweredOrRefused_iff_not_interrupted (statement : Statement) (keyPositions : List Int) :
    (statement.IsAnsweredOrRefused keyPositions ↔ ¬∃ error, statement.Interrupts error) ∧
      ∀ error, statement.Interrupts error →
        (statement.recognize keyPositions).outcome = .error (.conversion error) ∧
          (CommandLine.resultOf statement keyPositions).outcome =
            .error (.interrupted "" (.conversion error)) := by
  refine ⟨⟨?_, ?_⟩, ?_⟩
  · rintro ⟨⟨result, hresult⟩ | ⟨refusal, hrefusal, _⟩, _⟩ ⟨error, hinterrupts⟩
    · rw [recognize_of_interrupts hinterrupts] at hresult
      cases hresult
    · rw [recognize_of_interrupts hinterrupts] at hrefusal
      cases hrefusal
  · intro hnone
    -- Without an interruption every failure is a refusal.
    have hrefused : ∀ failure, (statement.recognize keyPositions).outcome = .error failure →
        ∃ error, failure = .recognition error ∧ statement.Offends error := by
      intro failure hfailure
      rcases recognize_error_cases hfailure with hrefused | ⟨error, _, hinterrupts⟩
      · exact hrefused
      · exact absurd ⟨error, hinterrupts⟩ hnone
    constructor
    · cases houtcome : (statement.recognize keyPositions).outcome with
      | ok result => exact .inl ⟨result, rfl⟩
      | error failure =>
        obtain ⟨error, rfl, hoffends⟩ := hrefused failure houtcome
        exact .inr ⟨error, rfl, hoffends⟩
    · intro failure hfailure
      obtain ⟨error, rfl, _⟩ := hrefused failure hfailure
      exact ⟨error.message, resultOf_of_recognition hfailure, conclude_ofError _ _ _⟩
  · intro error hinterrupts
    have hfails := recognize_of_interrupts hinterrupts keyPositions
    exact ⟨hfails, resultOf_of_conversion hfails⟩

/-- An insertion of a hexadecimal constant without digits. -/
def digitless : Statement where
  dialect := .mysql
  sql := "INSERT INTO t VALUES (x'')"
  tree :=
    let constant : Tree := .bare (.prefixedDigits .hex) [("this", .text "")]
    .bare .insert [("this", .bare .table [("this", .identifier "t" false)]),
      ("expression", .bare .values [("expressions", .list [.tuple [constant]])])]

/-- An insertion of a hexadecimal constant without digits is neither answered nor refused. -/
theorem not_isAnsweredOrRefused_digitless :
    digitless.tree.isA .insert = true ∧ digitless.targetTable.isA .table = true ∧
      (digitless.recognize []).outcome = .error (.conversion (.invalidInteger 16 "")) ∧
      ¬digitless.IsAnsweredOrRefused [] := by
  have hfails : (digitless.recognize []).outcome = .error (.conversion (.invalidInteger 16 "")) := rfl
  refine ⟨rfl, rfl, hfails, ?_⟩
  rintro ⟨⟨result, hresult⟩ | ⟨error, herror, _⟩, _⟩
  · rw [hfails] at hresult
    cases hresult
  · rw [hfails] at herror
    cases herror

end Statement

end SqlInsert
