import SqlInsert.Insert.Recognition
import SqlInsert.Proofs.Names
import SqlInsert.Proofs.RowDecision
/-!
# Entries about failures

A question that is answered leaves no entry about an error. A refusal leaves one only where a node is out
of place in a list, and only among the values does the entry tell where the failure came from: a statement
that is no insertion, that has no table as its target, or that takes its rows from elsewhere is refused
without a word.
-/

namespace SqlInsert

/-! ## Entries of calculations in a row -/

namespace Logged

variable {ε α β : Type}

/-- A step that succeeds is followed by the entries of the next. -/
theorem entries_bind_of_ok {first : Logged ε α} {value : α} (h : first.outcome = .ok value)
    (next : α → Logged ε β) : (first >>= next).entries = first.entries ++ (next value).entries := by
  change (first.andThen next).entries = _
  unfold andThen
  simp only [h]

/-- A step that fails leaves its own entries and no more. -/
theorem entries_bind_of_error {first : Logged ε α} {error : ε} (h : first.outcome = .error error)
    (next : α → Logged ε β) : (first >>= next).entries = first.entries := by
  change (first.andThen next).entries = _
  unfold andThen
  simp only [h]

end Logged

namespace Entry

/-- The entry is about an error. -/
def IsError (entry : Entry) : Prop :=
  entry.severity = .error

/-- The entry is about an error in an insert statement and tells where it came from. -/
def IsTraceback (entry : Entry) : Prop :=
  entry.IsError ∧ entry.traced = true ∧ entry.source = Statement.source

end Entry

namespace RecognitionError

/-- Whether a failure is about a node that is out of place in a list. -/
def isReported : RecognitionError → Bool
  | .unrecognized _ position => position != .target
  | .notInsert _ | .notValues _ => false

/-- Whether a failure is about a node that is out of place among the values. -/
def isTraced : RecognitionError → Bool
  | .unrecognized _ .values => true
  | _ => false

/-- The errors kept with a traceback are those of elements that are not recognized. -/
theorem isTraced_iff (error : RecognitionError) :
    error.isTraced = true ↔ ∃ found, error = .unrecognized found .values := by
  cases error with
  | unrecognized found position => cases position <;> simp [isTraced]
  | notInsert found => simp [isTraced]
  | notValues source => simp [isTraced]

/-- What is kept with a traceback is reported. -/
theorem isReported_of_isTraced {error : RecognitionError} (h : error.isTraced = true) :
    error.isReported = true := by
  obtain ⟨found, rfl⟩ := (isTraced_iff error).mp h
  rfl

end RecognitionError

/-! ## Contracts about entries -/

namespace Logged

variable {α β : Type}

/-- No entry of a sort is made on the way to an answer, and a law ties each refusal to whether there is one
on the way to it. -/
structure Reports (about : Entry → Prop) (law : RecognitionError → Prop → Prop)
    (calculation : Logged Failure α) : Prop where
  quiet : ∀ value, calculation.outcome = .ok value → ∀ entry ∈ calculation.entries, ¬about entry
  refused : ∀ error, calculation.outcome = .error (.recognition error) →
    law error (∃ entry ∈ calculation.entries, about entry)

/-- Entries of a sort are made exactly about the refusals of a sort. -/
abbrev Tells (about : Entry → Prop) (sort : RecognitionError → Bool) (calculation : Logged Failure α) : Prop :=
  calculation.Reports about fun error told => told ↔ sort error = true

/-- Every refusal is of a sort, whatever entries are made about it. -/
abbrev RefusesOnly (sort : RecognitionError → Bool) (calculation : Logged Failure α) : Prop :=
  calculation.Reports Entry.IsError fun error _ => sort error = true

section

variable {about : Entry → Prop} {law : RecognitionError → Prop → Prop}

/-- What makes no entry keeps the law for refusals without one. -/
theorem Reports.of_no_entries {calculation : Logged Failure α} (h : calculation.entries = [])
    (hlaw : ∀ error, calculation.outcome = .error (.recognition error) → law error False) :
    calculation.Reports about law where
  quiet := by
    intro value _ entry hentry
    rw [h] at hentry
    cases hentry
  refused := by
    intro error herror
    rw [h]
    simpa only [List.not_mem_nil, false_and, exists_false] using hlaw error herror

/-- A plain value reports nothing. -/
theorem Reports.pure (value : α) : (Pure.pure value : Logged Failure α).Reports about law :=
  .of_no_entries rfl fun _ h => by cases h

/-- An answer that is given or refused without entries. -/
theorem Reports.ofExcept {outcome : Except RecognitionError α}
    (h : ∀ error, outcome = .error error → law error False) :
    (Logged.ofExcept (outcome.mapError Failure.recognition)).Reports about law := by
  refine .of_no_entries rfl fun error herror => ?_
  obtain ⟨cause, hcause, heq⟩ := mapError_eq_error_iff.mp herror
  cases heq
  exact h error hcause

/-- A refusal without entries. -/
theorem Reports.refuse {cause : RecognitionError} (h : law cause False) :
    (Logged.ofExcept (.error (.recognition cause)) : Logged Failure α).Reports about law := by
  refine .of_no_entries rfl fun error herror => ?_
  cases herror
  exact h

/-- An entry of another sort may be made. -/
theorem Reports.note {source message : String} {severity : Severity}
    (h : ¬about ⟨source, severity, message, false⟩) :
    (Logged.note source severity message : Logged Failure Unit).Reports about law where
  quiet := by
    intro value _ entry hentry
    rw [List.mem_singleton.mp hentry]
    exact h
  refused := by
    intro error herror
    cases herror

/-- Calculations in a row keep the law that each of them keeps: the first makes no entry of the sort before
the second goes on. -/
theorem Reports.bind {first : Logged Failure α} {next : α → Logged Failure β} (hfirst : first.Reports about law)
    (hnext : ∀ value, (next value).Reports about law) : (first >>= next).Reports about law := by
  cases hcase : first.outcome with
  | error failure =>
    have hentries : (first >>= next).entries = first.entries := entries_bind_of_error hcase next
    have houtcome : (first >>= next).outcome = .error failure := by rw [outcome_bind, hcase, error_bind]
    constructor
    · intro value hvalue
      rw [houtcome] at hvalue
      cases hvalue
    · intro error herror
      rw [houtcome] at herror
      cases herror
      rw [hentries]
      exact hfirst.refused error hcase
  | ok value =>
    have hentries : (first >>= next).entries = first.entries ++ (next value).entries :=
      entries_bind_of_ok hcase next
    have houtcome : (first >>= next).outcome = (next value).outcome := by rw [outcome_bind, hcase, ok_bind]
    -- A first step that succeeds is quiet, so whatever is told is told by the second.
    have hquiet : ∀ entry ∈ first.entries, ¬about entry := hfirst.quiet value hcase
    have htold : (∃ entry ∈ (first >>= next).entries, about entry) ↔
        ∃ entry ∈ (next value).entries, about entry := by
      rw [hentries]
      constructor
      · rintro ⟨entry, hentry, habout⟩
        rcases List.mem_append.mp hentry with hbefore | hbehind
        · exact absurd habout (hquiet entry hbefore)
        · exact ⟨entry, hbehind, habout⟩
      · rintro ⟨entry, hbehind, habout⟩
        exact ⟨entry, List.mem_append_right _ hbehind, habout⟩
    constructor
    · intro result hresult entry hentry habout
      rw [houtcome] at hresult
      obtain ⟨other, hother, habout'⟩ := htold.mp ⟨entry, hentry, habout⟩
      exact (hnext value).quiet result hresult other hother habout'
    · intro error herror
      rw [houtcome] at herror
      rw [htold]
      exact (hnext value).refused error herror

end

/-- No refusal is silent: each leaves an entry that tells where it came from, and an answer leaves no entry
about an error. -/
structure TellsFailures (calculation : Logged Failure α) : Prop where
  traced : ∀ error, calculation.outcome = .error (.recognition error) →
    ∃ entry ∈ calculation.entries, entry.IsTraceback
  quiet : ∀ value, calculation.outcome = .ok value → ∀ entry ∈ calculation.entries, ¬entry.IsError

end Logged

namespace Statement

open Logged RecognitionError

variable {statement : Statement} {grammar : Grammar}

/-! ## The values -/

/-- An element is refused as one that is out of place among the values. -/
theorem resolveAt_refusesOnly (ordinals : Ordinals) (place : Place) (tree : Tree) :
    (resolveAt grammar ordinals place tree).RefusesOnly isTraced := by
  unfold resolveAt
  split
  · exact .of_no_entries rfl fun _ h => by cases h
  · exact .of_no_entries rfl fun _ h => by cases h
  · split
    · exact .of_no_entries rfl fun _ h => by cases h
    · exact .of_no_entries rfl fun _ h => by cases h
  · split
    · exact .of_no_entries rfl fun _ h => by cases h
    · exact .of_no_entries rfl fun _ h => by cases h
  · exact .of_no_entries rfl fun _ h => by cases h
  · constructor
    · intro value hvalue
      cases hvalue
    · intro error herror
      cases herror
      rfl

/-- The values of a row are refused with traced errors only. -/
theorem rowValues_refusesOnly (ordinals : Ordinals) (cells : List (Place × Tree)) :
    (rowValues grammar ordinals cells).RefusesOnly isTraced := by
  induction cells with
  | nil => exact .pure []
  | cons cell rest ih =>
    have hcell : (resolveAt grammar ordinals cell.1 cell.2).RefusesOnly isTraced :=
      resolveAt_refusesOnly ordinals cell.1 cell.2
    exact hcell.bind fun _ => ih.bind fun _ => .pure _

/-- The values of all rows are refused with traced errors only. -/
theorem rowsValues_refusesOnly (ordinals : Ordinals) (steps : List (Step × Tree)) :
    (rowsValues grammar ordinals steps).RefusesOnly isTraced := by
  induction steps with
  | nil => exact .pure []
  | cons step rest ih =>
    have hrow : (rowValues grammar ordinals (elements step.1 step.2)).RefusesOnly isTraced :=
      rowValues_refusesOnly ordinals _
    exact hrow.bind fun _ => ih.bind fun _ => .pure _

/-- What is no tuple is refused with a traced error. -/
theorem isTraced_of_tuples {steps : List (Step × Tree)} {error : RecognitionError}
    (h : tuples steps = .error error) : error.isTraced = true := by
  induction steps with
  | nil => cases h
  | cons step rest ih =>
    rw [tuples] at h
    split at h
    · exact ih (map_eq_error_iff.mp h)
    · cases h
      rfl

/-- Resolving the rows refuses with traced errors only. -/
theorem resolveRows_refusesOnly (values : Tree) (ordinals : Ordinals) :
    (resolveRows grammar values ordinals).RefusesOnly isTraced := by
  unfold resolveRows
  split
  · exact rowsValues_refusesOnly ordinals _
  · rename_i error htuples
    refine .of_no_entries rfl fun _ herror => ?_
    cases herror
    exact isTraced_of_tuples htuples

/-! ## Conventions -/

/-- Which entries are made about which refusals: none but where a node is out of place in a list, as the
entry about a name says, and always about a node among the values. -/
structure Convention (about : Entry → Prop) (sort : RecognitionError → Bool) : Prop where
  errors : ∀ entry, about entry → entry.IsError
  report : ∀ message, about ⟨source, .error, message, true⟩
  values : ∀ error : RecognitionError, error.isTraced = true → sort error = true
  elsewhere : ∀ error : RecognitionError, error.isReported = false → sort error = false
  misnamed : ∀ tree position, position ≠ .values → position ≠ .target →
    (about (misplaced tree position) ↔ sort (.unrecognized tree position) = true)

/-- Entries about errors are made about every node that is out of place in a list. -/
theorem convention_errors : Convention Entry.IsError isReported where
  errors := fun _ h => h
  report := fun _ => rfl
  values := fun _ h => isReported_of_isTraced h
  elsewhere := fun _ h => h
  misnamed := fun _ _ _ hlist => iff_of_true rfl (bne_iff_ne.mpr hlist)

/-- Only about those among the values they tell where the failure came from. -/
theorem convention_tracebacks : Convention Entry.IsTraceback isTraced where
  errors := fun _ h => h.1
  report := fun _ => ⟨rfl, rfl, rfl⟩
  values := fun _ h => h
  elsewhere := by
    intro error h
    refine Bool.eq_false_iff.mpr fun htraced => ?_
    rw [isReported_of_isTraced htraced] at h
    cases h
  misnamed := by
    intro tree position hvalues _
    refine iff_of_false (fun h => ?_) fun htraced => ?_
    · cases h.2.1
    · obtain ⟨_, heq⟩ := (isTraced_iff _).mp htraced
      cases heq
      exact hvalues rfl

section

variable {about : Entry → Prop} {sort : RecognitionError → Bool}

/-- With the report about rows behind it, a refusal among the values leaves an entry. -/
theorem Convention.tells_reporting {α : Type} (h : Convention about sort) {calculation : Logged Failure α}
    (hrefuses : calculation.RefusesOnly isTraced) : (calculation.reporting rowsReport).Tells about sort := by
  have houtcome : (calculation.reporting rowsReport).outcome = calculation.outcome :=
    outcome_reporting rowsReport calculation
  constructor
  · intro value hvalue entry hentry habout
    rw [houtcome] at hvalue
    unfold reporting at hentry
    simp only [hvalue] at hentry
    exact hrefuses.quiet value hvalue entry hentry (h.errors entry habout)
  · intro error herror
    rw [houtcome] at herror
    have htraced : error.isTraced = true := hrefuses.refused error herror
    have hmember : (⟨source, .error, "INSERT row extraction failed: " ++ error.message, true⟩ : Entry) ∈
        (calculation.reporting rowsReport).entries := by
      unfold reporting
      simp only [herror, rowsReport, Option.toList_some, List.mem_append, List.mem_singleton, or_true]
    exact iff_of_true ⟨_, hmember, h.report _⟩ (h.values error htraced)

/-- A note below the severity of errors keeps the convention. -/
theorem Convention.tells_note (h : Convention about sort) {source message : String} {severity : Severity}
    (hseverity : severity ≠ .error) : (Logged.note source severity message : Logged Failure Unit).Tells about sort :=
  .note fun habout => hseverity (h.errors _ habout)

/-- A refusal that is not about a node in a list leaves no entry. -/
theorem Convention.silent_iff (h : Convention about sort) {error : RecognitionError}
    (herror : error.isReported = false) : False ↔ sort error = true := by
  rw [h.elsewhere error herror]
  exact iff_of_false not_false Bool.false_ne_true

/-- An answer without entries keeps the convention where its error is not reported. -/
theorem Convention.tells_answer {α : Type} (h : Convention about sort) {outcome : Except RecognitionError α}
    (houtcome : ∀ error, outcome = .error error → error.isReported = false) : (answer outcome).Tells about sort :=
  .ofExcept fun error herror => h.silent_iff (houtcome error herror)

/-- A refusal without entries keeps the convention where its error is not reported. -/
theorem Convention.tells_refuse {α : Type} (h : Convention about sort) {error : RecognitionError}
    (herror : error.isReported = false) : (refuse error : Logged Failure α).Tells about sort :=
  .refuse (h.silent_iff herror)

/-- The first node that is no name leaves its entry. -/
theorem Convention.tells_names (h : Convention about sort) {position : Position} (hvalues : position ≠ .values)
    (hlist : position ≠ .target) (trees : List Tree) : (names grammar position trees).Tells about sort := by
  induction trees with
  | nil => exact .pure []
  | cons tree rest ih =>
    rw [names]
    split
    · exact ih.bind fun _ => .pure _
    · constructor
      · intro value hvalue
        cases hvalue
      · intro error herror
        cases herror
        simp only [List.mem_singleton, exists_eq_left]
        exact h.misnamed tree position hvalues hlist

/-! ## The questions -/

/-- A target is refused without a report. -/
theorem isReported_of_table {error : RecognitionError} (h : statement.table = .error error) :
    error.isReported = false := by
  rw [table_eq] at h
  split_ifs at h <;> cases h <;> rfl

/-- A root is refused without a report. -/
theorem isReported_of_root {error : RecognitionError} (h : statement.root = .error error) :
    error.isReported = false := by
  unfold root at h
  split at h <;> cases h
  rfl

/-- A source of rows is refused without a report. -/
theorem isReported_of_values {error : RecognitionError} (h : statement.values = .error error) :
    error.isReported = false := by
  rw [values_eq] at h
  split_ifs at h <;> cases h <;> rfl

/-- A column list is refused without a report. -/
theorem isReported_of_columnNodes {error : RecognitionError} (h : statement.columnNodes = .error error) :
    error.isReported = false := by
  unfold columnNodes at h
  rcases bind_eq_error_iff.mp h with htarget | ⟨target, _, hnodes⟩
  · exact isReported_of_root (map_eq_error_iff.mp htarget)
  · split at hnodes
    · cases hnodes
    · rcases bind_eq_error_iff.mp hnodes with htable | ⟨table, _, hgiven⟩
      · exact isReported_of_table htable
      · cases hgiven

/-- An alias is refused without a report. -/
theorem isReported_of_tableAlias {error : RecognitionError} (h : statement.tableAlias = .error error) :
    error.isReported = false := by
  unfold tableAlias at h
  rcases bind_eq_error_iff.mp h with hroot | ⟨root, _, hgiven⟩
  · exact isReported_of_root hroot
  · split at hgiven
    · cases hgiven
    · rcases bind_eq_error_iff.mp hgiven with htable | ⟨table, _, hlast⟩
      · exact isReported_of_table htable
      · cases hlast

/-- The question for the columns keeps the convention. -/
theorem Convention.tells_columns (h : Convention about sort) (statement : Statement) :
    statement.columns.Tells about sort := by
  unfold columns
  split
  · rename_i error hnodes
    exact h.tells_refuse (isReported_of_columnNodes hnodes)
  · exact .pure none
  · rename_i nodes _ _
    have hnames : (names statement.grammar .columnList nodes).Tells about sort :=
      h.tells_names (by decide) (by decide) nodes
    exact hnames.bind fun _ => (h.tells_note (by decide)).bind fun _ => .pure _

/-- The question for the rows keeps the convention. -/
theorem Convention.tells_rows (h : Convention about sort) (statement : Statement) (keyPositions : List Int) :
    (statement.rows keyPositions).Tells about sort := by
  unfold rows
  refine (h.tells_note (by decide)).bind fun _ => ?_
  split
  · rename_i error hvalues
    exact h.tells_refuse (isReported_of_values hvalues)
  · rename_i values _
    split
    · exact .of_no_entries rfl fun _ herror => by cases herror
    · rename_i ordinals _
      have hrefuses : (resolveRows statement.grammar values ordinals).RefusesOnly isTraced :=
        resolveRows_refusesOnly values ordinals
      exact (h.tells_reporting hrefuses).bind fun _ => (h.tells_note (by decide)).bind fun _ => .pure _

/-- The question for the update keeps the convention. -/
theorem Convention.tells_duplicateKeyUpdate (h : Convention about sort) (statement : Statement) :
    statement.duplicateKeyUpdate.Tells about sort := by
  unfold duplicateKeyUpdate
  split
  · rename_i error hroot
    exact h.tells_refuse (isReported_of_root hroot)
  · dsimp only
    split
    · have hnames : ∀ nodes, (names statement.grammar .duplicateKeyUpdate nodes).Tells about sort :=
        h.tells_names (by decide) (by decide)
      exact (hnames _).bind fun _ => .pure _
    · exact .pure none

/-- The recognition tells what its questions tell. -/
theorem Convention.tells_recognize (h : Convention about sort) (statement : Statement) (keyPositions : List Int) :
    (statement.recognize keyPositions).Tells about sort := by
  have htableName : (answer statement.tableName).Tells about sort :=
    h.tells_answer fun error herror => isReported_of_table (map_eq_error_iff.mp herror)
  have htableAlias : (answer statement.tableAlias).Tells about sort :=
    h.tells_answer fun error herror => isReported_of_tableAlias herror
  unfold recognize
  refine (h.tells_note (by decide)).bind fun _ => (h.tells_note (by decide)).bind fun _ => ?_
  refine htableName.bind fun _ => htableAlias.bind fun _ => ?_
  refine (h.tells_columns statement).bind fun _ => (h.tells_rows statement keyPositions).bind fun _ => ?_
  exact (h.tells_duplicateKeyUpdate statement).bind fun _ => (h.tells_note (by decide)).bind fun _ => .pure _

end

/-- A question about a statement that may be refused. -/
inductive Question
  | columns
  | rows
  | duplicateKeyUpdate
  | recognition

/-- What a question is answered with. -/
abbrev Question.Answer : Question → Type
  | .columns | .duplicateKeyUpdate => Option (List String)
  | .rows => List Row
  | .recognition => Recognition

/-- The question about the names of columns, which are no values. -/
def Question.isAboutNames : Question → Bool
  | .columns | .duplicateKeyUpdate => true
  | .rows | .recognition => false

/-- A question put to a statement; the positions of keys matter to the rows and to the recognition. -/
def ask (statement : Statement) (keyPositions : List Int) : (question : Question) → Logged Failure question.Answer
  | .columns => statement.columns
  | .rows => statement.rows keyPositions
  | .duplicateKeyUpdate => statement.duplicateKeyUpdate
  | .recognition => statement.recognize keyPositions

/-- Every question keeps the convention. -/
theorem Convention.tells_ask {about : Entry → Prop} {sort : RecognitionError → Bool} (h : Convention about sort)
    (statement : Statement) (keyPositions : List Int) (question : Question) :
    (statement.ask keyPositions question).Tells about sort := by
  cases question with
  | columns => exact h.tells_columns statement
  | rows => exact h.tells_rows statement keyPositions
  | duplicateKeyUpdate => exact h.tells_duplicateKeyUpdate statement
  | recognition => exact h.tells_recognize statement keyPositions

/-- A calculation of names refuses nothing among the values. -/
abbrev RefusesElsewhere {α : Type} (calculation : Logged Failure α) : Prop :=
  calculation.Reports (fun _ => False) fun error _ => error.isTraced = false

/-- What is not reported is not kept with a traceback. -/
theorem isTraced_of_not_isReported {error : RecognitionError} (h : error.isReported = false) :
    error.isTraced = false :=
  convention_tracebacks.elsewhere error h

/-- Names outside the values are refused elsewhere than among the values. -/
theorem names_refusesElsewhere {grammar : Grammar} {position : Position} (hvalues : position ≠ .values)
    (trees : List Tree) : RefusesElsewhere (names grammar position trees) := by
  induction trees with
  | nil => exact .pure []
  | cons tree rest ih =>
    rw [names]
    split
    · exact ih.bind fun _ => .pure _
    · constructor
      · intro value hvalue
        cases hvalue
      · intro error herror
        cases herror
        cases position with
        | values => exact absurd rfl hvalues
        | _ => rfl

/-- The questions for names are refused elsewhere than among the values. -/
theorem isTraced_of_isAboutNames {keyPositions : List Int} {question : Question}
    (hnames : question.isAboutNames = true) {error : RecognitionError}
    (herror : (statement.ask keyPositions question).outcome = .error (.recognition error)) :
    error.isTraced = false := by
  have helsewhere : RefusesElsewhere (statement.ask keyPositions question) := by
    cases question with
    | columns =>
      unfold ask columns
      split
      · rename_i cause hnodes
        exact .refuse (isTraced_of_not_isReported (isReported_of_columnNodes hnodes))
      · exact .pure none
      · exact (names_refusesElsewhere (by decide) _).bind fun _ => (Reports.note not_false).bind fun _ => .pure _
    | duplicateKeyUpdate =>
      unfold ask duplicateKeyUpdate
      split
      · rename_i cause hroot
        exact .refuse (isTraced_of_not_isReported (isReported_of_root hroot))
      · dsimp only
        split
        · exact (names_refusesElsewhere (by decide) _).bind fun _ => .pure _
        · exact .pure none
    | rows => cases hnames
    | recognition => cases hnames
  exact helsewhere.refused error herror

/-- Whichever question is put to a statement: an entry about an error is made exactly about a node that is out
of place in a list, and one that tells where the failure came from exactly about one among the values. So no
refusal is silent exactly if all are about such nodes, for names only if there is none. -/
theorem tellsFailures_iff_among_values (statement : Statement) (keyPositions : List Int) (question : Question) :
    (statement.ask keyPositions question).Tells Entry.IsError isReported ∧
      (statement.ask keyPositions question).Tells Entry.IsTraceback isTraced ∧
      ((statement.ask keyPositions question).TellsFailures ↔
        ∀ error, (statement.ask keyPositions question).outcome = .error (.recognition error) →
          ∃ found, error = .unrecognized found .values) ∧
      (question.isAboutNames = true →
        ((statement.ask keyPositions question).TellsFailures ↔
          ∀ error, (statement.ask keyPositions question).outcome ≠ .error (.recognition error))) := by
  have herrors := convention_errors.tells_ask statement keyPositions question
  have htracebacks := convention_tracebacks.tells_ask statement keyPositions question
  have hiff : (statement.ask keyPositions question).TellsFailures ↔
      ∀ error, (statement.ask keyPositions question).outcome = .error (.recognition error) →
        ∃ found, error = .unrecognized found .values := by
    constructor
    · intro htells error herror
      have htraced : error.isTraced = true := (htracebacks.refused error herror).mp (htells.traced error herror)
      exact (isTraced_iff error).mp htraced
    · intro hvalues
      refine ⟨fun error herror => ?_, herrors.quiet⟩
      have htraced : error.isTraced = true := (isTraced_iff error).mpr (hvalues error herror)
      exact (htracebacks.refused error herror).mpr htraced
  refine ⟨herrors, htracebacks, hiff, fun hnames => hiff.trans ⟨fun hvalues error herror => ?_, ?_⟩⟩
  · have htraced : error.isTraced = true := (isTraced_iff error).mpr (hvalues error herror)
    have hnot : error.isTraced = false := isTraced_of_isAboutNames hnames herror
    rw [htraced] at hnot
    cases hnot
  · intro hnone error herror
    exact absurd herror (hnone error)

/-- An insertion of one row by a query. -/
def queryInsertion : Statement where
  dialect := .mysql
  sql := "INSERT INTO t SELECT 1"
  tree := .bare .insert [("this", .bare .table [("this", .identifier "t" false)]),
    ("expression", .bare .select [("expressions", .list [.numberLiteral "1"])])]

/-- It is refused for its rows, by themselves and in the recognition, without a word about it. -/
theorem not_tellsFailures_queryInsertion :
    (queryInsertion.ask [] .rows).outcome = .error (.recognition (.notValues queryInsertion.rowSource)) ∧
      ¬(queryInsertion.ask [] .rows).TellsFailures ∧
      (queryInsertion.ask [] .recognition).outcome =
        .error (.recognition (.notValues queryInsertion.rowSource)) ∧
      ¬(queryInsertion.ask [] .recognition).TellsFailures := by
  have hrows : (queryInsertion.ask [] .rows).outcome =
      .error (.recognition (.notValues queryInsertion.rowSource)) := rfl
  have hrecognition : (queryInsertion.ask [] .recognition).outcome =
      .error (.recognition (.notValues queryInsertion.rowSource)) := rfl
  refine ⟨hrows, fun htells => ?_, hrecognition, fun htells => ?_⟩
  · obtain ⟨entry, hentry, herror, _⟩ := htells.traced _ hrows
    have hquiet : ∀ entry ∈ (queryInsertion.ask [] .rows).entries, entry.severity ≠ .error := by decide
    exact hquiet entry hentry herror
  · obtain ⟨entry, hentry, herror, _⟩ := htells.traced _ hrecognition
    have hquiet : ∀ entry ∈ (queryInsertion.ask [] .recognition).entries, entry.severity ≠ .error := by decide
    exact hquiet entry hentry herror

end Statement

end SqlInsert
