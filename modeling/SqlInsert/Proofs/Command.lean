import SqlInsert.CommandLine.Program
import SqlInsert.Proofs.Acceptance
import SqlInsert.Proofs.Course
import SqlInsert.Proofs.Files
import SqlInsert.Proofs.Magnitude
import SqlInsert.Proofs.Recognition
/-!
# What the command leaves behind

Up to a result every failure leaves the files as they are. Then a result in JSON form is written as a whole
or not at all. The status of a success stands for a result without errors that was told completely.
-/

namespace SqlInsert.CommandLine

/-! ## Up to the result -/

namespace Request

/-- The text that a request gives: exactly one of a text and the path of a file is there, and the file can be
read. -/
inductive GivesText (request : Request) (store : FileStore) : String → Prop
  | text {sql : String} (given : Journal.nonempty? request.sql = some sql)
      (alone : Journal.nonempty? request.file = none) : GivesText request store sql
  | file {path : String} {bytes : List UInt8} {sql : List Char}
      (given : Journal.nonempty? request.file = some path) (alone : Journal.nonempty? request.sql = none)
      (read : store.read path = .ok bytes) (decoded : Text.decode bytes = .ok sql) :
      GivesText request store (String.ofList (Text.plainFeeds sql))

/-- A request gets as far as the recognition of a statement: its dialect is known, and its text is accepted
and holds an insertion. -/
structure Reaches (request : Request) (store : FileStore) (statement : Statement) : Prop where
  text : request.GivesText store statement.sql
  dialect : Dialect.ofKey? (Text.lower request.dialect) = some statement.dialect
  accepted : refusedText? statement.dialect.grammar statement.sql = none
  read : Sql.statementOf statement.dialect.grammar statement.sql = .ok statement.tree
  insertion : statement.tree.isA .insert = true

variable {columns : Nat} {request : Request} {store : FileStore}

/-- A request gives a text exactly where its origin is found and read as that text. -/
theorem givesText_iff (columns : Nat) {sql : String} :
    request.GivesText store sql ↔
      ∃ origin, (request.origin columns).outcome = .ok origin ∧ origin.textIn store = .ok sql := by
  constructor
  · rintro (@⟨sql, given, alone⟩ | @⟨path, bytes, chars, given, alone, read, decoded⟩)
    · refine ⟨.text sql, ?_, rfl⟩
      rw [origin, given, alone]
      rfl
    · refine ⟨.file path, ?_, ?_⟩
      · rw [origin, given, alone]
        rfl
      · exact textIn_file_eq_ok_iff.mpr ⟨bytes, chars, read, decoded, rfl⟩
  · rintro ⟨origin, horigin, htext⟩
    unfold Request.origin at horigin
    cases hsql : Journal.nonempty? request.sql with
    | none =>
      cases hfile : Journal.nonempty? request.file with
      | none =>
        rw [hsql, hfile] at horigin
        cases horigin
      | some path =>
        rw [hsql, hfile] at horigin
        cases horigin
        obtain ⟨bytes, chars, hread, hdecode, rfl⟩ := textIn_file_eq_ok_iff.mp htext
        exact .file hfile hsql hread hdecode
    | some given =>
      cases hfile : Journal.nonempty? request.file with
      | none =>
        rw [hsql, hfile] at horigin
        cases horigin
        cases htext
        exact .text hsql hfile
      | some path =>
        rw [hsql, hfile] at horigin
        cases horigin

/-- A dialect is chosen exactly by its key, in letters of either case. -/
theorem chosenDialect_eq_ok_iff {dialect : Dialect} :
    (request.chosenDialect columns).outcome = .ok dialect ↔
      Dialect.ofKey? (Text.lower request.dialect) = some dialect := by
  unfold chosenDialect
  cases Dialect.ofKey? (Text.lower request.dialect) with
  | none => simp only [refuse, reduceCtorEq]
  | some found => simp only [Logged.ok, Except.ok.injEq, Option.some.injEq]

/-- A text that begins with its one statement, an insertion, is reached. -/
theorem reaches_of_holdsOne {statement : Statement} (htext : request.GivesText store statement.sql)
    (hdialect : Dialect.ofKey? (Text.lower request.dialect) = some statement.dialect)
    (hblank : statement.sql.all Text.isBlank = false) (hlength : statement.sql.length ≤ textLengthLimit)
    (hone : Sql.HoldsOne (Sql.statements statement.dialect.grammar statement.sql) 0 statement.tree)
    (hinsertion : statement.tree.isA .insert = true) : request.Reaches store statement where
  text := htext
  dialect := hdialect
  accepted := refusedTextBy?_eq_none_iff.mpr ⟨hblank, hlength, 0, statement.tree, hone⟩
  read := (outcome_readStatementBy _ _ _).symm.trans (readStatementBy_of_holdsOne hone)
  insertion := hinsertion

/-- The opening finds the origin first and the dialect after it. -/
theorem outcome_opening (columns : Nat) (request : Request) :
    (request.opening columns).outcome = (do
      let origin ← (request.origin columns).outcome
      let dialect ← (request.chosenDialect columns).outcome
      return (origin, dialect)) := by
  unfold opening
  simp only [Logged.outcome_bind, Logged.outcome_note, Logged.outcome_pure, ok_bind]
  rfl

/-- For an answer the text is accepted, its statement recognized and the result laid out, in this order. -/
theorem outcome_answer (columns : Nat) (request : Request) (dialect : Dialect) (sql : String) :
    (answer columns request dialect sql).outcome = (do
      let tree ← (acceptedTree columns dialect sql).outcome
      let result ← (resultOf ⟨dialect, sql, tree⟩ request.keyPositions).outcome
      let delivery ← (deliveryOf columns request result).outcome
      return (result, delivery)) := by
  unfold answer
  simp only [Logged.outcome_bind, Logged.outcome_pure]
  rfl

/-- There is a result with a place to go exactly where a statement is reached that has one. -/
theorem attempt_eq_ok_iff {result : Recognition} {delivery : Delivery} :
    request.attempt columns store = .ok (result, delivery) ↔
      ∃ statement, request.Reaches store statement ∧
        (resultOf statement request.keyPositions).outcome = .ok result ∧
        (deliveryOf columns request result).outcome = .ok delivery := by
  rw [attempt, outcome_opening]
  constructor
  · intro h
    obtain ⟨⟨origin, dialect⟩, hopening, h⟩ := bind_eq_ok_iff.mp h
    obtain ⟨_, horigin, hopening⟩ := bind_eq_ok_iff.mp hopening
    obtain ⟨_, hdialect, hopening⟩ := bind_eq_ok_iff.mp hopening
    cases hopening
    obtain ⟨sql, htext, h⟩ := bind_eq_ok_iff.mp h
    rw [outcome_answer] at h
    obtain ⟨tree, htree, h⟩ := bind_eq_ok_iff.mp h
    obtain ⟨_, hresult, h⟩ := bind_eq_ok_iff.mp h
    obtain ⟨_, hdelivery, h⟩ := bind_eq_ok_iff.mp h
    cases h
    obtain ⟨haccepted, hread, hinsertion⟩ := acceptedTreeBy_eq_ok_iff.mp htree
    refine ⟨⟨dialect, sql, tree⟩, ?_, hresult, hdelivery⟩
    exact ⟨(givesText_iff columns).mpr ⟨origin, horigin, htext⟩, chosenDialect_eq_ok_iff.mp hdialect,
      haccepted, hread, hinsertion⟩
  · rintro ⟨statement, hreaches, hresult, hdelivery⟩
    obtain ⟨origin, horigin, htext⟩ := (givesText_iff columns).mp hreaches.text
    have hdialect := (@chosenDialect_eq_ok_iff columns _ _).mpr hreaches.dialect
    have htree : (acceptedTree columns statement.dialect statement.sql).outcome = .ok statement.tree :=
      acceptedTreeBy_eq_ok_iff.mpr ⟨hreaches.accepted, hreaches.read, hreaches.insertion⟩
    rw [horigin, ok_bind, hdialect]
    simp only [ok_bind, pure, Except.pure, htext, outcome_answer, htree, hresult, hdelivery]

end Request

/-! ## Failures -/

section

variable {α β : Type}

/-- Every end without a value is a failure. -/
def FailsOnly (outcome : Except Ending α) : Prop :=
  ∀ ending, outcome = .error ending → ending.status = Ending.failure

/-- What succeeds ends in no other way. -/
theorem failsOnly_ok (value : α) : FailsOnly (.ok value : Except Ending α) := by
  intro ending h
  cases h

/-- An ending with the status of failure is a failure. -/
theorem failsOnly_error {ending : Ending} (h : ending.status = Ending.failure) :
    FailsOnly (.error ending : Except Ending α) := by
  intro other hother
  cases hother
  exact h

/-- Steps that end in failures only do so in sequence. -/
theorem FailsOnly.bind {first : Except Ending α} {next : α → Except Ending β} (hfirst : FailsOnly first)
    (hnext : ∀ value, FailsOnly (next value)) : FailsOnly (first >>= next) := by
  intro ending h
  rcases bind_eq_error_iff.mp h with herror | ⟨value, _, herror⟩
  · exact hfirst ending herror
  · exact hnext value ending herror

/-- A failure keeps its status whether or not its text could be printed. -/
theorem status_ofPrinted_failure (printed : Console.Printed) :
    (Ending.ofPrinted Ending.failure printed).status = Ending.failure := by
  unfold Ending.ofPrinted
  cases printed.failure <;> rfl

/-- A refusal is a failure. -/
theorem failsOnly_refuse (columns : Nat) (entry complaint : String) :
    FailsOnly (refuse columns entry complaint : Logged Ending α).outcome :=
  failsOnly_error (status_ofPrinted_failure _)

end

/-- Recognizing a statement ends early in failures only. -/
theorem failsOnly_resultOf (statement : Statement) (keyPositions : List Int) :
    FailsOnly (resultOf statement keyPositions).outcome := by
  unfold resultOf
  dsimp only
  split
  · exact failsOnly_ok _
  · exact failsOnly_ok _
  · exact failsOnly_error rfl
  · exact failsOnly_error rfl

/-- Accepting a text ends early in failures only. -/
theorem failsOnly_acceptedTree (columns : Nat) (dialect : Dialect) (sql : String) :
    FailsOnly (acceptedTree columns dialect sql).outcome := by
  unfold acceptedTree acceptedTreeBy
  split
  · exact failsOnly_refuse _ _ _
  · rw [Logged.outcome_bind]
    refine .bind ?_ fun tree => ?_
    · intro ending h
      obtain ⟨error, _, rfl⟩ := mapError_eq_error_iff.mp h
      exact status_ofPrinted_failure _
    · split
      · exact failsOnly_refuse _ _ _
      · exact failsOnly_ok _

namespace Request

variable {columns : Nat} {request : Request} {store : FileStore}

/-- Finding the origin ends early in failures only. -/
theorem failsOnly_origin (columns : Nat) (request : Request) : FailsOnly (request.origin columns).outcome := by
  unfold origin
  split
  · exact failsOnly_refuse _ _ _
  · exact failsOnly_refuse _ _ _
  · exact failsOnly_ok _
  · exact failsOnly_ok _

/-- Choosing the dialect ends early in failures only. -/
theorem failsOnly_chosenDialect (columns : Nat) (request : Request) :
    FailsOnly (request.chosenDialect columns).outcome := by
  unfold chosenDialect
  split
  · exact failsOnly_ok _
  · exact failsOnly_refuse _ _ _

/-- Reading the origin ends early in failures only. -/
theorem failsOnly_textIn (store : FileStore) (origin : Origin) : FailsOnly (origin.textIn store) := by
  unfold Origin.textIn
  split
  · exact failsOnly_ok _
  · split
    · exact failsOnly_error rfl
    · split
      · exact failsOnly_error rfl
      · exact failsOnly_ok _

/-- Laying out a result ends early in failures only. -/
theorem failsOnly_deliveryOf (columns : Nat) (request : Request) (result : Recognition) :
    FailsOnly (deliveryOf columns request result).outcome := by
  unfold deliveryOf
  split
  · exact failsOnly_ok _
  · exact failsOnly_ok _
  · split
    · exact failsOnly_error rfl
    · split
      · exact failsOnly_ok _
      · exact failsOnly_ok _

/-- The command fails wherever it ends without a result. -/
theorem failsOnly_attempt (columns : Nat) (request : Request) (store : FileStore) :
    FailsOnly (request.attempt columns store) := by
  rw [attempt, outcome_opening]
  refine .bind (.bind (failsOnly_origin columns request) fun origin => ?_) fun opened => ?_
  · exact .bind (failsOnly_chosenDialect columns request) fun _ => failsOnly_ok _
  · refine .bind (failsOnly_textIn store opened.1) fun sql => ?_
    rw [outcome_answer]
    refine .bind (failsOnly_acceptedTree columns opened.2 sql) fun tree => ?_
    refine .bind (failsOnly_resultOf _ _) fun result => ?_
    exact .bind (failsOnly_deliveryOf columns request result) fun _ => failsOnly_ok _

end Request

/-! ## Results -/

/-- A result is the recognition, or the message of the error that recognition refused with. -/
theorem resultOf_eq_ok_iff {statement : Statement} {keyPositions : List Int} {result : Recognition} :
    (resultOf statement keyPositions).outcome = .ok result ↔
      (statement.recognize keyPositions).outcome = .ok result ∨
        ∃ error, (statement.recognize keyPositions).outcome = .error (.recognition error) ∧
          result = .ofError statement.sql statement.dialect.key error.message := by
  unfold resultOf
  dsimp only
  split
  · next found hfound => simp only [hfound, Except.ok.injEq, reduceCtorEq, false_and, exists_false, or_false]
  · next error herror =>
    simp only [herror, reduceCtorEq, false_or, Except.error.injEq, Failure.recognition.injEq, Except.ok.injEq]
    constructor
    · rintro rfl
      exact ⟨error, rfl, rfl⟩
    · rintro ⟨_, rfl, rfl⟩
      rfl
  · next error herror => simp only [herror, reduceCtorEq, Except.error.injEq, false_and, exists_false, or_self]
  · next herror => simp only [herror, reduceCtorEq, Except.error.injEq, false_and, exists_false, or_self]

/-- A result without errors is one of a recognition. -/
theorem recognize_of_resultOf {statement : Statement} {keyPositions : List Int} {result : Recognition}
    (h : (resultOf statement keyPositions).outcome = .ok result) (herrors : result.hasErrors = false) :
    (statement.recognize keyPositions).outcome = .ok result := by
  rcases resultOf_eq_ok_iff.mp h with hresult | ⟨error, _, rfl⟩
  · exact hresult
  · cases herrors

/-- A recognition is about the text of the statement, and has no errors. -/
theorem sql_and_errors_of_recognize {statement : Statement} {keyPositions : List Int} {result : Recognition}
    (h : (statement.recognize keyPositions).outcome = .ok result) :
    result.sql = statement.sql ∧ result.errors = [] := by
  rw [Statement.outcome_recognize] at h
  obtain ⟨tableName, _, h⟩ := bind_eq_ok_iff.mp h
  obtain ⟨tableAlias, _, h⟩ := bind_eq_ok_iff.mp h
  obtain ⟨columns, _, h⟩ := bind_eq_ok_iff.mp h
  obtain ⟨rows, _, h⟩ := bind_eq_ok_iff.mp h
  obtain ⟨assigned, _, h⟩ := bind_eq_ok_iff.mp h
  cases h
  exact ⟨rfl, rfl⟩

/-- A result that tells only what went wrong has no numbers, so it can be written. -/
theorem exists_write_ofError (sql dialect message : String) (indent : Option Nat) :
    ∃ text, (Recognition.ofError sql dialect message).json.write indent = .ok text := by
  rw [Json.exists_write_iff, Recognition.integers_json]
  exact List.forall_mem_nil _

/-- The end behind a report is a success if the result has no errors and all of it was printed. -/
theorem toldEnding_of_complete {result : Recognition} {report : Console.Printed} (herrors : result.hasErrors = false)
    (hcomplete : report.failure = none) : toldEnding result report = ⟨report.text, Ending.success, none⟩ := by
  unfold toldEnding Ending.ofPrinted
  rw [herrors, hcomplete]
  rfl

/-- It is one only then. -/
theorem complete_of_success {result : Recognition} {report : Console.Printed}
    (h : (toldEnding result report).status = Ending.success) : result.hasErrors = false ∧ report.failure = none := by
  unfold toldEnding Ending.ofPrinted at h
  cases hfailure : report.failure with
  | some error =>
    rw [hfailure] at h
    cases h
  | none =>
    rw [hfailure] at h
    cases herrors : result.hasErrors with
    | true =>
      rw [herrors] at h
      cases h
    | false => exact ⟨rfl, rfl⟩

/-- A result with errors ends with the status of failure, however much of it was shown. -/
theorem status_toldEnding_of_errors {result : Recognition} (h : result.hasErrors = true) (report : Console.Printed) :
    (toldEnding result report).status = Ending.failure := by
  rw [toldEnding, if_pos h, status_ofPrinted_failure]

namespace Request

variable {columns : Nat} {request : Request} {store : FileStore}

/-- A result is told completely in the form that was asked for: it is printed, or all that is in the file it
was meant for. -/
def IsTold (columns : Nat) (request : Request) (result : Recognition) (output : String) (after : FileStore) : Prop :=
  match request.form with
  | .console => Console.report .full columns result = ⟨output, none⟩
  | .compact => Console.report .compact columns result = ⟨output, none⟩
  | .json =>
    ∃ text, result.json.write (some jsonIndent) = .ok text ∧
      match Journal.nonempty? request.outputFile with
      | none => output = text ++ "\n"
      | some path => after.read path = .ok (Text.encode text.toList)

/-- Nothing keeps a result from being told completely: its form has a text, all of which can be printed, and the
file it is meant for can be written. -/
def CanBeTold (columns : Nat) (request : Request) (result : Recognition) (store : FileStore) : Prop :=
  match request.form with
  | .console => (Console.report .full columns result).failure = none
  | .compact => (Console.report .compact columns result).failure = none
  | .json =>
    ∃ text, result.json.write (some jsonIndent) = .ok text ∧
      ∀ path, Journal.nonempty? request.outputFile = some path →
        (writtenReport columns path).failure = none ∧ ∃ changed, store.write path text = .ok changed

/-- A result goes to a file exactly in the form of JSON with a file named, and then as its whole text. -/
theorem deliveryOf_stored_iff {result : Recognition} {path text : String} :
    (deliveryOf columns request result).outcome = .ok (.stored path text) ↔
      request.form = .json ∧ Journal.nonempty? request.outputFile = some path ∧
        result.json.write (some jsonIndent) = .ok text := by
  unfold deliveryOf
  cases request.form with
  | console => simp only [Logged.ok, Except.ok.injEq, reduceCtorEq, false_and]
  | compact => simp only [Logged.ok, Except.ok.injEq, reduceCtorEq, false_and]
  | json =>
    dsimp only
    cases result.json.write (some jsonIndent) with
    | error error => simp only [interrupt, Logged.fail, reduceCtorEq, and_false]
    | ok written =>
      dsimp only
      cases Journal.nonempty? request.outputFile with
      | none => simp only [Logged.ok, Except.ok.injEq, reduceCtorEq, false_and, and_false]
      | some place =>
        simp only [Logged.ok, Except.ok.injEq, Delivery.stored.injEq, Option.some.injEq, true_and]

/-- What is printed is the report of the form asked for, or the JSON text where no file is named. -/
theorem deliveryOf_printed_iff {result : Recognition} {report : Console.Printed} :
    (deliveryOf columns request result).outcome = .ok (.printed report) ↔
      match request.form with
      | .console => Console.report .full columns result = report
      | .compact => Console.report .compact columns result = report
      | .json =>
        Journal.nonempty? request.outputFile = none ∧
          ∃ text, result.json.write (some jsonIndent) = .ok text ∧ report = ⟨text ++ "\n", none⟩ := by
  unfold deliveryOf
  cases request.form with
  | console => simp only [Logged.ok, Except.ok.injEq, Delivery.printed.injEq]
  | compact => simp only [Logged.ok, Except.ok.injEq, Delivery.printed.injEq]
  | json =>
    dsimp only
    cases result.json.write (some jsonIndent) with
    | error error => simp only [interrupt, Logged.fail, reduceCtorEq, false_and, exists_false, and_false]
    | ok text =>
      dsimp only
      cases Journal.nonempty? request.outputFile with
      | none =>
        simp only [Logged.ok, Except.ok.injEq, Delivery.printed.injEq, exists_eq_left', true_and]
        exact eq_comm
      | some path => simp only [Logged.ok, Except.ok.injEq, reduceCtorEq, false_and]

/-- A report that came to its end tells the result. -/
theorem isTold_of_printed {result : Recognition} {report : Console.Printed}
    (h : (deliveryOf columns request result).outcome = .ok (.printed report)) (hcomplete : report.failure = none)
    (after : FileStore) : request.IsTold columns result report.text after := by
  have hreport : report = ⟨report.text, none⟩ := hcomplete ▸ rfl
  have hform := deliveryOf_printed_iff.mp h
  unfold IsTold
  cases hchosen : request.form with
  | console =>
    rw [hchosen] at hform
    exact hform.trans hreport
  | compact =>
    rw [hchosen] at hform
    exact hform.trans hreport
  | json =>
    rw [hchosen] at hform
    obtain ⟨hfile, text, htext, rfl⟩ := hform
    refine ⟨text, htext, ?_⟩
    rw [hfile]

/-- A file that was written tells the result, whatever stands on the console. -/
theorem isTold_of_stored {result : Recognition} {path text : String} {changed : FileStore}
    (h : (deliveryOf columns request result).outcome = .ok (.stored path text))
    (hwrite : store.write path text = .ok changed) (output : String) :
    request.IsTold columns result output changed := by
  obtain ⟨hform, hfile, htext⟩ := deliveryOf_stored_iff.mp h
  unfold IsTold
  rw [hform]
  refine ⟨text, htext, ?_⟩
  rw [hfile]
  exact (FileStore.read_of_write hwrite).1

/-- The files change only where a result in JSON form is written to the file that was asked for. -/
theorem storeAfter_cases (columns : Nat) (request : Request) (store : FileStore) :
    request.storeAfter columns store = store ∨
      ∃ path statement result text, request.form = .json ∧ Journal.nonempty? request.outputFile = some path ∧
        request.Reaches store statement ∧ (resultOf statement request.keyPositions).outcome = .ok result ∧
        result.json.write (some jsonIndent) = .ok text ∧
        store.write path text = .ok (request.storeAfter columns store) := by
  have hcourse := course columns request store
  generalize request.ending columns store = ending, request.storeAfter columns store = after at hcourse ⊢
  cases hcourse with
  | refused => exact .inl rfl
  | printed => exact .inl rfl
  | unwritten => exact .inl rfl
  | written hattempt hwrite =>
    obtain ⟨statement, hreaches, hresult, hdelivery⟩ := attempt_eq_ok_iff.mp hattempt
    obtain ⟨hform, hfile, htext⟩ := deliveryOf_stored_iff.mp hdelivery
    exact .inr ⟨_, statement, _, _, hform, hfile, hreaches, hresult, htext, hwrite⟩

/-- Without a file for the result the files stay as they are. -/
theorem storeAfter_of_no_outputFile (h : Journal.nonempty? request.outputFile = none) :
    request.storeAfter columns store = store := by
  rcases storeAfter_cases columns request store with hsame | ⟨path, _, _, _, _, hfile, _⟩
  · exact hsame
  · rw [h] at hfile
    cases hfile

/-- A success stands for a result without errors that was told completely. -/
theorem told_of_success (h : (request.ending columns store).status = Ending.success) :
    (request.ending columns store).interruption = none ∧
      ∃ statement result, request.Reaches store statement ∧
        (statement.recognize request.keyPositions).outcome = .ok result ∧
        request.IsTold columns result (request.ending columns store).output (request.storeAfter columns store) := by
  have hcourse := course columns request store
  generalize request.ending columns store = ending, request.storeAfter columns store = after at hcourse h ⊢
  cases hcourse with
  | refused hattempt =>
    rw [failsOnly_attempt columns request store _ hattempt] at h
    cases h
  | printed hattempt =>
    obtain ⟨herrors, hcomplete⟩ := complete_of_success h
    obtain ⟨statement, hreaches, hresult, hdelivery⟩ := attempt_eq_ok_iff.mp hattempt
    rw [toldEnding_of_complete herrors hcomplete]
    exact ⟨rfl, statement, _, hreaches, recognize_of_resultOf hresult herrors,
      isTold_of_printed hdelivery hcomplete _⟩
  | unwritten =>
    rw [Ending.complaint, status_ofPrinted_failure] at h
    cases h
  | written hattempt hwrite =>
    obtain ⟨herrors, hcomplete⟩ := complete_of_success h
    obtain ⟨statement, hreaches, hresult, hdelivery⟩ := attempt_eq_ok_iff.mp hattempt
    rw [toldEnding_of_complete herrors hcomplete]
    exact ⟨rfl, statement, _, hreaches, recognize_of_resultOf hresult herrors,
      isTold_of_stored hdelivery hwrite _⟩

/-- A recognition that can be told is a success. -/
theorem success_of_canBeTold {statement : Statement} {result : Recognition} (hreaches : request.Reaches store statement)
    (hresult : (statement.recognize request.keyPositions).outcome = .ok result)
    (hcan : request.CanBeTold columns result store) : (request.ending columns store).status = Ending.success := by
  have herrors : result.hasErrors = false := by
    rw [Recognition.hasErrors, (sql_and_errors_of_recognize hresult).2]
    rfl
  have hattempt : ∀ delivery, (deliveryOf columns request result).outcome = .ok delivery →
      request.attempt columns store = .ok (result, delivery) := fun delivery hdelivery =>
    attempt_eq_ok_iff.mpr ⟨statement, hreaches, resultOf_eq_ok_iff.mpr (.inl hresult), hdelivery⟩
  -- A report that comes to its end is a success in every form.
  have hprinted : ∀ report, (deliveryOf columns request result).outcome = .ok (.printed report) →
      report.failure = none → (request.ending columns store).status = Ending.success := by
    intro report hdelivery hcomplete
    rw [(ending_of_printed (hattempt _ hdelivery)).1, toldEnding_of_complete herrors hcomplete]
  unfold CanBeTold at hcan
  cases hform : request.form with
  | console =>
    rw [hform] at hcan
    exact hprinted _ (deliveryOf_printed_iff.mpr (by rw [hform])) hcan
  | compact =>
    rw [hform] at hcan
    exact hprinted _ (deliveryOf_printed_iff.mpr (by rw [hform])) hcan
  | json =>
    rw [hform] at hcan
    obtain ⟨text, htext, hplace⟩ := hcan
    cases hfile : Journal.nonempty? request.outputFile with
    | none => exact hprinted _ (deliveryOf_printed_iff.mpr (by rw [hform]; exact ⟨hfile, text, htext, rfl⟩)) rfl
    | some path =>
      obtain ⟨hshown, changed, hwrite⟩ := hplace path hfile
      have hdelivery := hattempt _ (deliveryOf_stored_iff.mpr ⟨hform, hfile, htext⟩)
      rw [(ending_of_written hdelivery hwrite).1, toldEnding_of_complete herrors hshown]

/-- A result that can be written goes somewhere in every form. -/
theorem exists_deliveryOf {result : Recognition} (columns : Nat) (request : Request)
    (h : ∃ text, result.json.write (some jsonIndent) = .ok text) :
    ∃ delivery, (deliveryOf columns request result).outcome = .ok delivery := by
  obtain ⟨text, htext⟩ := h
  unfold deliveryOf
  cases request.form with
  | console => exact ⟨_, rfl⟩
  | compact => exact ⟨_, rfl⟩
  | json =>
    rw [htext]
    dsimp only
    cases Journal.nonempty? request.outputFile <;> exact ⟨_, rfl⟩

/-- A statement that is refused makes the command fail, and in JSON form nothing but the refusal is told. -/
theorem told_of_refusal {statement : Statement} {error : RecognitionError} (hreaches : request.Reaches store statement)
    (herror : (statement.recognize request.keyPositions).outcome = .error (.recognition error)) :
    (request.ending columns store).status = Ending.failure ∧
      (request.form = .json →
        ∃ text, (Recognition.ofError statement.sql statement.dialect.key error.message).json.write (some jsonIndent) =
            .ok text ∧
          match Journal.nonempty? request.outputFile with
          | none => (request.ending columns store).output = text ++ "\n" ∧ request.storeAfter columns store = store
          | some path =>
            store.write path text = .ok (request.storeAfter columns store) ∨
              (∃ fault, store.write path text = .error fault) ∧ request.storeAfter columns store = store) := by
  have hresult := Statement.resultOf_of_recognition herror
  obtain ⟨delivery, hdelivery⟩ := exists_deliveryOf columns request
    (exists_write_ofError statement.sql statement.dialect.key error.message (some jsonIndent))
  have hattempt := attempt_eq_ok_iff.mpr ⟨statement, hreaches, hresult, hdelivery⟩
  -- The refusal is printed, or it goes to the file, which may fail to be written.
  cases delivery with
  | printed report =>
    obtain ⟨hending, hstore⟩ := ending_of_printed hattempt
    rw [hending, hstore]
    refine ⟨status_toldEnding_of_errors rfl report, fun hform => ?_⟩
    have hprinted := deliveryOf_printed_iff.mp hdelivery
    rw [hform] at hprinted
    obtain ⟨hfile, text, htext, rfl⟩ := hprinted
    refine ⟨text, htext, ?_⟩
    rw [hfile]
    exact ⟨rfl, rfl⟩
  | stored path text =>
    obtain ⟨_, hfile, htext⟩ := deliveryOf_stored_iff.mp hdelivery
    cases hwrite : store.write path text with
    | error fault =>
      obtain ⟨hending, hstore⟩ := ending_of_unwritten hattempt hwrite
      rw [hending, hstore]
      refine ⟨status_ofPrinted_failure _, fun _ => ⟨text, htext, ?_⟩⟩
      rw [hfile]
      exact .inr ⟨⟨fault, hwrite⟩, rfl⟩
    | ok changed =>
      obtain ⟨hending, hstore⟩ := ending_of_written hattempt hwrite
      rw [hending, hstore]
      refine ⟨status_toldEnding_of_errors rfl _, fun _ => ⟨text, htext, ?_⟩⟩
      rw [hfile]
      exact .inl hwrite

end Request

/-- Whether a text begins with its one statement, an insertion that is recognized and can be written. -/
def isToldInJson (dialect : Dialect) (sql : String) (keyPositions : List Int) : Bool :=
  match Sql.statements dialect.grammar sql with
  | .ok [some tree] =>
    tree.isA .insert && match (Statement.recognize ⟨dialect, sql, tree⟩ keyPositions).outcome with
      | .ok result => (result.json.write (some jsonIndent)).isOk
      | .error _ => false
  | _ => false

/-- What the check accepts is one insertion whose result can be written as JSON. -/
theorem exists_of_isToldInJson {dialect : Dialect} {sql : String} {keyPositions : List Int}
    (h : isToldInJson dialect sql keyPositions = true) :
    ∃ tree result text, Sql.HoldsOne (Sql.statements dialect.grammar sql) 0 tree ∧ tree.isA .insert = true ∧
      (Statement.recognize ⟨dialect, sql, tree⟩ keyPositions).outcome = .ok result ∧
      result.json.write (some jsonIndent) = .ok text := by
  unfold isToldInJson at h
  split at h
  · next tree hentries =>
    obtain ⟨hinsertion, h⟩ := Bool.and_eq_true_iff.mp h
    split at h
    · next result hresult =>
      cases htext : result.json.write (some jsonIndent) with
      | error error =>
        rw [htext] at h
        cases h
      | ok text => exact ⟨tree, result, text, ⟨0, hentries⟩, hinsertion, hresult, htext⟩
    · cases h
  · cases h

/-! ## Arguments -/

/-- The request that the arguments of the command make, in view of the files. -/
def requestOf? (arguments : List String) (store : FileStore) : Option Request :=
  match Arguments.read RecognizeOption.optionForms true arguments with
  | .error _ => none
  | .ok found =>
    if found.meanings.contains .help then none
    else (Request.ofArguments found ((found.values .file).getLast?.any fun path => (store.locate path).isOk)).toOption

/-- The help is asked for among the arguments of the command. -/
def AsksForHelp (arguments : List String) : Prop :=
  ∃ found, Arguments.read RecognizeOption.optionForms true arguments = .ok found ∧
    found.meanings.contains .help = true

/-- What the command comes to with some arguments: its answer, and the files behind it. -/
def Surroundings.courseOf (surroundings : Surroundings) (arguments : List String) (store : FileStore) :
    Response × FileStore :=
  (surroundings.recognizeStatement FileStore.access arguments).run store

/-- Arguments that make a request have it carried out. All others leave the files as they are, and unless the
help is asked for they end as a failure. -/
theorem courseOf_eq (surroundings : Surroundings) (arguments : List String) (store : FileStore) :
    match requestOf? arguments store with
    | some request =>
      surroundings.courseOf arguments store = (recognize FileStore.access surroundings.columns request).run store
    | none =>
      (surroundings.courseOf arguments store).2 = store ∧
        ((surroundings.courseOf arguments store).1.ending.status = Ending.success → AsksForHelp arguments) := by
  unfold Surroundings.courseOf
  unfold requestOf? AsksForHelp
  cases hread : Arguments.read RecognizeOption.optionForms true arguments with
  | error error =>
    unfold Surroundings.recognizeStatement
    rw [hread]
    exact ⟨rfl, fun h => by cases h⟩
  | ok found =>
    dsimp only
    -- The help is answered before the request is made, and a file is looked for only if one is named.
    by_cases hhelp : found.meanings.contains .help = true
    · unfold Surroundings.recognizeStatement
      rw [hread]
      dsimp only
      rw [if_pos hhelp, if_pos hhelp]
      exact ⟨rfl, fun _ => ⟨found, rfl, hhelp⟩⟩
    · unfold Surroundings.recognizeStatement
      rw [if_neg hhelp, hread]
      dsimp only
      rw [if_neg hhelp]
      cases (found.values .file).getLast? with
      | none =>
        rw [pure_bind, Option.any_none]
        cases Request.ofArguments found false with
        | ok request => rfl
        | error error => cases error <;> exact ⟨rfl, fun h => by cases h⟩
      | some path =>
        have hpresent : (FileStore.access.isPresent path).run store = pure ((store.locate path).isOk, store) := rfl
        dsimp only
        rw [StateT.run_bind, hpresent, pure_bind, Option.any_some]
        cases Request.ofArguments found (store.locate path).isOk with
        | ok request => rfl
        | error error => cases error <;> exact ⟨rfl, fun h => by cases h⟩

/-! ## Status and files together -/

/-- What the end of the command and the files behind it owe to a request. -/
structure Request.IsTrustworthy (columns : Nat) (request : Request) (store : FileStore) (ending : Ending)
    (after : FileStore) : Prop where
  /-- The files are as they were, or the file that was asked for holds the whole JSON form of the result, while
  every other place is as it was. -/
  files : after = store ∨
    ∃ path statement result text, request.form = .json ∧ Journal.nonempty? request.outputFile = some path ∧
      request.Reaches store statement ∧ (resultOf statement request.keyPositions).outcome = .ok result ∧
      result.json.write (some jsonIndent) = .ok text ∧ after.read path = .ok (Text.encode text.toList) ∧
      ∃ place, store.target path = .ok place ∧
        ∀ names, names ≠ place → FileStore.entry? after names = store.entry? names
  /-- A success is a result without errors that was told completely. -/
  success : ending.status = Ending.success →
    ending.interruption = none ∧
      ∃ statement result, request.Reaches store statement ∧
        (statement.recognize request.keyPositions).outcome = .ok result ∧ result.errors = [] ∧
        request.IsTold columns result ending.output after
  /-- There is a success wherever a result can be told. -/
  told : ∀ statement result, request.Reaches store statement →
    (statement.recognize request.keyPositions).outcome = .ok result → request.CanBeTold columns result store →
      ending.status = Ending.success
  /-- A refusal is a failure, and nothing else is told in JSON form. -/
  refusal : ∀ statement error, request.Reaches store statement →
    (statement.recognize request.keyPositions).outcome = .error (.recognition error) →
      ending.status = Ending.failure ∧
        (request.form = .json →
          ∃ (result : Recognition) (text : String),
            result.errors = [error.message] ∧ result.tableName = none ∧ result.rows = [] ∧
            result.json.write (some jsonIndent) = .ok text ∧
            match Journal.nonempty? request.outputFile with
            | none => ending.output = text ++ "\n" ∧ after = store
            | some path =>
              after.read path = .ok (Text.encode text.toList) ∨
                (∃ fault, store.write path text = .error fault) ∧ after = store)

/-- The command keeps what it owes to a request. -/
theorem Request.isTrustworthy (columns : Nat) (request : Request) (store : FileStore) :
    request.IsTrustworthy columns store (request.ending columns store) (request.storeAfter columns store) where
  files := by
    rcases Request.storeAfter_cases columns request store with
      hsame | ⟨path, statement, result, text, hform, hfile, hreaches, hresult, htext, hwrite⟩
    · exact .inl hsame
    · obtain ⟨hread, hothers⟩ := FileStore.read_of_write hwrite
      exact .inr ⟨path, statement, result, text, hform, hfile, hreaches, hresult, htext, hread, hothers⟩
  success := by
    intro hsuccess
    obtain ⟨hwhole, statement, result, hreaches, hresult, htold⟩ := Request.told_of_success hsuccess
    exact ⟨hwhole, statement, result, hreaches, hresult, (sql_and_errors_of_recognize hresult).2, htold⟩
  told := fun _ _ hreaches hresult hcan => Request.success_of_canBeTold hreaches hresult hcan
  refusal := by
    intro statement error hreaches herror
    obtain ⟨hstatus, hdocument⟩ := @Request.told_of_refusal columns _ _ _ _ hreaches herror
    refine ⟨hstatus, fun hform => ?_⟩
    obtain ⟨text, htext, hplace⟩ := hdocument hform
    refine ⟨_, text, rfl, rfl, rfl, htext, ?_⟩
    cases hfile : Journal.nonempty? request.outputFile with
    | none =>
      rw [hfile] at hplace
      exact hplace
    | some path =>
      rw [hfile] at hplace
      exact hplace.imp_left fun hwrite => (FileStore.read_of_write hwrite).1

/-- What the status and the files say about the command, for every request and for every list of arguments.
Arguments that make a request keep what is owed to it. All others leave the files as they are and end as a
failure, unless the help is asked for. -/
theorem status_and_files (surroundings : Surroundings) (arguments : List String) (store : FileStore) :
    (∀ columns request, Request.IsTrustworthy columns request store (request.ending columns store)
      (request.storeAfter columns store)) ∧
    match requestOf? arguments store with
    | some request =>
      Request.IsTrustworthy surroundings.columns request store
        (surroundings.courseOf arguments store).1.ending (surroundings.courseOf arguments store).2
    | none =>
      (surroundings.courseOf arguments store).2 = store ∧
        ((surroundings.courseOf arguments store).1.ending.status = Ending.success → AsksForHelp arguments) := by
  refine ⟨fun columns request => request.isTrustworthy columns store, ?_⟩
  have hcourse := courseOf_eq surroundings arguments store
  cases hrequest : requestOf? arguments store with
  | none =>
    rw [hrequest] at hcourse
    exact hcourse
  | some request =>
    rw [hrequest] at hcourse
    dsimp only at hcourse ⊢
    rw [hcourse]
    exact request.isTrustworthy surroundings.columns store

/-- A request for the insertion of one row, to be told in a file. -/
def storedInsertion : Request :=
  ⟨some "INSERT INTO t VALUES (1)", none, "MySQL", [0], .json, some "out.json"⟩

/-- The arguments that make it. -/
def storedInsertionArguments : List String :=
  ["-s", "INSERT INTO t VALUES (1)", "--dialect=MySQL", "-k", "0", "-o", "json", "-F", "out.json"]

/-- An insertion given on the command line succeeds and leaves its whole JSON text in the file named. -/
theorem status_and_files_storedInsertion :
    requestOf? storedInsertionArguments ⟨[]⟩ = some storedInsertion ∧
      ∀ surroundings : Surroundings, surroundings.columns = 80 →
        (surroundings.courseOf storedInsertionArguments ⟨[]⟩).1.ending.status = Ending.success ∧
          ∃ (result : Recognition) (text : String), result.errors = [] ∧
            result.json.write (some jsonIndent) = .ok text ∧
            (surroundings.courseOf storedInsertionArguments ⟨[]⟩).2.read "out.json" =
              .ok (Text.encode text.toList) := by
  have hrequest : requestOf? storedInsertionArguments ⟨[]⟩ = some storedInsertion := by decide +kernel
  have hchecked : isToldInJson .mysql "INSERT INTO t VALUES (1)" [0] = true := by decide +kernel
  have hblank : "INSERT INTO t VALUES (1)".all Text.isBlank = false := by
    rw [String.all_bool_eq]
    decide +kernel
  have hlength : "INSERT INTO t VALUES (1)".length ≤ textLengthLimit := by decide +kernel
  have hdialect : Dialect.ofKey? (Text.lower storedInsertion.dialect) = some .mysql := by decide +kernel
  have htarget : FileStore.target ⟨[]⟩ "out.json" = .ok ["out.json"] := by decide +kernel
  have hshown : (writtenReport 80 "out.json").failure.isNone = true := by decide +kernel
  obtain ⟨tree, result, text, hone, hinsertion, hresult, htext⟩ := exists_of_isToldInJson hchecked
  have hreaches : storedInsertion.Reaches ⟨[]⟩ ⟨.mysql, "INSERT INTO t VALUES (1)", tree⟩ :=
    Request.reaches_of_holdsOne (.text rfl rfl) hdialect hblank hlength hone hinsertion
  have hcan : storedInsertion.CanBeTold 80 result ⟨[]⟩ := by
    refine ⟨text, htext, fun path hpath => ?_⟩
    cases hpath
    refine ⟨Option.isNone_iff_eq_none.mp hshown, FileStore.put ["out.json"] (Text.encode text.toList) ⟨[]⟩, ?_⟩
    rw [FileStore.write, htarget]
    rfl
  refine ⟨hrequest, fun surroundings hcolumns => ?_⟩
  obtain ⟨_, htrust⟩ := status_and_files surroundings storedInsertionArguments ⟨[]⟩
  rw [hrequest] at htrust
  dsimp only at htrust
  rw [hcolumns] at htrust
  have hstatus := htrust.told _ result hreaches hresult hcan
  obtain ⟨_, _, told, _, _, hempty, written, hwritten, hread⟩ := htrust.success hstatus
  exact ⟨hstatus, told, written, hempty, hwritten, hread⟩

end SqlInsert.CommandLine
