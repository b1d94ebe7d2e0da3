import SqlInsert.CommandLine.Recognize
import SqlInsert.Proofs.Outcome
/-!
# The ways of the command

The command decides on a result and where it goes before it writes anything. So it ends in one of four
ways on a file store: without a result, with a result that is printed, and with one that is meant for a file
and is written there or is not.
-/

namespace SqlInsert.CommandLine

/-! ## Steps on a file store -/

section

variable {ε α β : Type}

/-- The outcome of a step, and the files behind it. -/
def outcomeIn (store : FileStore) (step : StateM FileStore (Logged ε α)) : Except ε α × FileStore :=
  ((step.run store).1.outcome, (step.run store).2)

/-- After a first effect, the rest runs on the store the effect leaves. -/
theorem outcomeIn_bind {store changed : FileStore} {effect : StateM FileStore β} {value : β}
    (h : effect.run store = (value, changed)) (next : β → StateM FileStore (Logged ε α)) :
    outcomeIn store (effect >>= next) = outcomeIn changed (next value) := by
  unfold outcomeIn
  rw [StateT.run_bind, h]
  rfl

/-- A logged step hands its value on, and its error ends the course with the store as it was. -/
theorem outcomeIn_followedBy (store : FileStore) (first : Logged ε α)
    (next : α → StateM FileStore (Logged ε β)) :
    outcomeIn store (first.followedBy next) =
      match first.outcome with
      | .ok value => outcomeIn store (next value)
      | .error error => (.error error, store) := by
  unfold Logged.followedBy outcomeIn
  cases first.outcome <;> rfl

end

/-- The text that a statement is read from. -/
def Origin.textIn (store : FileStore) : Origin → Except Ending String
  | .text sql => .ok sql
  | .file path =>
    match store.read path with
    | .error fault => .error (.interrupted "" (.file path fault))
    | .ok bytes =>
      match Text.decode bytes with
      | .error error => .error (.interrupted "" (.encoding error))
      | .ok sql => .ok (String.ofList (Text.plainFeeds sql))

/-- The text of a file is its decoded bytes with the line ends made plain. -/
theorem textIn_file_eq_ok_iff {store : FileStore} {path sql : String} :
    Origin.textIn store (.file path) = .ok sql ↔
      ∃ bytes chars, store.read path = .ok bytes ∧ Text.decode bytes = .ok chars ∧
        String.ofList (Text.plainFeeds chars) = sql := by
  rw [Origin.textIn]
  cases store.read path with
  | error fault => simp only [reduceCtorEq, false_and, exists_false]
  | ok bytes =>
    dsimp only
    simp only [Except.ok.injEq, exists_and_left, exists_eq_left']
    cases Text.decode bytes with
    | error error => simp only [reduceCtorEq, false_and, exists_false]
    | ok chars => simp only [Except.ok.injEq, exists_eq_left']

/-- Reading an origin leaves the store as it was. -/
theorem outcomeIn_read (store : FileStore) (origin : Origin) :
    outcomeIn store (origin.read FileStore.access) = (origin.textIn store, store) := by
  cases origin with
  | text sql => rfl
  | file path =>
    have hread : (FileStore.access.read path).run store = (store.read path, store) := rfl
    rw [Origin.read, outcomeIn_bind hread, Origin.textIn]
    cases store.read path with
    | error fault => rfl
    | ok bytes =>
      dsimp only
      cases Text.decode bytes <;> rfl

namespace Request

/-- How the command ends. -/
def ending (columns : Nat) (request : Request) (store : FileStore) : Ending :=
  ((recognize FileStore.access columns request).run store).1.ending

/-- The files behind the command. -/
def storeAfter (columns : Nat) (request : Request) (store : FileStore) : FileStore :=
  ((recognize FileStore.access columns request).run store).2

/-- The result and where it goes, or how the command ends without one. -/
def attempt (columns : Nat) (request : Request) (store : FileStore) : Except Ending (Recognition × Delivery) := do
  let (origin, dialect) ← (request.opening columns).outcome
  let sql ← origin.textIn store
  (answer columns request dialect sql).outcome

end Request

/-- The end behind a report of a result. -/
def toldEnding (result : Recognition) (report : Console.Printed) : Ending :=
  Ending.ofPrinted (if result.hasErrors then Ending.failure else Ending.success) report

/-- What is printed when a result was written to a file. -/
def writtenReport (columns : Nat) (path : String) : Console.Printed :=
  Console.print columns [Console.markupBlock columns ("[green]Results written to:[/green] " ++ path)]

/-- The ways of the command to its end: without a result, with a result that is printed, and with one that
is meant for a file and written there or not. -/
inductive Course (columns : Nat) (request : Request) (store : FileStore) : Ending → FileStore → Prop
  | refused {ending : Ending} (attempt : request.attempt columns store = .error ending) :
      Course columns request store ending store
  | printed {result : Recognition} {report : Console.Printed}
      (attempt : request.attempt columns store = .ok (result, .printed report)) :
      Course columns request store (toldEnding result report) store
  | unwritten {result : Recognition} {path text : String} {fault : FileFault}
      (attempt : request.attempt columns store = .ok (result, .stored path text))
      (fails : store.write path text = .error fault) :
      Course columns request store
        (.complaint columns ("Failed to write output file: " ++ fault.message path)) store
  | written {result : Recognition} {path text : String} {changed : FileStore}
      (attempt : request.attempt columns store = .ok (result, .stored path text))
      (writes : store.write path text = .ok changed) :
      Course columns request store (toldEnding result (writtenReport columns path)) changed

/-- The end behind what was carried out of a result. -/
def concluded (result : Recognition) : Except Ending String → Ending
  | .error ending => ending
  | .ok output => ⟨output, if result.hasErrors then Ending.failure else Ending.success, none⟩

/-- A result that was delivered is concluded with the text of its report. -/
theorem outcome_conclude (result : Recognition) (output : String) :
    (conclude result output).outcome = .ok (concluded result (.ok output)) := by
  unfold conclude concluded
  cases result.hasErrors <;> rfl

/-- A printed report concludes with the ending it tells, broken off or not. -/
theorem concluded_printedText (result : Recognition) (report : Console.Printed) :
    concluded result (printedText report).outcome = toldEnding result report := by
  unfold printedText toldEnding Ending.ofPrinted
  cases report.failure <;> rfl

/-- Printing leaves the store as it was. -/
theorem outcomeIn_carryOut_printed (columns : Nat) (store : FileStore) (report : Console.Printed) :
    outcomeIn store (Delivery.carryOut FileStore.access columns (.printed report)) =
      ((printedText report).outcome, store) := rfl

/-- A file that cannot be written is complained about, and the store stays as it was. -/
theorem outcomeIn_carryOut_unwritten {columns : Nat} {store : FileStore} {path text : String} {fault : FileFault}
    (h : store.write path text = .error fault) :
    outcomeIn store (Delivery.carryOut FileStore.access columns (.stored path text)) =
      (.error (.complaint columns ("Failed to write output file: " ++ fault.message path)), store) := by
  have hrun : (FileStore.access.write path text).run store = (.error fault, store) := by
    unfold FileStore.access StateT.run
    simp only [h]
  rw [Delivery.carryOut, outcomeIn_bind hrun]
  rfl

/-- A file that was written is announced, and the store is the changed one. -/
theorem outcomeIn_carryOut_written {columns : Nat} {store changed : FileStore} {path text : String}
    (h : store.write path text = .ok changed) :
    outcomeIn store (Delivery.carryOut FileStore.access columns (.stored path text)) =
      ((printedText (writtenReport columns path)).outcome, changed) := by
  have hrun : (FileStore.access.write path text).run store = (.ok (), changed) := by
    unfold FileStore.access StateT.run
    simp only [h]
  have hnoted : (do
      Logged.note recognizeSource .info ("Results written to file: " ++ path)
      printedText (writtenReport columns path)).outcome = (printedText (writtenReport columns path)).outcome := by
    rw [Logged.outcome_bind, Logged.outcome_note, ok_bind]
  rw [Delivery.carryOut, outcomeIn_bind hrun]
  exact congrArg (·, changed) hnoted

/-- The end that a calculation always gives. -/
def ended : Except Ending Ending → Ending
  | .ok ending | .error ending => ending

/-- The response to a calculation ends as the calculation does. -/
theorem ending_ofLogged (calculation : Logged Ending Ending) :
    (Response.ofLogged calculation).ending = ended calculation.outcome := by
  unfold Response.ofLogged ended
  cases calculation.outcome <;> rfl

/-- What is carried out decides the ending, whatever was noted on the way. -/
theorem ended_conclude (result : Recognition) (carried : Logged Ending String) :
    ended (carried.andThen (conclude result)).outcome = concluded result carried.outcome := by
  have hboth : (carried.andThen (conclude result)).outcome =
      carried.outcome >>= fun output => (conclude result output).outcome := Logged.outcome_bind carried _
  rw [hboth]
  cases carried.outcome with
  | error ending => rfl
  | ok output => rw [ok_bind, outcome_conclude, ended]

/-- What was carried out of a result is all that changes the files. -/
theorem ending_and_storeAfter (columns : Nat) (request : Request) (store : FileStore) :
    (request.ending columns store, request.storeAfter columns store) =
      match request.attempt columns store with
      | .error ending => (ending, store)
      | .ok (result, delivery) =>
        let carried := outcomeIn store (delivery.carryOut FileStore.access columns)
        (concluded result carried.1, carried.2) := by
  have hresponse : ∀ step : StateM FileStore (Logged Ending Ending),
      (((do return Response.ofLogged (← step) : StateM FileStore Response).run store).1.ending,
        ((do return Response.ofLogged (← step) : StateM FileStore Response).run store).2) =
        (ended (outcomeIn store step).1, (outcomeIn store step).2) :=
    fun step => Prod.ext (ending_ofLogged _) rfl
  unfold Request.ending Request.storeAfter recognize Request.attempt
  rw [hresponse, outcomeIn_followedBy]
  -- The three steps before the delivery leave the store as it is, whether they succeed or not.
  cases (request.opening columns).outcome with
  | error ending => rfl
  | ok opened =>
    obtain ⟨origin, dialect⟩ := opened
    have hread := outcomeIn_read store origin
    have hrun : (origin.read FileStore.access).run store = (((origin.read FileStore.access).run store).1, store) :=
      Prod.ext rfl (Prod.mk.inj hread).2
    have htext : ((origin.read FileStore.access).run store).1.outcome = origin.textIn store := (Prod.mk.inj hread).1
    dsimp only
    rw [ok_bind, outcomeIn_bind hrun, outcomeIn_followedBy, htext]
    cases origin.textIn store with
    | error ending => rfl
    | ok sql =>
      dsimp only
      rw [ok_bind, outcomeIn_followedBy]
      cases (answer columns request dialect sql).outcome with
      | error ending => rfl
      | ok told =>
        obtain ⟨result, delivery⟩ := told
        exact Prod.ext (ended_conclude result _) rfl

section

variable {columns : Nat} {request : Request} {store : FileStore}

/-- A printed result ends with what its report tells and keeps the store. -/
theorem ending_of_printed {result : Recognition} {report : Console.Printed}
    (h : request.attempt columns store = .ok (result, .printed report)) :
    request.ending columns store = toldEnding result report ∧ request.storeAfter columns store = store := by
  have hboth := ending_and_storeAfter columns request store
  rw [h] at hboth
  dsimp only at hboth
  rw [outcomeIn_carryOut_printed, concluded_printedText] at hboth
  exact Prod.mk.inj hboth

/-- A written result ends with the announcement of the file and the changed store. -/
theorem ending_of_written {result : Recognition} {path text : String} {changed : FileStore}
    (h : request.attempt columns store = .ok (result, .stored path text))
    (hwrite : store.write path text = .ok changed) :
    request.ending columns store = toldEnding result (writtenReport columns path) ∧
      request.storeAfter columns store = changed := by
  have hboth := ending_and_storeAfter columns request store
  rw [h] at hboth
  dsimp only at hboth
  rw [outcomeIn_carryOut_written hwrite, concluded_printedText] at hboth
  exact Prod.mk.inj hboth

/-- A result that cannot be written ends with the complaint and keeps the store. -/
theorem ending_of_unwritten {result : Recognition} {path text : String} {fault : FileFault}
    (h : request.attempt columns store = .ok (result, .stored path text))
    (hwrite : store.write path text = .error fault) :
    request.ending columns store = .complaint columns ("Failed to write output file: " ++ fault.message path) ∧
      request.storeAfter columns store = store := by
  have hboth := ending_and_storeAfter columns request store
  rw [h] at hboth
  dsimp only at hboth
  rw [outcomeIn_carryOut_unwritten hwrite, concluded] at hboth
  exact Prod.mk.inj hboth

/-- A refused request ends with its refusal and keeps the store. -/
theorem ending_of_refused {ending : Ending} (h : request.attempt columns store = .error ending) :
    request.ending columns store = ending ∧ request.storeAfter columns store = store := by
  have hboth := ending_and_storeAfter columns request store
  rw [h] at hboth
  exact Prod.mk.inj hboth

end

/-- The command takes one of its ways. -/
theorem course (columns : Nat) (request : Request) (store : FileStore) :
    Course columns request store (request.ending columns store) (request.storeAfter columns store) := by
  cases hattempt : request.attempt columns store with
  | error ending =>
    obtain ⟨hending, hstore⟩ := ending_of_refused hattempt
    rw [hending, hstore]
    exact .refused hattempt
  | ok told =>
    obtain ⟨result, delivery⟩ := told
    cases delivery with
    | printed report =>
      obtain ⟨hending, hstore⟩ := ending_of_printed hattempt
      rw [hending, hstore]
      exact .printed hattempt
    | stored path text =>
      cases hwrite : store.write path text with
      | error fault =>
        obtain ⟨hending, hstore⟩ := ending_of_unwritten hattempt hwrite
        rw [hending, hstore]
        exact .unwritten hattempt hwrite
      | ok changed =>
        obtain ⟨hending, hstore⟩ := ending_of_written hattempt hwrite
        rw [hending, hstore]
        exact .written hattempt hwrite

end SqlInsert.CommandLine
