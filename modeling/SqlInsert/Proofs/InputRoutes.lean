import SqlInsert.Proofs.Command
import SqlInsert.Proofs.JsonRoundTrip
/-!
# A statement as a text and in a file

A statement can be given as a text or by a file that holds the text. The reader of the file ends every line
with a line feed, so the command does for the file what it does for the text without returns. The two ways
agree on every text without a return; a text with one that is told in JSON form keeps them apart.
-/

namespace SqlInsert.CommandLine

namespace Request

/-- The request with a text as the statement. -/
def withText (request : Request) (sql : String) : Request :=
  { request with sql := some sql, file := none }

/-- The request with the statement in a file. -/
def withFile (request : Request) (path : String) : Request :=
  { request with sql := none, file := some path }

variable {columns : Nat} {request : Request} {store : FileStore}

/-- A text that is given is taken. -/
theorem nonempty?_some {text : String} (h : text ≠ "") : Journal.nonempty? (some text) = some text := by
  rw [Journal.nonempty?, Option.filter_some, if_pos (decide_eq_true h)]

/-- From its text on a request does the same, wherever the text is from. -/
theorem attempt_of_origin {given : Request} {origin : Origin} {sql : String}
    (horigin : (given.origin columns).outcome = .ok origin) (htext : origin.textIn store = .ok sql) :
    given.attempt columns store = (do
      let dialect ← (given.chosenDialect columns).outcome
      (answer columns given dialect sql).outcome) := by
  rw [attempt, outcome_opening, horigin, ok_bind]
  cases (given.chosenDialect columns).outcome with
  | error ending => rfl
  | ok dialect => simp only [ok_bind, pure, Except.pure, htext]

/-- A request with a text chooses its dialect and answers, without a look into the store. -/
theorem attempt_withText (columns : Nat) (request : Request) (store : FileStore) {sql : String} (h : sql ≠ "") :
    (request.withText sql).attempt columns store = (do
      let dialect ← (request.chosenDialect columns).outcome
      (answer columns request dialect sql).outcome) := by
  have horigin : ((request.withText sql).origin columns).outcome = .ok (.text sql) := by
    rw [origin, withText, nonempty?_some h]
    rfl
  exact attempt_of_origin horigin rfl

/-- A file is a text whose lines end with a line feed alone. -/
theorem attempt_withFile (columns : Nat) (request : Request) {path text : String} (hpath : path ≠ "")
    (htext : text ≠ "") (hread : store.read path = .ok (Text.encode text.toList)) :
    (request.withFile path).attempt columns store =
      (request.withText (String.ofList (Text.plainFeeds text.toList))).attempt columns store := by
  have horigin : ((request.withFile path).origin columns).outcome = .ok (.file path) := by
    rw [origin, withFile, nonempty?_some hpath]
    rfl
  have hplain : Origin.textIn store (.file path) = .ok (String.ofList (Text.plainFeeds text.toList)) :=
    textIn_file_eq_ok_iff.mpr ⟨_, _, hread, Text.decode_encode _, rfl⟩
  have hnonempty : String.ofList (Text.plainFeeds text.toList) ≠ "" := by
    intro hempty
    have hchars : text.toList ≠ [] := fun hnil => htext (String.toList_eq_nil_iff.mp hnil)
    exact Text.plainFeeds_ne_nil hchars (String.ofList_eq_empty_iff.mp hempty)
  rw [attempt_withText columns request store hnonempty]
  exact attempt_of_origin horigin hplain

/-- The command does for a file what it does for the text whose lines end with a line feed alone. -/
theorem withFile_eq_withText (columns : Nat) (request : Request) {path text : String} (hpath : path ≠ "")
    (htext : text ≠ "") (hread : store.read path = .ok (Text.encode text.toList)) :
    ((request.withFile path).ending columns store, (request.withFile path).storeAfter columns store) =
      ((request.withText (String.ofList (Text.plainFeeds text.toList))).ending columns store,
        (request.withText (String.ofList (Text.plainFeeds text.toList))).storeAfter columns store) := by
  rw [ending_and_storeAfter, ending_and_storeAfter, attempt_withFile columns request hpath htext hread]

/-- A request with a text gives that text and no other. -/
theorem eq_of_givesText_withText {given sql : String} (h : (request.withText given).GivesText store sql) :
    sql = given := by
  cases h with
  | text hgiven _ => exact (Option.some.inj (Option.filter_eq_some_iff.mp hgiven).1).symm
  | file hgiven _ _ _ => cases hgiven

/-- The JSON form of a recognition that succeeded holds the text it was given. -/
theorem document_of_success {sql : String} (hform : request.form = .json)
    (h : ((request.withText sql).ending columns store).status = Ending.success) :
    ∃ (result : Recognition) (text : String), result.sql = sql ∧ result.json.write (some jsonIndent) = .ok text ∧
      match Journal.nonempty? request.outputFile with
      | none => ((request.withText sql).ending columns store).output = text ++ "\n"
      | some path => ((request.withText sql).storeAfter columns store).read path = .ok (Text.encode text.toList) := by
  obtain ⟨_, statement, result, hreaches, hresult, htold⟩ := told_of_success h
  have hchosen : (request.withText sql).form = .json := hform
  rw [IsTold, hchosen] at htold
  obtain ⟨text, htext, hplace⟩ := htold
  have hsql := (sql_and_errors_of_recognize hresult).1
  exact ⟨result, text, hsql.trans (eq_of_givesText_withText hreaches.text), htext, hplace⟩

/-- The JSON form holds the text of the statement. -/
theorem sql_eq_of_json_eq {first second : Recognition} (h : first.json = second.json) : first.sql = second.sql := by
  unfold Recognition.json at h
  injection h with hfields
  injection hfields with hfirst
  injection hfirst with _ hvalue
  injection hvalue

/-- A text is told apart from every other one by what a success in JSON form leaves behind. -/
theorem text_eq_of_same {first second : String} (hform : request.form = .json)
    (h : ((request.withText first).ending columns store).status = Ending.success)
    (hending : (request.withText second).ending columns store = (request.withText first).ending columns store)
    (hstore : (request.withText second).storeAfter columns store = (request.withText first).storeAfter columns store) :
    second = first := by
  obtain ⟨result, text, hsql, hwrite, hplace⟩ := document_of_success hform h
  rw [← hending] at h
  obtain ⟨other, written, hother, hwritten, hplaced⟩ := document_of_success hform h
  have htext : written = text := by
    cases hfile : Journal.nonempty? request.outputFile with
    | none =>
      rw [hfile] at hplace hplaced
      dsimp only at hplace hplaced
      rw [hending, hplace] at hplaced
      exact (String.append_left_inj _).mp hplaced.symm
    | some path =>
      rw [hfile] at hplace hplaced
      dsimp only at hplace hplaced
      rw [hstore, hplace] at hplaced
      exact String.toList_inj.mp (Text.encode_injective (Except.ok.inj hplaced)).symm
  have hjson : other.json = result.json := by
    have hread := Json.read?_write hwritten
    rw [htext, Json.read?_write hwrite] at hread
    exact (Option.some.inj hread).symm
  rw [← hother, sql_eq_of_json_eq hjson, hsql]

end Request

/-- A statement given as a text against the same one in a file. The file is taken for the text with every line
ended by a line feed; so the two ways agree on a text without returns, and if a recognition of the text is
told in JSON form they agree only there. -/
theorem file_against_text (columns : Nat) (request : Request) {store : FileStore} {path text : String}
    (hpath : path ≠ "") (htext : text ≠ "") (hread : store.read path = .ok (Text.encode text.toList)) :
    ((request.withFile path).ending columns store, (request.withFile path).storeAfter columns store) =
        ((request.withText (String.ofList (Text.plainFeeds text.toList))).ending columns store,
          (request.withText (String.ofList (Text.plainFeeds text.toList))).storeAfter columns store) ∧
      ('\r' ∉ text.toList →
        (request.withFile path).ending columns store = (request.withText text).ending columns store ∧
          (request.withFile path).storeAfter columns store = (request.withText text).storeAfter columns store) ∧
      (request.form = .json → ((request.withText text).ending columns store).status = Ending.success →
        (request.withFile path).ending columns store = (request.withText text).ending columns store →
        (request.withFile path).storeAfter columns store = (request.withText text).storeAfter columns store →
          '\r' ∉ text.toList) := by
  have hsame := Request.withFile_eq_withText columns request hpath htext hread
  obtain ⟨hending, hstore⟩ := Prod.mk.inj hsame
  refine ⟨hsame, fun hreturn => ?_, fun hform hsuccess htold hleft => ?_⟩
  · rw [Text.plainFeeds_eq_self_iff.mpr hreturn, String.ofList_toList] at hending hstore
    exact ⟨hending, hstore⟩
  · rw [hending] at htold
    rw [hstore] at hleft
    have hplain := Request.text_eq_of_same hform hsuccess htold hleft
    have hchars := congrArg String.toList hplain
    rw [String.toList_ofList] at hchars
    exact Text.plainFeeds_eq_self_iff.mp hchars

/-- A file store with one file. -/
def oneFile (name text : String) : FileStore :=
  ⟨[([name], .file (Text.encode text.toList))]⟩

/-- A request for the JSON form. -/
def jsonRequest : Request :=
  { Request.standard with form := .json }

/-- An insertion of a text with a line feed in it. -/
def twoLines : String := "INSERT INTO t VALUES ('a\nb')"

/-- A file of two lines and its text on the command line end in the same way. -/
theorem file_against_text_twoLines :
    (oneFile "a.sql" twoLines).read "a.sql" = .ok (Text.encode twoLines.toList) ∧ '\r' ∉ twoLines.toList ∧
      (jsonRequest.withFile "a.sql").ending 80 (oneFile "a.sql" twoLines) =
        (jsonRequest.withText twoLines).ending 80 (oneFile "a.sql" twoLines) := by
  have hread : (oneFile "a.sql" twoLines).read "a.sql" = .ok (Text.encode twoLines.toList) := by decide +kernel
  have hreturn : '\r' ∉ twoLines.toList := by decide +kernel
  obtain ⟨_, hagree, _⟩ := file_against_text 80 jsonRequest (by decide) (by decide) hread
  exact ⟨hread, hreturn, (hagree hreturn).1⟩

/-- An insertion of a text with a return in it. -/
def brokenLine : String := "INSERT INTO t VALUES ('a\r\nb')"

/-- The text with a carriage return is recognized when it is given on the command line. -/
theorem success_brokenLine :
    ((jsonRequest.withText brokenLine).ending 80 (oneFile "a.sql" brokenLine)).status = Ending.success := by
  have hchecked : isToldInJson .mysql brokenLine [] = true := by decide +kernel
  have hblank : brokenLine.all Text.isBlank = false := by
    rw [String.all_bool_eq]
    decide +kernel
  have hlength : brokenLine.length ≤ textLengthLimit := by decide +kernel
  have hdialect : Dialect.ofKey? (Text.lower (jsonRequest.withText brokenLine).dialect) = some .mysql := by
    decide +kernel
  obtain ⟨tree, result, text, hone, hinsertion, hresult, htext⟩ := exists_of_isToldInJson hchecked
  have hreaches : (jsonRequest.withText brokenLine).Reaches (oneFile "a.sql" brokenLine) ⟨.mysql, brokenLine, tree⟩ :=
    Request.reaches_of_holdsOne (.text rfl rfl) hdialect hblank hlength hone hinsertion
  exact Request.success_of_canBeTold hreaches hresult ⟨text, htext, fun path hpath => by cases hpath⟩

/-- A carriage return inside a literal is lost on the way through a file, so the endings differ. -/
theorem not_file_against_text_brokenLine :
    (oneFile "a.sql" brokenLine).read "a.sql" = .ok (Text.encode brokenLine.toList) ∧
      (jsonRequest.withFile "a.sql").ending 80 (oneFile "a.sql" brokenLine) ≠
        (jsonRequest.withText brokenLine).ending 80 (oneFile "a.sql" brokenLine) ∧
      ¬∀ (columns : Nat) (request : Request) (store : FileStore) (path text : String), path ≠ "" → text ≠ "" →
        store.read path = .ok (Text.encode text.toList) →
          (request.withFile path).ending columns store = (request.withText text).ending columns store := by
  have hread : (oneFile "a.sql" brokenLine).read "a.sql" = .ok (Text.encode brokenLine.toList) := by decide +kernel
  have hpath : "a.sql" ≠ "" := by decide
  have hfilled : brokenLine ≠ "" := by decide
  have hdiffers : (jsonRequest.withFile "a.sql").ending 80 (oneFile "a.sql" brokenLine) ≠
      (jsonRequest.withText brokenLine).ending 80 (oneFile "a.sql" brokenLine) := by
    intro hsame
    obtain ⟨hending, _⟩ := Prod.mk.inj (Request.withFile_eq_withText 80 jsonRequest hpath hfilled hread)
    rw [hending] at hsame
    have hplain := Request.text_eq_of_same rfl success_brokenLine hsame
      ((Request.storeAfter_of_no_outputFile rfl).trans (Request.storeAfter_of_no_outputFile rfl).symm)
    have hchanged : String.ofList (Text.plainFeeds brokenLine.toList) ≠ brokenLine := by decide +kernel
    exact hchanged hplain
  exact ⟨hread, hdiffers, fun h => hdiffers (h 80 jsonRequest _ "a.sql" brokenLine hpath hfilled hread)⟩

end SqlInsert.CommandLine
