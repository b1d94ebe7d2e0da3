import SqlInsert.Proofs.CalendarReading
import SqlInsert.Proofs.Resolution
/-!
# Texts cast to dates and times

A text that is cast to a type of date or time is a constant when the reader of the type makes something of
it, and an expression otherwise. What such a constant is written as in JSON is again a text that the reader
of the same type makes the same constant of.
-/

namespace SqlInsert

/-- There are three readers: of dates, of times of day, and of both together. -/
theorem temporalReader?_eq_some {typeName : String} {reader : String → Option Constant}
    (h : temporalReader? typeName = some reader) :
    (reader = fun text => (Calendar.Date.read? text).map .date) ∨
      (reader = fun text => (Calendar.Time.read? text).map .time) ∨
      reader = fun text => (Calendar.DateTime.read? text).map .dateTime := by
  unfold temporalReader? at h
  split at h <;> cases h
  · exact .inl rfl
  · exact .inr (.inl rfl)
  all_goals exact .inr (.inr rfl)

/-- What a reader of dates and times gives is read back from the text that stands for it in JSON. -/
theorem exists_json_of_temporalReader? {typeName content : String} {reader : String → Option Constant}
    {constant : Constant} (hreader : temporalReader? typeName = some reader) (h : reader content = some constant) :
    ∃ written, constant.json = .text written ∧ reader written = some constant := by
  rcases temporalReader?_eq_some hreader with rfl | rfl | rfl
  · obtain ⟨date, _, rfl⟩ := Option.map_eq_some_iff.mp h
    exact ⟨date.text, rfl, Option.map_eq_some_iff.mpr ⟨date, date.read?_text, rfl⟩⟩
  · obtain ⟨time, hread, rfl⟩ := Option.map_eq_some_iff.mp h
    have hback := Calendar.Time.read?_text (Calendar.Time.isReadable_of_read? hread)
    exact ⟨time.text, rfl, Option.map_eq_some_iff.mpr ⟨time, hback, rfl⟩⟩
  · obtain ⟨moment, hread, rfl⟩ := Option.map_eq_some_iff.mp h
    have hback := Calendar.DateTime.read?_text (Calendar.DateTime.isReadable_of_read? hread)
    exact ⟨moment.text, rfl, Option.map_eq_some_iff.mpr ⟨moment, hback, rfl⟩⟩

namespace Tree

/-- A text constant cast to a type. -/
structure IsTextCast (tree : Tree) (content typeName : String) : Prop where
  form : tree.isCast = true
  operand : (tree.slot "this").isTextLiteral = true
  text : ((tree.slot "this").slot "this").text? = some content
  type : tree.castTarget? = some typeName

variable {grammar : Grammar} {tree : Tree} {content typeName : String} {resolution : Logged Failure Value}

/-- The cast of a text is read by the reader of its type. -/
theorem IsTextCast.temporal?_eq (h : tree.IsTextCast content typeName) :
    tree.temporal? = (temporalReader? typeName).bind (· content) := by
  unfold temporal?
  simp only [h.form, h.operand, h.text, h.type, Bool.and_self, if_true, Option.bind_eq_bind, Option.bind_some]

/-- A cast is a constant or an expression. -/
theorem valueKind_of_isCast (h : tree.isCast = true) :
    tree.valueKind = .ok (if tree.temporal?.isSome then .literal else .expression) := by
  obtain ⟨tolerant, hkind⟩ := exists_cast_of_isCast h
  have hother (kind : Kind) (hdiffers : kind ≠ .cast tolerant) : tree.isA kind = false := by
    unfold isA
    rw [hkind, beq_eq_false_iff_ne]
    exact fun hsame => hdiffers (Option.some.inj hsame).symm
  have hbound : tree.isBound = .ok false := by
    unfold isBound
    rw [hother .placeholder (by simp), hother .parameter (by simp)]
    rfl
  have hintroduced : tree.introduced? = none := by
    unfold introduced?
    rw [hother .introducer (by simp)]
    rfl
  have hnegated : tree.isNegatedNumber = false := by
    unfold isNegatedNumber
    rw [hother (.unary .minus) (by simp)]
    rfl
  unfold valueKind
  rw [hother .null (by simp), hbound, hintroduced, hnegated, hkind]
  cases tree.temporal? <;> rfl

/-- A text that is cast resolves to what the reader of the type makes of it, or else to the text of the
cast. -/
theorem IsResolution.of_textCast (h : tree.IsResolution grammar resolution)
    (hcast : tree.IsTextCast content typeName) :
    resolution = .ok (match (temporalReader? typeName).bind (· content) with
      | some constant => .literal constant
      | none => .expression (tree.sql grammar) tree.className) := by
  have hkind := valueKind_of_isCast hcast.form
  rw [← hcast.temporal?_eq]
  cases htemporal : tree.temporal? with
  | none =>
    rw [htemporal] at hkind
    exact h.of_expression hkind
  | some constant =>
    rw [htemporal] at hkind
    obtain ⟨tolerant, hnode⟩ := exists_cast_of_isCast hcast.form
    have hconstant : tree.constant = .ok constant := by
      unfold Tree.constant
      rw [hnode, htemporal]
      rfl
    rw [h.of_literal hkind, hconstant]
    rfl

end Tree

/-- A date or time that a cast of a text stands for survives its JSON form: the text in that form, cast to
the same type, stands for the same date or time again, to the microsecond and with the same offset. -/
theorem textCast_reads_back {grammar : Grammar} {tree : Tree} {content typeName : String}
    {resolution : Logged Failure Value} {constant : Constant} (hcast : tree.IsTextCast content typeName)
    (hresolution : tree.IsResolution grammar resolution)
    (hconstant : resolution.outcome = .ok (.literal constant)) :
    ∃ written, (Value.literal constant).json = .object [("kind", .text "LITERAL"), ("value", .text written)] ∧
      ∀ (grammar' : Grammar) (again : Tree) (resolution' : Logged Failure Value),
        again.IsTextCast written typeName → again.IsResolution grammar' resolution' →
          resolution' = .ok (.literal constant) := by
  rw [hresolution.of_textCast hcast] at hconstant
  cases hreader : temporalReader? typeName with
  | none =>
    rw [hreader] at hconstant
    cases hconstant
  | some reader =>
    rw [hreader, Option.bind_some] at hconstant
    cases hread : reader content with
    | none =>
      rw [hread] at hconstant
      cases hconstant
    | some value =>
      rw [hread] at hconstant
      cases hconstant
      obtain ⟨written, hjson, hback⟩ := exists_json_of_temporalReader? hreader hread
      refine ⟨written, ?_, fun grammar' again resolution' hagain hresolution' => ?_⟩
      · rw [← hjson]
        rfl
      · rw [hresolution'.of_textCast hagain, hreader, Option.bind_some, hback]

/-- A text cast to a type. -/
def textCastOf (content typeName : String) : Tree :=
  .cast (.textLiteral content) (.dataType typeName [])

/-- The cast made of a text and a type is the cast of that text. -/
theorem isTextCast_textCastOf (content typeName : String) :
    (textCastOf content typeName).IsTextCast content typeName :=
  ⟨rfl, rfl, rfl, rfl⟩

/-- A morning given by its week, with a short fraction and an offset to the microsecond. -/
def weekMoment : Calendar.DateTime :=
  ⟨⟨2024, 1, 5, rfl⟩, ⟨9, 8, 7, 125000, rfl⟩, some ⟨-19815000250, by decide⟩⟩

/-- The text of that morning. -/
def weekText : String := "2024W015 09:08:07,125-05:30:15.000250"

/-- A moment given by its week reads back from its calendar form. -/
theorem textCast_reads_back_weekMoment :
    (textCastOf weekText "TIMESTAMPTZ").IsTextCast weekText "TIMESTAMPTZ" ∧
      (textCastOf weekText "TIMESTAMPTZ").IsResolution .postgres (.ok (.literal (.dateTime weekMoment))) ∧
      ∃ written, (Value.literal (.dateTime weekMoment)).json =
          .object [("kind", .text "LITERAL"), ("value", .text written)] ∧
        ∀ (grammar : Grammar) (again : Tree) (resolution : Logged Failure Value),
          again.IsTextCast written "TIMESTAMPTZ" → again.IsResolution grammar resolution →
            resolution = .ok (.literal (.dateTime weekMoment)) := by
  have hcast := isTextCast_textCastOf weekText "TIMESTAMPTZ"
  have hread : (temporalReader? "TIMESTAMPTZ").bind (· weekText) = some (.dateTime weekMoment) := by cbv
  have hresolution : (textCastOf weekText "TIMESTAMPTZ").IsResolution .postgres
      (resolveAlone .postgres (textCastOf weekText "TIMESTAMPTZ")) := .alone
  have hvalue := hresolution.of_textCast hcast
  rw [hread] at hvalue
  rw [hvalue] at hresolution
  exact ⟨hcast, hresolution, textCast_reads_back hcast hresolution rfl⟩

/-! ## Dates -/

/-- A text that is cast to a date is never refused: it stands for a date or stays an expression. It stands for
the dates that it is a form of, and besides for one whose day without hyphens it starts with, if two positions
of anything follow. -/
theorem dateCast_iff_isWritten {grammar : Grammar} {tree : Tree} {content : String}
    {resolution : Logged Failure Value} (hcast : tree.IsTextCast content "DATE")
    (hresolution : tree.IsResolution grammar resolution) :
    ((∃ date, resolution = .ok (.literal (.date date))) ∨
        resolution = .ok (.expression (tree.sql grammar) tree.className)) ∧
      ∀ date, resolution = .ok (.literal (.date date)) ↔
        (∃ form, Calendar.Date.IsWritten date form content.toList) ∨
          ∃ form front skipped, form.isCompactDay = true ∧ Calendar.Date.IsWritten date form front ∧
            content.toList = front ++ skipped ∧ (Calendar.positions (String.ofList skipped)).length = 2 := by
  have hreader : temporalReader? "DATE" = some fun text => (Calendar.Date.read? text).map .date := rfl
  -- The two cases of the reader: nothing is passed over, or two positions behind a compact day.
  have hforms (date : Calendar.Date) : Calendar.Date.read? content = some date ↔
      (∃ form, Calendar.Date.IsWritten date form content.toList) ∨
        ∃ form front skipped, form.isCompactDay = true ∧ Calendar.Date.IsWritten date form front ∧
          content.toList = front ++ skipped ∧ (Calendar.positions (String.ofList skipped)).length = 2 := by
    rw [Calendar.Date.read?_eq_some_iff]
    constructor
    · rintro ⟨form, front, skipped, hcontent, hwritten, rfl | ⟨hcompact, hskipped⟩⟩
      · rw [List.append_nil] at hcontent
        exact .inl ⟨form, hcontent ▸ hwritten⟩
      · exact .inr ⟨form, front, skipped, hcompact, hwritten, hcontent, hskipped⟩
    · rintro (⟨form, hwritten⟩ | ⟨form, front, skipped, hcompact, hwritten, hcontent, hskipped⟩)
      · exact ⟨form, _, [], (List.append_nil _).symm, hwritten, .inl rfl⟩
      · exact ⟨form, front, skipped, hcontent, hwritten, .inr ⟨hcompact, hskipped⟩⟩
  rw [hresolution.of_textCast hcast, hreader, Option.bind_some]
  dsimp only
  cases hread : Calendar.Date.read? content with
  | none =>
    refine ⟨.inr rfl, fun date => ?_⟩
    rw [← hforms, hread]
    exact iff_of_false nofun nofun
  | some value =>
    refine ⟨.inl ⟨value, rfl⟩, fun date => ?_⟩
    rw [← hforms, hread]
    constructor
    · intro h
      cases h
      rfl
    · intro h
      cases h
      rfl

/-- The Monday of the first week of 2025 lies in the year before. -/
theorem dateCast_iff_isWritten_newYear :
    (textCastOf "2025-W01" "DATE").IsTextCast "2025-W01" "DATE" ∧
      (textCastOf "2025-W01" "DATE").IsResolution .mysql (resolveAlone .mysql (textCastOf "2025-W01" "DATE")) ∧
      resolveAlone .mysql (textCastOf "2025-W01" "DATE") = .ok (.literal (.date ⟨2024, 12, 30, rfl⟩)) := by
  have hcast := isTextCast_textCastOf "2025-W01" "DATE"
  have hmonday : Calendar.Date.IsWeekDay ⟨2024, 12, 30, rfl⟩ 2025 1 1 := ⟨rfl, by decide, by decide, rfl⟩
  exact ⟨hcast, .alone, ((dateCast_iff_isWritten hcast .alone).2 _).mpr (.inl ⟨_, .week true hmonday⟩)⟩

/-- A day without hyphens is read although two letters follow. -/
theorem not_dateCast_iff_isWritten_lettersBehind :
    ¬∀ (grammar : Grammar) (tree : Tree) (content : String) (date : Calendar.Date),
      tree.IsTextCast content "DATE" →
        (resolveAlone grammar tree = .ok (.literal (.date date)) ↔
          ∃ form, date.IsWritten form content.toList) := by
  intro h
  have hcast := isTextCast_textCastOf "20240101xx" "DATE"
  have hread : (temporalReader? "DATE").bind (· "20240101xx") = some (.date ⟨2024, 1, 1, rfl⟩) := by cbv
  have hresolution : (textCastOf "20240101xx" "DATE").IsResolution .mysql
      (resolveAlone .mysql (textCastOf "20240101xx" "DATE")) := .alone
  have hvalue := hresolution.of_textCast hcast
  rw [hread] at hvalue
  obtain ⟨form, hwritten⟩ := (h _ _ _ _ hcast).mp hvalue
  have hletter := hwritten.isDigit_or_mark 'x' (by decide)
  simp at hletter

end SqlInsert
