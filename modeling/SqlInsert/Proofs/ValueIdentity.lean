import SqlInsert.Proofs.CalendarText
import SqlInsert.Proofs.DecimalText
import SqlInsert.Value.Basic
/-!
# What the JSON form tells about a value

The JSON form of a value gives back its sort and everything that it holds, with one exception: a decimal
number, a date or a time is told by its text, and so is a text constant. No two constants of the first
sorts have the same text, so only a text constant can be taken for another value.
-/

namespace SqlInsert

namespace Constant

/-- A constant that JSON cannot express is told by its text. -/
inductive HasText : Constant → String → Prop
  | decimal (value : Number.Decimal) : HasText (.decimal value) value.text
  | date (value : Calendar.Date) : HasText (.date value) value.text
  | time (value : Calendar.Time) : HasText (.time value) value.text
  | dateTime (value : Calendar.DateTime) : HasText (.dateTime value) value.text

/-- One of two constants is a text, and it is the text by which the other one is told. -/
def SharesText (first second : Constant) : Prop :=
  ∃ text, first = .text text ∧ second.HasText text ∨ second = .text text ∧ first.HasText text

/-- The characters of such a constant, with some mark between a date and a time. -/
inductive HasChars (mark : Char) : Constant → List Char → Prop
  | decimal (value : Number.Decimal) : HasChars mark (.decimal value) value.chars
  | date (value : Calendar.Date) : HasChars mark (.date value) value.chars
  | time (value : Calendar.Time) : HasChars mark (.time value) value.chars
  | dateTime (value : Calendar.DateTime) : HasChars mark (.dateTime value) (value.chars mark)

/-- A decimal number has another mark behind its first digits than a date or a time. -/
theorem decimal_chars_ne {number : Number.Decimal} {chars : List Char} {mark : Char}
    (hchars : Text.EndsFirstDigits mark chars) (hmark : mark = '-' ∨ mark = ':') : number.chars ≠ chars := by
  intro h
  rw [← h] at hchars
  rcases Number.Decimal.eq_of_endsFirstDigits_chars hchars with rfl | rfl <;>
    rcases hmark with hmark | hmark <;> cases hmark

/-- A time of day has another mark behind its first digits than what starts with a date. -/
theorem time_chars_ne {time : Calendar.Time} {chars : List Char} (hchars : Text.EndsFirstDigits '-' chars) :
    time.chars ≠ chars := by
  intro h
  rw [← h] at hchars
  cases hchars.unique time.endsFirstDigits_chars

/-- Constants of these sorts with the same characters are the same, so no two sorts share a text. -/
theorem HasChars.unique {mark : Char} {first second : Constant} {chars chars' : List Char}
    (h : first.HasChars mark chars) (h' : second.HasChars mark chars') (hchars : chars = chars') :
    first = second := by
  have hdate := fun date : Calendar.Date => date.endsFirstDigits_chars_append []
  simp only [List.append_nil] at hdate
  have hmoment := Calendar.DateTime.endsFirstDigits_chars mark
  cases h with
  | decimal number =>
    cases h' with
    | decimal number' => rw [Number.Decimal.chars_injective hchars]
    | date date => exact absurd hchars (decimal_chars_ne (hdate date) (.inl rfl))
    | time time => exact absurd hchars (decimal_chars_ne time.endsFirstDigits_chars (.inr rfl))
    | dateTime moment => exact absurd hchars (decimal_chars_ne (hmoment moment) (.inl rfl))
  | date date =>
    cases h' with
    | decimal number => exact absurd hchars.symm (decimal_chars_ne (hdate date) (.inl rfl))
    | date date' =>
      rw [← List.append_nil date.chars, ← List.append_nil date'.chars] at hchars
      rw [(Calendar.Date.chars_append_injective hchars).1]
    | time time => exact absurd hchars.symm (time_chars_ne (hdate date))
    | dateTime moment => exact absurd hchars (date.chars_ne_chars_dateTime mark moment)
  | time time =>
    cases h' with
    | decimal number => exact absurd hchars.symm (decimal_chars_ne time.endsFirstDigits_chars (.inr rfl))
    | date date => exact absurd hchars (time_chars_ne (hdate date))
    | time time' => rw [Calendar.Time.chars_injective hchars]
    | dateTime moment => exact absurd hchars (time_chars_ne (hmoment moment))
  | dateTime moment =>
    cases h' with
    | decimal number => exact absurd hchars.symm (decimal_chars_ne (hmoment moment) (.inl rfl))
    | date date => exact absurd hchars.symm (date.chars_ne_chars_dateTime mark moment)
    | time time => exact absurd hchars.symm (time_chars_ne (hmoment moment))
    | dateTime moment' => rw [Calendar.DateTime.chars_injective hchars]

/-- In the text of a constant a letter stands between a date and a time. -/
theorem HasText.exists_chars {constant : Constant} {text : String} (h : constant.HasText text) :
    ∃ chars, constant.HasChars 'T' chars ∧ text = String.ofList chars := by
  cases h with
  | decimal value => exact ⟨_, .decimal value, rfl⟩
  | date value => exact ⟨_, .date value, rfl⟩
  | time value => exact ⟨_, .time value, rfl⟩
  | dateTime value => exact ⟨_, .dateTime value, rfl⟩

/-- Constants with one text are one constant. -/
theorem HasText.unique {first second : Constant} {text text' : String} (h : first.HasText text)
    (h' : second.HasText text') (htext : text = text') : first = second := by
  obtain ⟨chars, hchars, rfl⟩ := h.exists_chars
  obtain ⟨chars', hchars', rfl⟩ := h'.exists_chars
  exact hchars.unique hchars' (String.ofList_injective htext)

/-- A constant becomes a JSON text as that text or as one that is told by it. -/
theorem json_eq_text_iff {constant : Constant} {text : String} :
    constant.json = .text text ↔ constant = .text text ∨ constant.HasText text := by
  constructor
  · intro h
    cases constant with
    | text value =>
      cases h
      exact .inl rfl
    | int value => cases h
    | flag value => cases h
    | decimal value =>
      cases h
      exact .inr (.decimal value)
    | date value =>
      cases h
      exact .inr (.date value)
    | time value =>
      cases h
      exact .inr (.time value)
    | dateTime value =>
      cases h
      exact .inr (.dateTime value)
  · rintro (rfl | htext)
    · rfl
    · cases htext <;> rfl

/-- Two constants have one JSON form exactly if they are the same or share a text. -/
theorem json_eq_iff {first second : Constant} :
    first.json = second.json ↔ first = second ∨ first.SharesText second := by
  constructor
  · intro h
    cases hjson : first.json with
    | text text =>
      rw [hjson] at h
      rcases json_eq_text_iff.mp hjson with hfirst | hfirst <;>
        rcases json_eq_text_iff.mp h.symm with hsecond | hsecond
      · exact .inl (hfirst.trans hsecond.symm)
      · exact .inr ⟨text, .inl ⟨hfirst, hsecond⟩⟩
      · exact .inr ⟨text, .inr ⟨hsecond, hfirst⟩⟩
      · exact .inl (hfirst.unique hsecond rfl)
    | int value =>
      rw [hjson] at h
      cases first <;> cases hjson
      cases second <;> cases h
      exact .inl rfl
    | bool value =>
      rw [hjson] at h
      cases first <;> cases hjson
      cases second <;> cases h
      exact .inl rfl
    | _ => cases first <;> cases hjson
  · rintro (rfl | ⟨text, ⟨rfl, htext⟩ | ⟨rfl, htext⟩⟩)
    · rfl
    · exact (json_eq_text_iff.mpr (.inr htext)).symm
    · exact json_eq_text_iff.mpr (.inr htext)

end Constant

/-- The member of an object under a name; nothing where there is none. -/
def Json.member? (name : String) : Json → Option Json
  | .object members => members.lookup name
  | _ => none

namespace Value

/-- One of two constants is a text that tells the other one. -/
def SharesText (first second : Value) : Prop :=
  ∃ constant constant', first = .literal constant ∧ second = .literal constant' ∧
    constant.SharesText constant'

/-- The kinds of values are told by their keys. -/
theorem key_injective {first second : ValueKind} (h : first.key = second.key) : first = second := by
  revert h
  cases first <;> cases second <;> decide

/-- A literal is written as its kind and its constant. -/
theorem json_literal (constant : Constant) :
    (literal constant).json = .object [("kind", .text "LITERAL"), ("value", constant.json)] := rfl

/-- The members of the JSON form tell the kind of a value and what it holds. -/
theorem eq_or_sharesText_of_members {first second : Value}
    (h : ∀ name, first.json.member? name = second.json.member? name) :
    first = second ∨ first.SharesText second := by
  have hkind : first.kind = second.kind := key_injective (Json.text.inj (Option.some.inj (h "kind")))
  cases first with
  | literal constant =>
    cases second with
    | literal constant' =>
      have hvalue : constant.json = constant'.json := Option.some.inj (h "value")
      rcases Constant.json_eq_iff.mp hvalue with rfl | hshares
      · exact .inl rfl
      · exact .inr ⟨constant, constant', rfl, rfl, hshares⟩
    | _ => cases hkind
  | null =>
    cases second with
    | null => exact .inl rfl
    | _ => cases hkind
  | placeholder index name =>
    cases second with
    | placeholder index' name' =>
      have hindex : index = index' := Json.int.inj (Option.some.inj (h "index"))
      have hname : name = name' := by
        have hmember := h "name"
        cases name <;> cases name' <;> cases hmember <;> rfl
      rw [hindex, hname]
      exact .inl rfl
    | _ => cases hkind
  | expression text kindName =>
    cases second with
    | expression text' kindName' =>
      have htext : text = text' := Json.text.inj (Option.some.inj (h "text"))
      have hname : kindName = kindName' := Json.text.inj (Option.some.inj (h "node_type"))
      rw [htext, hname]
      exact .inl rfl
    | _ => cases hkind

/-- Values that share a text are written as one tree. -/
theorem json_eq_of_sharesText {first second : Value} (h : first.SharesText second) :
    first.json = second.json := by
  obtain ⟨constant, constant', rfl, rfl, hshares⟩ := h
  rw [json_literal, json_literal, Constant.json_eq_iff.mpr (.inr hshares)]

/-- The JSON form of a value identifies it, except that a text constant is told like a decimal number, a date
or a time with that text: two values have one form, and also the same members in any order, exactly if
they are the same or share a text. Two constants with a text of their own never do. -/
theorem json_identifies :
    (∀ first second : Value,
      (first.json = second.json ↔ first = second ∨ first.SharesText second) ∧
        ((∀ name, first.json.member? name = second.json.member? name) ↔
          first = second ∨ first.SharesText second)) ∧
      ∀ (first second : Constant) (text text' : String), first.HasText text → second.HasText text' →
        (first.json = second.json ↔ first = second) := by
  refine ⟨fun first second => ⟨⟨fun h => ?_, ?_⟩, ⟨eq_or_sharesText_of_members, ?_⟩⟩, ?_⟩
  · exact eq_or_sharesText_of_members fun name => by rw [h]
  · rintro (rfl | hshares)
    · rfl
    · exact json_eq_of_sharesText hshares
  · rintro (rfl | hshares) name
    · rfl
    · rw [json_eq_of_sharesText hshares]
  · intro first second text text' hfirst hsecond
    constructor
    · intro h
      rw [Constant.json_eq_text_iff.mpr (.inr hfirst), Constant.json_eq_text_iff.mpr (.inr hsecond)] at h
      exact hfirst.unique hsecond (Json.text.inj h)
    · rintro rfl
      rfl

/-- Two numbers of one quantity are told apart by their zeros, and only a text is told like one of them. -/
theorem json_identifies_trailing_zero :
    let number : Constant := .decimal (.finite false 150 (-2))
    let shorter : Constant := .decimal (.finite false 15 (-1))
    number.HasText "1.50" ∧ shorter.HasText "1.5" ∧ number.json ≠ shorter.json ∧
      (literal number).json = (literal (.text "1.50")).json := by
  intro number shorter
  have hnumber : number.HasText "1.50" := .decimal (.finite false 150 (-2))
  have hshorter : shorter.HasText "1.5" := .decimal (.finite false 15 (-1))
  refine ⟨hnumber, hshorter, ?_, ?_⟩
  · rw [Ne, json_identifies.2 number shorter _ _ hnumber hshorter]
    exact fun h => absurd (Constant.decimal.inj h) (by decide)
  · exact (json_identifies.1 _ _).1.mpr (.inr ⟨_, _, rfl, rfl, "1.50", .inr ⟨rfl, hnumber⟩⟩)

end Value

end SqlInsert
