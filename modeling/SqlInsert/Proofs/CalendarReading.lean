import SqlInsert.Proofs.DateForms
/-!
# Dates and times are read back from their texts

The text of a date, of a time of day or of both together reads as what it was written for. The one exception
is an offset of less than a second, which counts as universal time; no text is read as such an offset.
-/

namespace SqlInsert.Calendar

/-! ## Clock readings -/

/-- A fraction of a second in six places. -/
theorem fraction?_padded {microsecond : Nat} (h : microsecond < 10 ^ 6) :
    fraction? (padded 6 microsecond) = some (microsecond, false) := by
  have hcount : min 6 (padded 6 microsecond).length = 6 := by
    rw [length_padded (by decide) h]
    rfl
  unfold fraction?
  dsimp only
  rw [hcount, number?_padded_end (by decide) h]
  exact congrArg some (congrArg (·, false) (Nat.mul_one microsecond))

/-- A colon with text behind it leads to the next field. -/
theorem fieldEnd?_colon {rest : List Char} (h : rest ≠ []) : fieldEnd? true (':' :: rest) = some (.next rest) := by
  cases rest with
  | nil => exact absurd rfl h
  | cons c rest => rfl

/-- A point with text behind it leads to the fraction. -/
theorem fieldEnd?_point {rest : List Char} (h : rest ≠ []) :
    fieldEnd? true ('.' :: rest) = some (.fraction rest) := by
  cases rest with
  | nil => exact absurd rfl h
  | cons c rest => rfl

section

variable {hour minute second microsecond : Nat}

/-- Hours and minutes alone. -/
theorem clockFields?_minutes (hhour : hour < 10 ^ 2) (hminute : minute < 10 ^ 2) :
    clockFields? (padded 2 hour ++ ':' :: padded 2 minute) = some ⟨hour, minute, 0, 0, false⟩ := by
  unfold clockFields?
  rw [number?_padded (by decide) hhour]
  simp only [Option.bind_eq_bind, Option.bind_some, List.head?_cons, beq_self_eq_true,
    fieldEnd?_colon (padded_ne_nil 2 minute), number?_padded_end (by decide : 0 < 2) hminute]
  rfl

/-- Hours, minutes and seconds, with a fraction unless it is zero. -/
theorem clockFields?_seconds (hhour : hour < 10 ^ 2) (hminute : minute < 10 ^ 2) (hsecond : second < 10 ^ 2)
    (hmicrosecond : microsecond < 10 ^ 6) :
    clockFields? (padded 2 hour ++ ':' :: (padded 2 minute ++ ':' :: (padded 2 second ++ fractionChars microsecond))) =
      some ⟨hour, minute, second, microsecond, false⟩ := by
  have hnext (n : Nat) (rest : List Char) : padded 2 n ++ rest ≠ [] :=
    List.append_ne_nil_of_left_ne_nil (padded_ne_nil 2 n) rest
  unfold clockFields?
  rw [number?_padded (by decide) hhour]
  simp only [Option.bind_eq_bind, Option.bind_some, List.head?_cons, beq_self_eq_true,
    fieldEnd?_colon (hnext minute _), number?_padded (by decide : 0 < 2) hminute,
    fieldEnd?_colon (hnext second _), number?_padded (by decide : 0 < 2) hsecond]
  unfold fractionChars
  by_cases hzero : microsecond = 0
  · rw [if_pos hzero, hzero]
    rfl
  · rw [if_neg hzero]
    simp only [fieldEnd?_point (padded_ne_nil 6 microsecond), Option.bind_some, fraction?_padded hmicrosecond]
    rfl

end

/-- The numbers of a clock make the clock again. -/
theorem Clock.ofNumbers?_self (clock : Clock) :
    Clock.ofNumbers? clock.hour clock.minute clock.second clock.microsecond = some clock :=
  dif_pos clock.valid

/-- The fields read from the text of a clock are its own numbers. -/
theorem Clock.clockFields?_chars (clock : Clock) :
    clockFields? clock.chars = some ⟨clock.hour, clock.minute, clock.second, clock.microsecond, false⟩ := by
  have hvalid := clock.valid
  simp only [Bool.and_eq_true, decide_eq_true_eq] at hvalid
  unfold Clock.chars
  simp only [List.append_assoc, List.cons_append]
  exact clockFields?_seconds (by omega) (by omega) (by omega) (by omega)

/-! ## Offsets -/

/-- Whether an offset can be read: an offset of less than a second counts as universal time. -/
def Offset.IsReadable (offset : Offset) : Prop :=
  offset.microseconds = 0 ∨ 1000000 ≤ offset.microseconds.natAbs

/-- What is read as an offset is universal time or a second away from it. -/
theorem Offset.isReadable_of_ofParts? {negative : Bool} {seconds microsecond : Nat} {offset : Offset}
    (h : ofParts? negative seconds microsecond = some offset) : offset.IsReadable := by
  unfold ofParts? at h
  by_cases hzero : seconds = 0
  · rw [if_pos hzero] at h
    cases h
    exact .inl rfl
  · rw [if_neg hzero] at h
    obtain ⟨_, hoffset⟩ := Option.dite_none_right_eq_some.mp h
    rw [← Option.some.inj hoffset]
    right
    cases negative <;> simp only [Bool.false_eq_true, if_true, if_false] <;> omega

/-- The offset of a zone that was read can be read again. -/
theorem isReadable_of_zone? {mark : Char} {text : List Char} {offset : Offset} (h : zone? mark text = some offset) :
    offset.IsReadable := by
  unfold zone? at h
  split at h
  · split at h
    · cases h
      exact .inl rfl
    · cases h
  · obtain ⟨fields, _, hparts⟩ := Option.bind_eq_some_iff.mp h
    exact Offset.isReadable_of_ofParts? hparts

/-- An offset is made of the parts that are written. -/
theorem Offset.ofParts?_self {offset : Offset} (h : offset.IsReadable) :
    ofParts? (decide (offset.microseconds < 0)) (offset.microseconds.natAbs / 1000000)
      (offset.microseconds.natAbs % 1000000) = some offset := by
  obtain ⟨microseconds, hvalid⟩ := offset
  unfold IsReadable at h
  unfold ofParts?
  dsimp only at h ⊢
  by_cases hzero : microseconds.natAbs / 1000000 = 0
  · have hnone : microseconds = 0 := by omega
    subst hnone
    exact if_pos rfl
  · have hsame : (if (decide (microseconds < 0)) = true then
        -(((microseconds.natAbs / 1000000 : Nat) : Int) * 1000000 + (microseconds.natAbs % 1000000 : Nat))
        else ((microseconds.natAbs / 1000000 : Nat) : Int) * 1000000 + (microseconds.natAbs % 1000000 : Nat)) =
        microseconds := by
      by_cases hnegative : microseconds < 0
      · simp only [hnegative, decide_true, if_true]
        omega
      · simp only [hnegative, decide_false, Bool.false_eq_true, if_false]
        omega
    rw [if_neg hzero]
    simp only [hsame]
    exact dif_pos hvalid

/-- The text of an offset starts with its sign. -/
theorem Offset.exists_chars_eq_cons (offset : Offset) :
    ∃ rest, offset.chars = (if offset.microseconds < 0 then '-' else '+') :: rest := ⟨_, rfl⟩

/-- An offset is read back behind its sign. -/
theorem Offset.zone?_chars {offset : Offset} (h : offset.IsReadable) {mark : Char} {rest : List Char}
    (hchars : offset.chars = mark :: rest) : zone? mark rest = some offset := by
  have hvalid := offset.valid
  have hself := Offset.ofParts?_self h
  unfold dayMicroseconds at hvalid
  unfold chars at hchars
  simp only [List.append_assoc, List.cons_append] at hchars
  obtain ⟨rfl, rfl⟩ := List.cons.inj hchars
  generalize hdistance : offset.microseconds.natAbs = distance at hvalid hself
  have hmark : (if offset.microseconds < 0 then '-' else '+') ≠ 'Z' := by split <;> decide
  have hnegative : ((if offset.microseconds < 0 then '-' else '+') == '-') = decide (offset.microseconds < 0) := by
    by_cases hsign : offset.microseconds < 0 <;> simp [hsign]
  have hfields : clockFields? (padded 2 (distance / 1000000 / 3600) ++ ':' ::
      (padded 2 (distance / 1000000 / 60 % 60) ++
        if distance / 1000000 % 60 = 0 ∧ distance % 1000000 = 0 then []
        else ':' :: (padded 2 (distance / 1000000 % 60) ++ fractionChars (distance % 1000000)))) =
      some ⟨distance / 1000000 / 3600, distance / 1000000 / 60 % 60, distance / 1000000 % 60, distance % 1000000,
        false⟩ := by
    by_cases hshort : distance / 1000000 % 60 = 0 ∧ distance % 1000000 = 0
    · rw [if_pos hshort, hshort.1, hshort.2, List.append_nil]
      exact clockFields?_minutes (by omega) (by omega)
    · rw [if_neg hshort]
      exact clockFields?_seconds (by omega) (by omega) (by omega) (by omega)
  have hseconds : distance / 1000000 / 3600 * 3600 + distance / 1000000 / 60 % 60 * 60 + distance / 1000000 % 60 =
      distance / 1000000 := by omega
  unfold zone?
  rw [if_neg hmark, hnegative, hfields]
  simp only [Option.filter_some, Bool.not_false, if_true, Option.bind_some, hseconds]
  exact hself

/-! ## Times of day -/

/-- No digit starts a zone. -/
theorem startsZone_of_isDigit {c : Char} (h : c.isDigit = true) : startsZone c = false := by
  unfold startsZone
  rw [Bool.or_eq_false_iff, Bool.or_eq_false_iff, decide_eq_false_iff_not, decide_eq_false_iff_not,
    decide_eq_false_iff_not]
  refine ⟨⟨?_, ?_⟩, ?_⟩ <;> rintro rfl <;> cases h

/-- A clock reading holds no mark of a zone. -/
theorem Clock.not_startsZone_of_mem {clock : Clock} {c : Char} (h : c ∈ clock.chars) : (!startsZone c) = true := by
  rcases mem_chars h with hdigit | hmark
  · rw [startsZone_of_isDigit hdigit]
    rfl
  · rcases List.mem_cons.mp hmark with rfl | hpoint
    · rfl
    · cases List.mem_singleton.mp hpoint
      rfl

/-- A clock reading and its zone are read back. -/
theorem clockAndZone?_chars (clock : Clock) {zone : Option Offset} (h : ∀ offset ∈ zone, offset.IsReadable) :
    clockAndZone? (clock.chars ++ zoneChars zone) = some (clock, zone) := by
  have hclock : ∀ c ∈ clock.chars, (!startsZone c) = true := fun _ => Clock.not_startsZone_of_mem
  have hmark : ∀ c ∈ (zoneChars zone).head?, (!startsZone c) = false := by
    cases zone with
    | none => simp [zoneChars]
    | some offset =>
      intro c hc
      rw [← Option.some.inj hc]
      split <;> rfl
  -- The first character that can start a zone ends the clock, and no clock has one.
  unfold clockAndZone?
  rw [Text.takeWhile_append_of_head? hclock hmark, Text.dropWhile_append_of_head? hclock hmark,
    clock.clockFields?_chars]
  simp only [Option.bind_eq_bind, Option.bind_some, clock.ofNumbers?_self]
  cases zone with
  | none => rfl
  | some offset =>
    obtain ⟨rest, hchars⟩ := offset.exists_chars_eq_cons
    rw [zoneChars, hchars]
    simp only [Offset.zone?_chars (h offset rfl) hchars]
    rfl

/-- What is read as a zone is universal time or a second away from it. -/
theorem isReadable_of_clockAndZone? {text : List Char} {clock : Clock} {zone : Option Offset}
    (h : clockAndZone? text = some (clock, zone)) : ∀ offset ∈ zone, offset.IsReadable := by
  unfold clockAndZone? at h
  simp only [Option.bind_eq_bind, Option.bind_eq_some_iff] at h
  obtain ⟨fields, _, read, _, hrest⟩ := h
  intro offset hoffset
  split at hrest
  · obtain ⟨_, _, hpair⟩ := Option.bind_eq_some_iff.mp hrest
    cases hpair
    cases hoffset
  · obtain ⟨other, hzone, hpair⟩ := Option.bind_eq_some_iff.mp hrest
    cases hpair
    cases hoffset
    exact isReadable_of_zone? hzone

/-! ## Positions of a text -/

/-- A date writes itself in the form with month, day and hyphens. -/
theorem Date.isWritten_chars (date : Date) : date.IsWritten (.monthDay true) date.chars := by
  have hwritten : date.IsWritten (.monthDay true) _ := .monthDay true
  unfold chars
  simpa [hyphenChars] using hwritten

/-- A date is written in ten characters. -/
theorem Date.length_chars (date : Date) : date.chars.length = 10 :=
  date.isWritten_chars.length_eq

/-- Every character of a date takes one position. -/
theorem Date.utf8Size_of_mem_chars (date : Date) : ∀ c ∈ date.chars, c.utf8Size = 1 :=
  date.isWritten_chars.utf8Size_of_mem

/-- Every character a field is written with takes one position. -/
theorem utf8Size_of_isFieldChar {c : Char} (h : IsFieldChar c) : c.utf8Size = 1 := by
  rcases h with hdigit | hmark
  · exact utf8Size_of_isDigit hdigit
  · simp only [List.mem_cons, List.not_mem_nil, or_false] at hmark
    rcases hmark with rfl | rfl | rfl | rfl <;> rfl

/-- Every character of a clock takes one position. -/
theorem Clock.utf8Size_of_mem_chars (clock : Clock) : ∀ c ∈ clock.chars, c.utf8Size = 1 :=
  fun c hc => utf8Size_of_isFieldChar (clock.isFieldChar_of_mem_chars c hc)

/-- Every character of a zone takes one position. -/
theorem utf8Size_of_mem_zoneChars (zone : Option Offset) : ∀ c ∈ zoneChars zone, c.utf8Size = 1 :=
  fun c hc => utf8Size_of_isFieldChar (isFieldChar_of_mem_zoneChars zone c hc)

/-! ## Reading what was written -/

/-- A date is read back from its text. -/
theorem Date.read?_text (date : Date) : read? date.text = some date := by
  have hchars : date.text.toList = date.chars ++ [] := by
    rw [List.append_nil]
    exact String.toList_ofList
  exact Date.read?_eq_some_iff.mpr ⟨_, _, [], hchars, date.isWritten_chars, .inl rfl⟩

/-- A time of day is read back from its text. -/
theorem Time.read?_text {time : Time} (h : ∀ offset ∈ time.offset, offset.IsReadable) :
    read? time.text = some time := by
  have hplain : ∀ c ∈ time.chars, c.utf8Size = 1 :=
    List.forall_mem_append.mpr ⟨time.clock.utf8Size_of_mem_chars, utf8Size_of_mem_zoneChars time.offset⟩
  -- The text starts with a digit, so there is no letter of times to skip.
  have hmark : (time.chars.head? == some 'T') = false := by
    obtain ⟨c, digits, hcons, hdigit⟩ := exists_padded_eq_cons 2 time.clock.hour
    unfold chars Clock.chars
    rw [hcons, beq_eq_false_iff_ne]
    intro hsame
    cases hsame
    cases hdigit
  unfold read? text
  simp only [positions_ofList hplain, hmark, Bool.false_eq_true, if_false]
  unfold chars
  rw [clockAndZone?_chars time.clock h]
  rfl

/-- The offset of a time that was read can be read again. -/
theorem Time.isReadable_of_read? {text : String} {time : Time} (h : read? text = some time) :
    ∀ offset ∈ time.offset, offset.IsReadable := by
  unfold read? at h
  simp only [Option.bind_eq_bind, Option.bind_eq_some_iff] at h
  obtain ⟨⟨clock, zone⟩, hread, htime⟩ := h
  cases htime
  exact isReadable_of_clockAndZone? hread

/-- The date at the front of a date and time takes ten positions. -/
theorem Date.datePositions_chars_append (date : Date) (rest : List Char) :
    datePositions (date.chars ++ rest) = 10 := by
  obtain ⟨c, digits, hcons, hdigit⟩ := exists_padded_eq_cons 2 date.month
  have hlength : (date.chars ++ rest).length ≠ 7 := by
    rw [List.length_append, date.length_chars]
    omega
  have hyear := length_padded (by decide) date.bounds.1
  have hfront : date.chars ++ rest = padded 4 date.year ++ '-' :: c :: (digits ++ '-' :: (padded 2 date.day ++ rest)) := by
    unfold chars
    rw [hcons]
    simp only [List.append_assoc, List.cons_append]
  have hhyphen : (date.chars ++ rest)[4]? = some '-' := by
    rw [hfront, List.getElem?_append_right (Nat.le_of_eq hyear), hyear]
    rfl
  have hmonth : (date.chars ++ rest)[5]? = some c := by
    rw [hfront, List.getElem?_append_right (by omega), hyear]
    rfl
  have hweek : c ≠ 'W' := by
    rintro rfl
    cases hdigit
  unfold datePositions
  simp only [hlength, if_false, hhyphen, beq_self_eq_true, if_true, hmonth, Option.some_beq_some, beq_eq_false_iff_ne.mpr hweek,
    Bool.false_eq_true]

/-- A date and time is read back from its text. -/
theorem DateTime.read?_text {moment : DateTime} (h : ∀ offset ∈ moment.offset, offset.IsReadable) :
    read? moment.text = some moment := by
  have hplain : ∀ c ∈ moment.chars 'T', c.utf8Size = 1 := by
    unfold chars
    simp only [List.append_assoc, List.cons_append, List.forall_mem_append, List.forall_mem_cons]
    exact ⟨moment.date.utf8Size_of_mem_chars, rfl, moment.clock.utf8Size_of_mem_chars,
      utf8Size_of_mem_zoneChars moment.offset⟩
  have hlength : 10 ≤ (moment.chars 'T').length := by
    unfold chars
    rw [List.append_assoc, List.length_append, moment.date.length_chars]
    exact Nat.le_add_right _ _
  have hunits := positions_ofList hplain
  -- The date takes ten positions, since its text has a hyphen where a week would have its letter.
  have hcount : datePositions (moment.chars 'T') = 10 := by
    unfold chars
    rw [List.append_assoc]
    exact moment.date.datePositions_chars_append _
  have htake : (moment.chars 'T').take 10 = moment.date.chars := by
    unfold chars
    rw [List.append_assoc]
    exact List.take_left' moment.date.length_chars
  have hdrop : (moment.chars 'T').drop 10 = 'T' :: (moment.clock.chars ++ zoneChars moment.offset) := by
    unfold chars
    rw [List.append_assoc]
    exact List.drop_left' moment.date.length_chars
  have hlong : (moment.chars 'T').length ≠ 9 := by omega
  have hguard : 7 ≤ (moment.chars 'T').length := by omega
  have hdate : dateFields? moment.date.chars = some moment.date :=
    dateFields?_eq_some_iff.mpr ⟨_, _, [], (List.append_nil _).symm, moment.date.isWritten_chars, fun _ _ => rfl⟩
  unfold read? text
  simp only [hunits, hcount, htake, hdrop, hlong, hguard, false_and, guard, if_true, decide_false, Bool.not_false,
    hdate, Option.bind_eq_bind, Option.bind_some]
  have hseparator : 'T'.utf8Size - 1 = 0 := rfl
  rw [hseparator, List.drop_zero, clockAndZone?_chars moment.clock h]
  rfl

/-- The offset of a moment that was read can be read again. -/
theorem DateTime.isReadable_of_read? {text : String} {moment : DateTime} (h : read? text = some moment) :
    ∀ offset ∈ moment.offset, offset.IsReadable := by
  unfold read? at h
  simp only [Option.bind_eq_bind, Option.bind_eq_some_iff] at h
  obtain ⟨_, _, _, _, date, _, hrest⟩ := h
  intro offset hoffset
  split at hrest
  · cases hrest
    cases hoffset
  · simp only [Option.bind_eq_some_iff] at hrest
    obtain ⟨⟨clock, zone⟩, hread, hmoment⟩ := hrest
    cases hmoment
    exact isReadable_of_clockAndZone? hread offset hoffset

end SqlInsert.Calendar
