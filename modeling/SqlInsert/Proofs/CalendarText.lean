import SqlInsert.Proofs.Digits
/-!
# Texts of dates and times

The fields of a date or a time have fixed widths, and what may be left out behind them starts with a mark
of its own. So the text of a date, of a clock reading with its zone, and of an offset of any size in whole
microseconds gives back every field.
-/

namespace SqlInsert.Calendar

/-- A field of fixed width is told apart from what follows it. -/
theorem padded_append_injective {width m n : Nat} {rest rest' : List Char} (hwidth : 0 < width)
    (hm : m < 10 ^ width) (hn : n < 10 ^ width) (h : padded width m ++ rest = padded width n ++ rest') :
    m = n ∧ rest = rest' := by
  have hlength : (padded width m).length = (padded width n).length := by
    rw [length_padded hwidth hm, length_padded hwidth hn]
  obtain ⟨hfield, hrest⟩ := List.append_inj h hlength
  exact ⟨padded_injective hfield, hrest⟩

namespace Date

/-- The numbers of a date fit the widths they are padded to. -/
theorem bounds (date : Date) : date.year < 10 ^ 4 ∧ date.month < 10 ^ 2 ∧ date.day < 10 ^ 2 := by
  have hvalid := date.valid
  simp only [isDate, Bool.and_eq_true, decide_eq_true_eq] at hvalid
  have hmonth : monthLength date.year date.month ≤ 31 := by
    unfold monthLength
    split <;> try omega
    split <;> omega
  omega

/-- A date is told apart from what follows it. -/
theorem chars_append_injective {first second : Date} {rest rest' : List Char}
    (h : first.chars ++ rest = second.chars ++ rest') : first = second ∧ rest = rest' := by
  obtain ⟨hyear, hmonth, hday⟩ := first.bounds
  obtain ⟨hyear', hmonth', hday'⟩ := second.bounds
  unfold chars at h
  simp only [List.append_assoc, List.cons_append] at h
  obtain ⟨hsameYear, h⟩ := padded_append_injective (by decide) hyear hyear' h
  obtain ⟨hsameMonth, h⟩ := padded_append_injective (by decide) hmonth hmonth' (List.cons.inj h).2
  obtain ⟨hsameDay, h⟩ := padded_append_injective (by decide) hday hday' (List.cons.inj h).2
  refine ⟨?_, h⟩
  cases first
  cases second
  simp only [mk.injEq]
  exact ⟨hsameYear, hsameMonth, hsameDay⟩

end Date

/-- A fraction of a second is told apart from what follows it, unless that starts with a point. -/
theorem fractionChars_append_injective {m n : Nat} {rest rest' : List Char} (hm : m < 10 ^ 6)
    (hn : n < 10 ^ 6) (hrest : rest.head? ≠ some '.') (hrest' : rest'.head? ≠ some '.')
    (h : fractionChars m ++ rest = fractionChars n ++ rest') : m = n ∧ rest = rest' := by
  unfold fractionChars at h
  by_cases hzero : m = 0
  · by_cases hzero' : n = 0
    · rw [if_pos hzero, if_pos hzero'] at h
      exact ⟨hzero.trans hzero'.symm, h⟩
    · rw [if_pos hzero, if_neg hzero', List.nil_append] at h
      rw [h] at hrest
      exact absurd rfl hrest
  · by_cases hzero' : n = 0
    · rw [if_neg hzero, if_pos hzero', List.nil_append] at h
      rw [← h] at hrest'
      exact absurd rfl hrest'
    · rw [if_neg hzero, if_neg hzero'] at h
      exact padded_append_injective (by decide) hm hn (List.cons.inj h).2

namespace Offset

/-- The seconds of an offset and their fraction; nothing where the offset is one of whole minutes. -/
def secondsChars (seconds fraction : Nat) : List Char :=
  if seconds % 60 = 0 ∧ fraction = 0 then []
  else ':' :: padded 2 (seconds % 60) ++ fractionChars fraction

/-- Seconds and their fraction are told by their text. -/
theorem secondsChars_injective {seconds seconds' fraction fraction' : Nat} (hfraction : fraction < 10 ^ 6)
    (hfraction' : fraction' < 10 ^ 6) (h : secondsChars seconds fraction = secondsChars seconds' fraction') :
    seconds % 60 = seconds' % 60 ∧ fraction = fraction' := by
  unfold secondsChars at h
  by_cases hzero : seconds % 60 = 0 ∧ fraction = 0
  · by_cases hzero' : seconds' % 60 = 0 ∧ fraction' = 0
    · omega
    · rw [if_pos hzero, if_neg hzero'] at h
      cases h
  · by_cases hzero' : seconds' % 60 = 0 ∧ fraction' = 0
    · rw [if_neg hzero, if_pos hzero'] at h
      cases h
    · rw [if_neg hzero, if_neg hzero'] at h
      obtain ⟨hseconds, hrest⟩ :=
        padded_append_injective (by decide) (by omega) (by omega) (List.cons.inj h).2
      have hend : fraction = fraction' ∧ ([] : List Char) = [] :=
        fractionChars_append_injective hfraction hfraction' (by simp) (by simp) (by simpa using hrest)
      exact ⟨hseconds, hend.1⟩

/-- An offset can be told from its text, to the microsecond. -/
theorem chars_injective {first second : Offset} (h : first.chars = second.chars) : first = second := by
  have hvalid := first.valid
  have hvalid' := second.valid
  unfold dayMicroseconds at hvalid hvalid'
  unfold chars at h
  simp only [List.append_assoc, List.cons_append, List.cons.injEq] at h
  obtain ⟨hsign, h⟩ := h
  obtain ⟨hhours, h⟩ := padded_append_injective (by decide) (by omega) (by omega) h
  obtain ⟨hminutes, h⟩ := padded_append_injective (by decide) (by omega) (by omega) (List.cons.inj h).2
  obtain ⟨hseconds, hfraction⟩ := secondsChars_injective (by omega) (by omega) h
  have hnegative : first.microseconds < 0 ↔ second.microseconds < 0 := by
    by_cases hfirst : first.microseconds < 0 <;> by_cases hsecond : second.microseconds < 0 <;>
      simp [hfirst, hsecond] at hsign ⊢
  have hsame : first.microseconds = second.microseconds := by omega
  cases first
  cases second
  simp only [mk.injEq]
  exact hsame

end Offset

/-- A zone, and whether there is one, is told by its text. -/
theorem zoneChars_injective {first second : Option Offset} (h : zoneChars first = zoneChars second) :
    first = second := by
  cases first with
  | none =>
    cases second with
    | none => rfl
    | some second => cases h
  | some first =>
    cases second with
    | none => cases h
    | some second => rw [Offset.chars_injective h]

/-- No zone starts with a point, so a fraction before it ends where the zone begins. -/
theorem head?_zoneChars_ne_point (zone : Option Offset) : (zoneChars zone).head? ≠ some '.' := by
  cases zone with
  | none => simp [zoneChars]
  | some offset =>
    unfold zoneChars Offset.chars
    by_cases hnegative : offset.microseconds < 0 <;> simp [hnegative]

/-- A clock reading and its zone can be told from their text. -/
theorem Clock.chars_append_zoneChars_injective {first second : Clock} {zone zone' : Option Offset}
    (h : first.chars ++ zoneChars zone = second.chars ++ zoneChars zone') : first = second ∧ zone = zone' := by
  have hvalid := first.valid
  have hvalid' := second.valid
  simp only [Bool.and_eq_true, decide_eq_true_eq] at hvalid hvalid'
  unfold chars at h
  simp only [List.append_assoc, List.cons_append] at h
  obtain ⟨hhour, h⟩ := padded_append_injective (by decide) (by omega) (by omega) h
  obtain ⟨hminute, h⟩ := padded_append_injective (by decide) (by omega) (by omega) (List.cons.inj h).2
  obtain ⟨hsecond, h⟩ := padded_append_injective (by decide) (by omega) (by omega) (List.cons.inj h).2
  obtain ⟨hmicrosecond, h⟩ := fractionChars_append_injective (by omega) (by omega)
    (head?_zoneChars_ne_point zone) (head?_zoneChars_ne_point zone') h
  refine ⟨?_, zoneChars_injective h⟩
  cases first
  cases second
  simp only [mk.injEq]
  exact ⟨hhour, hminute, hsecond, hmicrosecond⟩

/-- Times are told by their texts. -/
theorem Time.chars_injective {first second : Time} (h : first.chars = second.chars) : first = second := by
  obtain ⟨hclock, hzone⟩ := Clock.chars_append_zoneChars_injective h
  cases first
  cases second
  simp only [mk.injEq]
  exact ⟨hclock, hzone⟩

/-- Moments are told by their texts, whatever separates the day from the time. -/
theorem DateTime.chars_injective {separator : Char} {first second : DateTime}
    (h : first.chars separator = second.chars separator) : first = second := by
  unfold chars at h
  simp only [List.append_assoc, List.cons_append] at h
  obtain ⟨hdate, h⟩ := Date.chars_append_injective h
  obtain ⟨hclock, hzone⟩ := Clock.chars_append_zoneChars_injective (List.cons.inj h).2
  cases first
  cases second
  simp only [mk.injEq]
  exact ⟨hdate, hclock, hzone⟩

/-! ## The first field -/

/-- A padded number is never empty. -/
theorem padded_ne_nil (width n : Nat) : padded width n ≠ [] := by
  unfold padded
  exact List.append_ne_nil_of_right_ne_nil _ Nat.toDigits_ne_nil

/-- A field in front of a mark ends at the mark. -/
theorem endsFirstDigits_padded (width n : Nat) {mark : Char} (hmark : mark.isDigit = false)
    (rest : List Char) : Text.EndsFirstDigits mark (padded width n ++ mark :: rest) :=
  ⟨hmark, padded width n, rest, padded_ne_nil width n, fun _ => isDigit_of_mem_padded, rfl⟩

/-- The first run of digits of a date ends at a hyphen. -/
theorem Date.endsFirstDigits_chars_append (date : Date) (rest : List Char) :
    Text.EndsFirstDigits '-' (date.chars ++ rest) := by
  unfold chars
  simp only [List.append_assoc, List.cons_append]
  exact endsFirstDigits_padded 4 date.year rfl _

/-- The first run of digits of a time ends at a colon. -/
theorem Time.endsFirstDigits_chars (time : Time) : Text.EndsFirstDigits ':' time.chars := by
  unfold chars Clock.chars
  simp only [List.append_assoc, List.cons_append]
  exact endsFirstDigits_padded 2 time.clock.hour rfl _

/-- The first run of digits of a moment ends at a hyphen. -/
theorem DateTime.endsFirstDigits_chars (separator : Char) (moment : DateTime) :
    Text.EndsFirstDigits '-' (moment.chars separator) := by
  unfold chars
  rw [List.append_assoc]
  exact moment.date.endsFirstDigits_chars_append _

/-- A date and time is longer than its date. -/
theorem Date.chars_ne_chars_dateTime (date : Date) (separator : Char) (moment : DateTime) :
    date.chars ≠ moment.chars separator := by
  intro h
  unfold DateTime.chars at h
  rw [← List.append_nil date.chars, List.append_assoc] at h
  cases (chars_append_injective h).2

/-! ## Characters -/

/-- The characters of dates and times: digits, and the marks in front of a field. -/
def IsFieldChar (c : Char) : Prop :=
  c.isDigit = true ∨ c ∈ ['-', '+', ':', '.']

/-- Padded numbers are written with digits. -/
theorem isFieldChar_of_mem_padded {width n : Nat} {c : Char} (h : c ∈ padded width n) : IsFieldChar c :=
  .inl (isDigit_of_mem_padded h)

/-- A fraction is written with digits and a point. -/
theorem mem_fractionChars {microsecond : Nat} {c : Char} (h : c ∈ fractionChars microsecond) :
    c.isDigit = true ∨ c = '.' := by
  unfold fractionChars at h
  split at h
  · cases h
  · rcases List.mem_cons.mp h with hpoint | hdigit
    · exact .inr hpoint
    · exact .inl (isDigit_of_mem_padded hdigit)

/-- A clock is written with digits, colons and a point. -/
theorem Clock.mem_chars {clock : Clock} {c : Char} (h : c ∈ clock.chars) : c.isDigit = true ∨ c ∈ [':', '.'] := by
  unfold chars at h
  simp only [List.append_assoc, List.cons_append, List.mem_append, List.mem_cons] at h
  rcases h with hdigit | hcolon | hdigit | hcolon | hdigit | hfraction
  · exact .inl (isDigit_of_mem_padded hdigit)
  · exact .inr (hcolon ▸ List.mem_cons_self)
  · exact .inl (isDigit_of_mem_padded hdigit)
  · exact .inr (hcolon ▸ List.mem_cons_self)
  · exact .inl (isDigit_of_mem_padded hdigit)
  · rcases mem_fractionChars hfraction with hdigit | hpoint
    · exact .inl hdigit
    · exact .inr (hpoint ▸ List.mem_cons_of_mem _ List.mem_cons_self)

/-- A fraction is written with characters of fields. -/
theorem isFieldChar_of_mem_fractionChars {microsecond : Nat} {c : Char} (h : c ∈ fractionChars microsecond) :
    IsFieldChar c := by
  rcases mem_fractionChars h with hdigit | rfl
  · exact .inl hdigit
  · exact .inr (by decide)

/-- A date is written with characters of fields. -/
theorem Date.isFieldChar_of_mem_chars (date : Date) : ∀ c ∈ date.chars, IsFieldChar c := by
  unfold chars
  simp only [List.append_assoc, List.cons_append, List.forall_mem_append, List.forall_mem_cons]
  exact ⟨fun _ => isFieldChar_of_mem_padded, .inr (by decide), fun _ => isFieldChar_of_mem_padded, .inr (by decide),
    fun _ => isFieldChar_of_mem_padded⟩

/-- A clock is written with characters of fields. -/
theorem Clock.isFieldChar_of_mem_chars (clock : Clock) : ∀ c ∈ clock.chars, IsFieldChar c := by
  intro c hc
  refine (mem_chars hc).imp_right fun hmark => ?_
  exact List.mem_cons_of_mem _ (List.mem_cons_of_mem _ hmark)

/-- A zone is written with characters of fields. -/
theorem isFieldChar_of_mem_zoneChars (zone : Option Offset) : ∀ c ∈ zoneChars zone, IsFieldChar c := by
  cases zone with
  | none => exact fun _ h => absurd h List.not_mem_nil
  | some offset =>
    unfold zoneChars Offset.chars
    simp only [List.append_assoc, List.cons_append, List.forall_mem_append, List.forall_mem_cons]
    refine ⟨by split <;> exact .inr (by decide), fun _ => isFieldChar_of_mem_padded, .inr (by decide),
      fun _ => isFieldChar_of_mem_padded, ?_⟩
    split
    · exact fun _ h => absurd h List.not_mem_nil
    · simp only [List.forall_mem_append, List.forall_mem_cons]
      exact ⟨.inr (by decide), fun _ => isFieldChar_of_mem_padded, fun _ => isFieldChar_of_mem_fractionChars⟩

end SqlInsert.Calendar
