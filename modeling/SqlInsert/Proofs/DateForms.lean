import SqlInsert.Proofs.FieldReading
import SqlInsert.Proofs.WeekDates
/-!
# Forms of a date

A date is written by its month and day or by its week, with or without hyphens, and a week without its day
stands for its Monday. These six forms are read, and besides them a day without hyphens with two positions of
anything behind it.
-/

namespace SqlInsert.Calendar

/-- The forms of a date, each with or without hyphens. -/
inductive DateForm
  | monthDay (hyphens : Bool)
  | weekDay (hyphens : Bool)
  | week (hyphens : Bool)
deriving DecidableEq

/-- The number of characters of a form. -/
def DateForm.length : DateForm → Nat
  | .monthDay true | .weekDay true => 10
  | .monthDay false | .weekDay false | .week true => 8
  | .week false => 7

/-- What stands between the fields of a form. -/
def hyphenChars (hyphens : Bool) : List Char :=
  if hyphens then ['-'] else []

/-- A text is a date in a form. -/
inductive Date.IsWritten (date : Date) : DateForm → List Char → Prop
  | monthDay (hyphens : Bool) :
      IsWritten date (.monthDay hyphens)
        (padded 4 date.year ++ (hyphenChars hyphens ++ (padded 2 date.month ++
          (hyphenChars hyphens ++ padded 2 date.day))))
  | weekDay {year week weekday : Nat} (hyphens : Bool) (day : date.IsWeekDay year week weekday) :
      IsWritten date (.weekDay hyphens)
        (padded 4 year ++ (hyphenChars hyphens ++ 'W' :: (padded 2 week ++
          (hyphenChars hyphens ++ padded 1 weekday))))
  | week {year week : Nat} (hyphens : Bool) (monday : date.IsWeekDay year week 1) :
      IsWritten date (.week hyphens) (padded 4 year ++ (hyphenChars hyphens ++ 'W' :: padded 2 week))

/-- A date written in a form has the length of the form. -/
theorem Date.IsWritten.length_eq {date : Date} {form : DateForm} {text : List Char}
    (h : date.IsWritten form text) : text.length = form.length := by
  cases h with
  | monthDay hyphens =>
    obtain ⟨hyear, hmonth, hday⟩ := date.bounds
    have hyears := length_padded (by decide) hyear
    have hmonths := length_padded (by decide) hmonth
    have hdays := length_padded (by decide) hday
    cases hyphens <;> simp [hyphenChars, DateForm.length, hyears, hmonths, hdays]
  | @weekDay year week weekday hyphens day =>
    obtain ⟨_, hyear, _, hweek, _, hweekday⟩ := day.bounds
    have hyears : (padded 4 year).length = 4 := length_padded (by decide) (by omega)
    have hweeks : (padded 2 week).length = 2 := length_padded (by decide) (by omega)
    have hdays : (padded 1 weekday).length = 1 := length_padded (by decide) (by omega)
    cases hyphens <;> simp [hyphenChars, DateForm.length, hyears, hweeks, hdays]
  | @week year week hyphens monday =>
    obtain ⟨_, hyear, _, hweek, _, _⟩ := monday.bounds
    have hyears : (padded 4 year).length = 4 := length_padded (by decide) (by omega)
    have hweeks : (padded 2 week).length = 2 := length_padded (by decide) (by omega)
    cases hyphens <;> simp [hyphenChars, DateForm.length, hyears, hweeks]

/-- A form is made of digits, hyphens and the mark of a week. -/
theorem Date.IsWritten.isDigit_or_mark {date : Date} {form : DateForm} {text : List Char}
    (h : date.IsWritten form text) : ∀ c ∈ text, c.isDigit = true ∨ c = '-' ∨ c = 'W' := by
  have hfield (width n : Nat) : ∀ c ∈ padded width n, c.isDigit = true ∨ c = '-' ∨ c = 'W' :=
    fun _ hc => .inl (isDigit_of_mem_padded hc)
  have hseparator (hyphens : Bool) : ∀ c ∈ hyphenChars hyphens, c.isDigit = true ∨ c = '-' ∨ c = 'W' := by
    cases hyphens
    · exact List.forall_mem_nil _
    · exact List.forall_mem_singleton.mpr (.inr (.inl rfl))
  cases h <;> simp only [List.forall_mem_append, List.forall_mem_cons]
  · exact ⟨hfield _ _, hseparator _, hfield _ _, hseparator _, hfield _ _⟩
  · exact ⟨hfield _ _, hseparator _, .inr (.inr trivial), hfield _ _, hseparator _, hfield _ _⟩
  · exact ⟨hfield _ _, hseparator _, .inr (.inr trivial), hfield _ _⟩

/-- Every character of a written date takes one position. -/
theorem Date.IsWritten.utf8Size_of_mem {date : Date} {form : DateForm} {text : List Char}
    (h : date.IsWritten form text) : ∀ c ∈ text, c.utf8Size = 1 := by
  intro c hc
  rcases h.isDigit_or_mark c hc with hdigit | rfl | rfl
  · exact utf8Size_of_isDigit hdigit
  · rfl
  · rfl

/-! ## Reading a form -/

section

variable {year : Nat}

/-- A hyphen is skipped exactly where the form has one, and nothing is where it has none. -/
theorem skipHyphen?_eq_some_iff {hyphens : Bool} {text rest : List Char} :
    skipHyphen? hyphens text = some rest ↔ text = hyphenChars hyphens ++ rest := by
  cases hyphens with
  | false => exact ⟨fun h => Option.some.inj h, fun h => congrArg some h⟩
  | true =>
    unfold skipHyphen?
    constructor
    · intro h
      split at h
      · split at h
        · cases h
          rfl
        · cases h
      · contradiction
    · rintro rfl
      rfl

/-- The fields behind the year of a week date. -/
theorem dateFields?_week {week : Nat} (hyear : year < 10 ^ 4) (hweek : week < 10 ^ 2) (hyphens : Bool)
    (rest : List Char) :
    dateFields? (padded 4 year ++ (hyphenChars hyphens ++ 'W' :: (padded 2 week ++ rest))) =
      if rest = [] then Date.ofWeekDate? year week 1
      else (skipHyphen? hyphens rest).bind fun day =>
        (number? 1 day).bind fun weekday => Date.ofWeekDate? year week weekday.1 := by
  unfold dateFields?
  rw [number?_padded (by decide) hyear]
  cases hyphens <;> simp [hyphenChars, number?_padded (by decide : 0 < 2) hweek]

/-- The fields behind the year of a date by its month. -/
theorem dateFields?_month {month : Nat} (hyear : year < 10 ^ 4) (hmonth : month < 10 ^ 2) (hyphens : Bool)
    (rest : List Char) :
    dateFields? (padded 4 year ++ (hyphenChars hyphens ++ (padded 2 month ++ rest))) =
      (skipHyphen? hyphens rest).bind fun text =>
        (number? 2 text).bind fun day => Date.ofNumbers? year month day.1 := by
  have hread := number?_padded (by decide) hmonth rest
  obtain ⟨c, digits, hcons, hdigit⟩ := exists_padded_eq_cons 2 month
  have hhyphen : c ≠ '-' := by
    rintro rfl
    cases hdigit
  have hweek : c ≠ 'W' := by
    rintro rfl
    cases hdigit
  rw [hcons, List.cons_append] at hread ⊢
  unfold dateFields?
  rw [number?_padded (by decide) hyear]
  cases hyphens with
  | false => simp [hyphenChars, hhyphen, beq_eq_false_iff_ne.mpr hhyphen, hweek, hread]
  | true => simp [hyphenChars, hweek, hread]

end

/-- What can be read has a year and then the mark of a week or a month. -/
theorem exists_fields_of_dateFields? {text : List Char} {date : Date} (h : dateFields? text = some date) :
    ∃ year hyphens field rest, year < 10 ^ 4 ∧ field < 10 ^ 2 ∧
      (text = padded 4 year ++ (hyphenChars hyphens ++ 'W' :: (padded 2 field ++ rest)) ∨
        text = padded 4 year ++ (hyphenChars hyphens ++ (padded 2 field ++ rest))) := by
  unfold dateFields? at h
  simp only [Option.bind_eq_bind, Option.bind_eq_some_iff] at h
  obtain ⟨⟨year, behind⟩, hread, h⟩ := h
  obtain ⟨hyear, rfl⟩ := (number?_eq_some_iff (by decide)).mp hread
  dsimp only at h
  generalize hhyphens : (behind.head? == some '-') = hyphens at h
  obtain ⟨fields, hfields, rfl⟩ : ∃ fields, (if hyphens = true then behind.tail else behind) = fields ∧
      behind = hyphenChars hyphens ++ fields := by
    refine ⟨_, rfl, ?_⟩
    cases hyphens with
    | false => rfl
    | true =>
      cases behind with
      | nil => cases hhyphens
      | cons c fields =>
        obtain rfl : c = '-' := by simpa using hhyphens
        rfl
  rw [hfields] at h
  split at h
  · obtain ⟨⟨week, rest⟩, hweek, _⟩ := Option.bind_eq_some_iff.mp h
    obtain ⟨hlt, rfl⟩ := (number?_eq_some_iff (by decide)).mp hweek
    exact ⟨year, hyphens, week, rest, hyear, hlt, .inl rfl⟩
  · obtain ⟨⟨month, rest⟩, hmonth, _⟩ := Option.bind_eq_some_iff.mp h
    obtain ⟨hlt, rfl⟩ := (number?_eq_some_iff (by decide)).mp hmonth
    exact ⟨year, hyphens, month, rest, hyear, hlt, .inr rfl⟩

/-- The forms that are read from the front of a text. Only a week without its day needs the whole text. -/
theorem dateFields?_eq_some_iff {text : List Char} {date : Date} :
    dateFields? text = some date ↔
      ∃ form front rest, text = front ++ rest ∧ date.IsWritten form front ∧
        ∀ hyphens, form = .week hyphens → rest = [] := by
  constructor
  · intro h
    -- Behind the year stands a week or a month, and the week may be all.
    obtain ⟨year, hyphens, field, rest, hyear, hfield, rfl | rfl⟩ := exists_fields_of_dateFields? h
    · rw [dateFields?_week hyear hfield] at h
      split at h
      · rename_i hrest
        have hmonday := Date.ofWeekDate?_eq_some_iff.mp h
        exact ⟨.week hyphens, _, [], by simp [hrest], .week hyphens hmonday, fun _ _ => rfl⟩
      · obtain ⟨day, hday, hbehind⟩ := Option.bind_eq_some_iff.mp h
        obtain ⟨⟨weekday, skipped⟩, hweekday, hread⟩ := Option.bind_eq_some_iff.mp hbehind
        obtain rfl := skipHyphen?_eq_some_iff.mp hday
        obtain ⟨_, rfl⟩ := (number?_eq_some_iff (by decide)).mp hweekday
        have hdate := Date.ofWeekDate?_eq_some_iff.mp hread
        exact ⟨.weekDay hyphens, _, skipped, by simp, .weekDay hyphens hdate, by simp⟩
    · rw [dateFields?_month hyear hfield] at h
      obtain ⟨day, hday, hbehind⟩ := Option.bind_eq_some_iff.mp h
      obtain ⟨⟨number, skipped⟩, hnumber, hread⟩ := Option.bind_eq_some_iff.mp hbehind
      obtain rfl := skipHyphen?_eq_some_iff.mp hday
      obtain ⟨_, rfl⟩ := (number?_eq_some_iff (by decide)).mp hnumber
      obtain ⟨rfl, rfl, rfl⟩ := Date.ofNumbers?_eq_some_iff.mp hread
      exact ⟨.monthDay hyphens, _, skipped, by simp, .monthDay hyphens, by simp⟩
  · rintro ⟨form, front, rest, rfl, hwritten, hwhole⟩
    cases hwritten with
    | monthDay hyphens =>
      obtain ⟨hyear, hmonth, hday⟩ := date.bounds
      simp only [List.append_assoc]
      rw [dateFields?_month hyear hmonth, skipHyphen?_eq_some_iff.mpr rfl, Option.bind_some,
        number?_padded (by decide) hday]
      exact Date.ofNumbers?_eq_some_iff.mpr ⟨rfl, rfl, rfl⟩
    | @weekDay year week weekday hyphens day =>
      obtain ⟨_, hyear, _, hweek, _, hweekday⟩ := day.bounds
      have hmore : hyphenChars hyphens ++ (padded 1 weekday ++ rest) ≠ [] := by
        simp [padded_ne_nil]
      simp only [List.append_assoc, List.cons_append]
      rw [dateFields?_week (by omega) (by omega), if_neg hmore, skipHyphen?_eq_some_iff.mpr rfl, Option.bind_some,
        number?_padded (by decide) (by omega)]
      exact Date.ofWeekDate?_eq_some_iff.mpr day
    | @week year week hyphens monday =>
      obtain ⟨_, hyear, _, hweek, _, _⟩ := monday.bounds
      rw [hwhole hyphens rfl, List.append_nil, ← List.append_nil (padded 2 week), dateFields?_week (by omega) (by omega),
        if_pos rfl]
      exact Date.ofWeekDate?_eq_some_iff.mpr monday

/-- Whether a form is that of a day without hyphens. -/
def DateForm.isCompactDay : DateForm → Bool
  | .monthDay false | .weekDay false => true
  | _ => false

/-- Among the texts of seven, eight and ten positions, only one with a day without hyphens in front can go on. -/
theorem DateForm.length_add_iff {form : DateForm} {further : Nat}
    (hwhole : ∀ hyphens, form = .week hyphens → further = 0) :
    (form.length + further = 7 ∨ form.length + further = 8 ∨ form.length + further = 10) ↔
      further = 0 ∨ form.isCompactDay = true ∧ further = 2 := by
  cases form with
  | week hyphens =>
    obtain rfl := hwhole hyphens rfl
    cases hyphens <;> simp [DateForm.length]
  | monthDay hyphens | weekDay hyphens =>
    cases hyphens <;>
      simp only [DateForm.length, isCompactDay, true_and, false_and, or_false, Bool.false_eq_true] <;>
      omega

/-- The texts of a date: those of its forms, and a day without hyphens with two positions behind it. -/
theorem Date.read?_eq_some_iff {text : String} {date : Date} :
    Date.read? text = some date ↔
      ∃ form front skipped, text.toList = front ++ skipped ∧ date.IsWritten form front ∧
        (skipped = [] ∨ form.isCompactDay = true ∧ (positions (String.ofList skipped)).length = 2) := by
  obtain ⟨chars, rfl⟩ : ∃ chars, text = String.ofList chars := ⟨text.toList, by simp⟩
  have hnone (skipped : List Char) : (positions (String.ofList skipped)).length = 0 ↔ skipped = [] := by
    cases skipped with
    | nil => exact iff_of_true rfl rfl
    | cons c skipped =>
      have hsize := c.utf8Size_pos
      rw [positions_cons, List.length_append, List.length_replicate]
      exact iff_of_false (by omega) (by simp)
  unfold read?
  rw [String.toList_ofList]
  dsimp only
  constructor
  · intro h
    split at h
    · rename_i hlength
      obtain ⟨form, front, rest, hunits, hwritten, hwhole⟩ := dateFields?_eq_some_iff.mp h
      -- The characters that are read take one position each, so the positions left over are those of a text behind.
      obtain ⟨skipped, rfl, rfl⟩ := (positions_eq_append_iff hwritten.utf8Size_of_mem).mp hunits
      rw [hunits, List.length_append, hwritten.length_eq, DateForm.length_add_iff] at hlength
      · rw [hnone] at hlength
        exact ⟨form, front, skipped, rfl, hwritten, hlength⟩
      · intro hyphens hform
        rw [hwhole hyphens hform]
        rfl
    · cases h
  · rintro ⟨form, front, skipped, rfl, hwritten, hskipped⟩
    have hunits := (positions_eq_append_iff hwritten.utf8Size_of_mem).mpr ⟨skipped, rfl, rfl⟩
    have hwhole : ∀ hyphens, form = .week hyphens → skipped = [] := by
      rintro hyphens rfl
      exact hskipped.resolve_right (by simp [DateForm.isCompactDay])
    rw [hunits, List.length_append, hwritten.length_eq, if_pos]
    · refine dateFields?_eq_some_iff.mpr ⟨form, front, _, rfl, hwritten, fun hyphens hform => ?_⟩
      rw [hwhole hyphens hform]
      rfl
    · rw [DateForm.length_add_iff, hnone]
      · exact hskipped
      · intro hyphens hform
        rw [hwhole hyphens hform]
        rfl

end SqlInsert.Calendar
