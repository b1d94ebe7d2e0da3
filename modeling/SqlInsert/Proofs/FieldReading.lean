import SqlInsert.Proofs.CalendarText
import SqlInsert.Proofs.NumberReading
import SqlInsert.Calendar.Reading
/-!
# Fields of fixed width

A number of so many digits is read exactly where it was written in so many places, and a text of single units
has a position for each character.
-/

namespace SqlInsert.Calendar

/-- A run is read digit by digit exactly where it holds nothing else. -/
theorem mapM_asciiDigit?_eq_some_iff {digits : List Char} {values : List Nat} :
    digits.mapM asciiDigit? = some values ↔
      (∀ c ∈ digits, c.isDigit = true) ∧ values = Number.digitValues digits := by
  induction digits generalizing values with
  | nil =>
    constructor
    · intro h
      cases h
      exact ⟨List.forall_mem_nil _, rfl⟩
    · rintro ⟨_, rfl⟩
      rfl
  | cons c digits ih =>
    rw [List.mapM_cons]
    simp only [bind, Option.bind_eq_some_iff, pure, Option.some.injEq, ih]
    unfold asciiDigit?
    constructor
    · rintro ⟨value, hvalue, others, ⟨hdigits, rfl⟩, rfl⟩
      split at hvalue
      · rename_i hdigit
        cases hvalue
        exact ⟨List.forall_mem_cons.mpr ⟨hdigit, hdigits⟩, rfl⟩
      · cases hvalue
    · rintro ⟨hdigits, rfl⟩
      obtain ⟨hdigit, hdigits⟩ := List.forall_mem_cons.mp hdigits
      exact ⟨_, if_pos hdigit, _, ⟨hdigits, rfl⟩, rfl⟩

/-- Digits of one length that spell one number are the same. -/
theorem ofDigitChars_injective {digits digits' : List Char} (hlength : digits.length = digits'.length)
    (hdigits : ∀ c ∈ digits, c.isDigit = true) (hdigits' : ∀ c ∈ digits', c.isDigit = true)
    (h : Nat.ofDigitChars 10 digits 0 = Nat.ofDigitChars 10 digits' 0) : digits = digits' := by
  induction digits generalizing digits' with
  | nil => exact (List.length_eq_zero_iff.mp hlength.symm).symm
  | cons c digits ih =>
    cases digits' with
    | nil => cases hlength
    | cons c' digits' =>
      obtain ⟨hc, hdigits⟩ := List.forall_mem_cons.mp hdigits
      obtain ⟨hc', hdigits'⟩ := List.forall_mem_cons.mp hdigits'
      have hrest : digits.length = digits'.length := Nat.succ.inj hlength
      have hsmall := Number.ofDigitChars_lt hdigits
      have hsmall' := Number.ofDigitChars_lt hdigits'
      have hpos : 0 < 10 ^ digits.length := Nat.pow_pos (by decide)
      rw [Nat.ofDigitChars_cons, Nat.ofDigitChars_cons, Nat.ofDigitChars_eq_ofDigitChars_zero,
        @Nat.ofDigitChars_eq_ofDigitChars_zero digits', ← hrest] at h
      rw [← hrest] at hsmall'
      obtain ⟨hquotient, hremainder⟩ := (Nat.div_mod_unique hpos).mpr ⟨Nat.add_comm _ _, hsmall⟩
      obtain ⟨hquotient', hremainder'⟩ := (Nat.div_mod_unique hpos).mpr ⟨Nat.add_comm _ _, hsmall'⟩
      rw [h] at hquotient hremainder
      have hlow := (Char.isDigit_iff_toNat.mp hc).1
      have hlow' := (Char.isDigit_iff_toNat.mp hc').1
      have hfirst : c.toNat = c'.toNat := by
        have hvalue := hquotient.symm.trans hquotient'
        have hzero : '0'.toNat = 48 := rfl
        rw [hzero] at hvalue
        omega
      rw [Char.toNat_inj.mp hfirst, ih hrest hdigits hdigits' (hremainder.symm.trans hremainder')]

/-- Digits are the number that they spell, written in so many places. -/
theorem padded_ofDigitChars {digits : List Char} (hnil : digits ≠ []) (h : ∀ c ∈ digits, c.isDigit = true) :
    padded digits.length (Nat.ofDigitChars 10 digits 0) = digits := by
  have hlength := length_padded (List.length_pos_iff.mpr hnil) (Number.ofDigitChars_lt h)
  exact ofDigitChars_injective hlength (fun _ => isDigit_of_mem_padded) h (ofDigitChars_padded _ _)

/-- A number is read from exactly the digits that it is written with in so many places. -/
theorem number?_eq_some_iff {count n : Nat} {text rest : List Char} (hcount : 0 < count) :
    number? count text = some (n, rest) ↔ n < 10 ^ count ∧ text = padded count n ++ rest := by
  have hvalue (digits : List Char) : (Number.digitValues digits).foldl (fun value digit => value * 10 + digit) 0 =
      Nat.ofDigitChars 10 digits 0 := Number.ofDigits_digitValues digits
  unfold number?
  dsimp only
  constructor
  · intro h
    split at h
    · rename_i hlength
      rw [Option.map_eq_some_iff] at h
      obtain ⟨values, hvalues, hread⟩ := h
      obtain ⟨hdigits, rfl⟩ := mapM_asciiDigit?_eq_some_iff.mp hvalues
      rw [hvalue, Prod.mk.injEq] at hread
      obtain ⟨rfl, rfl⟩ := hread
      have hnil : text.take count ≠ [] := List.ne_nil_of_length_pos (by omega)
      have hwritten := padded_ofDigitChars hnil hdigits
      have hlt := Number.ofDigitChars_lt hdigits
      rw [hlength] at hwritten hlt
      rw [hwritten, List.take_append_drop]
      exact ⟨hlt, rfl⟩
    · cases h
  · rintro ⟨hlt, rfl⟩
    have hlength := length_padded hcount hlt
    rw [List.take_left' hlength, List.drop_left' hlength, if_pos hlength,
      mapM_asciiDigit?_eq_some_iff.mpr ⟨fun _ => isDigit_of_mem_padded, rfl⟩, Option.map_some, hvalue,
      ofDigitChars_padded]

/-- A field is read where it was written, and what follows it is left. -/
theorem number?_padded {count n : Nat} (hcount : 0 < count) (h : n < 10 ^ count) (rest : List Char) :
    number? count (padded count n ++ rest) = some (n, rest) :=
  (number?_eq_some_iff hcount).mpr ⟨h, rfl⟩

/-- A field at the end leaves nothing. -/
theorem number?_padded_end {count n : Nat} (hcount : 0 < count) (h : n < 10 ^ count) :
    number? count (padded count n) = some (n, []) :=
  (number?_eq_some_iff hcount).mpr ⟨h, (List.append_nil _).symm⟩

/-- A field starts with a digit. -/
theorem exists_padded_eq_cons (width n : Nat) :
    ∃ c digits, padded width n = c :: digits ∧ c.isDigit = true := by
  obtain ⟨c, digits, hcons⟩ := List.exists_cons_of_ne_nil (padded_ne_nil width n)
  exact ⟨c, digits, hcons, isDigit_of_mem_padded (hcons ▸ List.mem_cons_self)⟩

/-! ## Positions -/

/-- A digit takes one position. -/
theorem utf8Size_of_isDigit {c : Char} (h : c.isDigit = true) : c.utf8Size = 1 := by
  have hhigh : c.toNat ≤ 57 := (Char.isDigit_iff_toNat.mp h).2
  exact Char.utf8Size_eq_one_iff.mpr (UInt32.le_iff_toNat_le.mpr (Nat.le_trans hhigh (by decide)))

/-- The first character stands at as many positions as it takes bytes. -/
theorem positions_cons (c : Char) (text : List Char) :
    positions (String.ofList (c :: text)) = List.replicate c.utf8Size c ++ positions (String.ofList text) := by
  unfold positions
  rw [String.toList_ofList, String.toList_ofList, List.flatMap_cons]

/-- Single units at the front of the positions stand at the front of the text. -/
theorem positions_eq_append_iff {front rest text : List Char} (hfront : ∀ c ∈ front, c.utf8Size = 1) :
    positions (String.ofList text) = front ++ rest ↔
      ∃ skipped, text = front ++ skipped ∧ positions (String.ofList skipped) = rest := by
  -- A character of several bytes would stand at several positions, which a front of single ones cannot hold.
  induction front generalizing text with
  | nil => simp
  | cons c front ih =>
    obtain ⟨hunit, hunits⟩ := List.forall_mem_cons.mp hfront
    constructor
    · intro h
      cases text with
      | nil => cases h
      | cons d text =>
        obtain ⟨further, hsize⟩ := Nat.exists_eq_add_one_of_ne_zero (Nat.ne_of_gt d.utf8Size_pos)
        rw [positions_cons, hsize, List.replicate_succ, List.cons_append, List.cons_append] at h
        obtain ⟨rfl, hbehind⟩ := List.cons.inj h
        obtain rfl : further = 0 := by omega
        obtain ⟨skipped, rfl, hskipped⟩ := (ih hunits).mp hbehind
        exact ⟨skipped, rfl, hskipped⟩
    · rintro ⟨skipped, rfl, rfl⟩
      rw [List.cons_append, positions_cons, hunit, (ih hunits).mpr ⟨skipped, rfl, rfl⟩]
      rfl

/-- A text of single units has one position for each character. -/
theorem positions_ofList {text : List Char} (h : ∀ c ∈ text, c.utf8Size = 1) :
    positions (String.ofList text) = text := by
  have hnone : positions (String.ofList []) = [] := rfl
  have hall := (positions_eq_append_iff h).mpr ⟨[], (List.append_nil text).symm, rfl⟩
  rwa [hnone, List.append_nil] at hall

end SqlInsert.Calendar
