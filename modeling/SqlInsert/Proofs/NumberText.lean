import SqlInsert.Proofs.DecimalText
/-!
# What the text of a number denotes

A number is written as digits with or without a point, and with or without a power of ten. It denotes
one rational number: what the digits before the point count, the decimal places behind it, and all that
times the power. The text of a decimal number is such a text, so what it denotes is the number, in
whichever form it is written.
-/

namespace SqlInsert.Number

/-- The sign of a power of ten as it is written. -/
inductive PowerSign
  | absent
  | plus
  | minus
deriving DecidableEq

/-- The characters of a sign. -/
def PowerSign.chars : PowerSign → List Char
  | .absent => []
  | .plus => ['+']
  | .minus => ['-']

/-- A power of ten as it is written. -/
@[ext]
structure WrittenPower where
  /-- The mark is a capital letter. -/
  isCapital : Bool
  sign : PowerSign
  digits : List Char
  isDigit_digits : ∀ c ∈ digits, c.isDigit = true
  digits_ne_nil : digits ≠ []

namespace WrittenPower

/-- The characters of a power: its mark, its sign and its digits. -/
def chars (power : WrittenPower) : List Char :=
  (if power.isCapital then 'E' else 'e') :: (power.sign.chars ++ power.digits)

/-- The exponent that is written. -/
def exponent (power : WrittenPower) : Int :=
  match power.sign with
  | .minus => -(Nat.ofDigitChars 10 power.digits 0 : Int)
  | _ => Nat.ofDigitChars 10 power.digits 0

end WrittenPower

/-- The text of a number in parts. There is a digit before the point or behind it. -/
@[ext]
structure NumberText where
  /-- The digits before the point. -/
  whole : List Char
  /-- The digits behind the point, if there is a point. -/
  fraction : Option (List Char)
  power : Option WrittenPower
  isDigit_whole : ∀ c ∈ whole, c.isDigit = true
  isDigit_fraction : ∀ c ∈ fraction.getD [], c.isDigit = true
  has_digit : whole ++ fraction.getD [] ≠ []

namespace NumberText

/-- The point with the digits behind it. -/
def pointChars : Option (List Char) → List Char
  | none => []
  | some digits => '.' :: digits

/-- The power of ten, if there is one. -/
def powerChars : Option WrittenPower → List Char
  | none => []
  | some power => power.chars

variable (number : NumberText)

/-- The digits behind the point. -/
def fractionDigits : List Char := number.fraction.getD []

/-- The characters of the text. -/
def chars : List Char :=
  number.whole ++ (pointChars number.fraction ++ powerChars number.power)

/-- The text. -/
def text : String := String.ofList number.chars

/-- The exponent that is written, zero if there is none. -/
def writtenExponent : Int := (number.power.map WrittenPower.exponent).getD 0

/-- How many digits stand before the point and behind it. -/
def digitCount : Nat := number.whole.length + number.fractionDigits.length

/-- The rational number that the text denotes. -/
def quantity : Rat :=
  ((Nat.ofDigitChars 10 number.whole 0 : Rat) +
    (Nat.ofDigitChars 10 number.fractionDigits 0 : Rat) / 10 ^ number.fractionDigits.length) *
    10 ^ number.writtenExponent

/-- The number that all digits together spell. -/
def coefficient : Nat := Nat.ofDigitChars 10 (number.whole ++ number.fractionDigits) 0

/-- The exponent of the last digit. -/
def lastExponent : Int := number.writtenExponent - number.fractionDigits.length

/-- The places behind the point can be moved into the exponent. -/
theorem quantity_eq : number.quantity = (number.coefficient : Rat) * 10 ^ number.lastExponent := by
  have hten : (10 : Rat) ≠ 0 := by decide
  have hcoefficient : (number.coefficient : Rat) =
      10 ^ number.fractionDigits.length * (Nat.ofDigitChars 10 number.whole 0 : Rat) +
        (Nat.ofDigitChars 10 number.fractionDigits 0 : Rat) := by
    rw [coefficient, Nat.ofDigitChars_append, Nat.ofDigitChars_eq_ofDigitChars_zero, Rat.natCast_add,
      Rat.natCast_mul, Rat.natCast_pow]
    rfl
  have hscale : (10 : Rat) ^ number.lastExponent =
      10 ^ number.writtenExponent * (10 ^ number.fractionDigits.length)⁻¹ := by
    rw [lastExponent, Int.sub_eq_add_neg, Rat.zpow_add hten, Rat.zpow_neg, Rat.zpow_natCast]
  have hpower : (10 : Rat) ^ number.fractionDigits.length ≠ 0 := Rat.ne_of_gt (Rat.pow_pos (by decide))
  rw [quantity, hcoefficient, hscale, Rat.div_def]
  generalize (10 : Rat) ^ number.fractionDigits.length = places at hpower
  grind

/-! ## The characters of a number -/

/-- A power starts with its letter. -/
theorem head?_powerChars {power : Option WrittenPower} {c : Char} (h : c ∈ (powerChars power).head?) :
    c = 'e' ∨ c = 'E' := by
  cases power with
  | none => cases h
  | some power =>
    cases h
    cases power.isCapital
    · exact .inl rfl
    · exact .inr rfl

/-- What follows the first digits is a point or the mark of a power. -/
theorem head?_pointChars_append_powerChars {fraction : Option (List Char)} {power : Option WrittenPower}
    {c : Char} (h : c ∈ (pointChars fraction ++ powerChars power).head?) : c = '.' ∨ c = 'e' ∨ c = 'E' := by
  cases fraction with
  | none => exact .inr (head?_powerChars h)
  | some digits =>
    cases h
    exact .inl rfl

/-- A power starts with no digit. -/
theorem not_isDigit_of_head?_powerChars {power : Option WrittenPower} {c : Char}
    (h : c ∈ (powerChars power).head?) : c.isDigit = false := by
  rcases head?_powerChars h with rfl | rfl <;> rfl

/-- What follows the leading digits starts with no digit. -/
theorem not_isDigit_of_head? {fraction : Option (List Char)} {power : Option WrittenPower} {c : Char}
    (h : c ∈ (pointChars fraction ++ powerChars power).head?) : c.isDigit = false := by
  rcases head?_pointChars_append_powerChars h with rfl | rfl | rfl <;> rfl

variable {number}

/-- A number starts with a digit or a point. -/
theorem head?_chars {c : Char} (h : c ∈ number.chars.head?) : c.isDigit = true ∨ c = '.' := by
  cases hwhole : number.whole with
  | nil =>
    cases hpoint : number.fraction with
    | none => exact absurd (by rw [hwhole, hpoint]; rfl) number.has_digit
    | some digits =>
      rw [chars, hwhole, hpoint] at h
      cases h
      exact .inr rfl
  | cons digit digits =>
    rw [chars, hwhole] at h
    have hfirst : digit = c := Option.some.inj h
    rw [← hfirst]
    exact .inl (number.isDigit_whole digit (by rw [hwhole]; exact List.mem_cons_self))

/-- A power consists of its mark, its sign and digits. -/
theorem mem_powerChars {power : Option WrittenPower} {c : Char} (h : c ∈ powerChars power) :
    c.isDigit = true ∨ c ∈ ['.', 'e', 'E', '+', '-'] := by
  cases power with
  | none => cases h
  | some power =>
    rcases List.mem_cons.mp h with hmark | hbehind
    · rw [hmark]
      cases power.isCapital <;> exact .inr (by decide)
    · rcases List.mem_append.mp hbehind with hsign | hdigit
      · cases hform : power.sign <;> rw [hform] at hsign
        · cases hsign
        · rw [List.mem_singleton.mp hsign]
          exact .inr (by decide)
        · rw [List.mem_singleton.mp hsign]
          exact .inr (by decide)
      · exact .inl (power.isDigit_digits c hdigit)

/-- A number consists of digits, a point, the mark of a power and its sign. -/
theorem mem_chars {c : Char} (h : c ∈ number.chars) : c.isDigit = true ∨ c ∈ ['.', 'e', 'E', '+', '-'] := by
  rcases List.mem_append.mp h with hwhole | hrest
  · exact .inl (number.isDigit_whole c hwhole)
  · rcases List.mem_append.mp hrest with hfraction | hpower
    · have hdigits := number.isDigit_fraction
      cases hpoint : number.fraction with
      | none =>
        rw [hpoint] at hfraction
        cases hfraction
      | some digits =>
        rw [hpoint] at hfraction hdigits
        rcases List.mem_cons.mp hfraction with rfl | hdigit
        · exact .inr (by decide)
        · exact .inl (hdigits c hdigit)
    · exact mem_powerChars hpower

/-- A number consists of digits alone exactly if it has neither a point nor a power of ten. -/
theorem forall_isDigit_iff :
    (∀ c ∈ number.chars, c.isDigit = true) ↔ number.fraction = none ∧ number.power = none := by
  constructor
  · intro hdigits
    -- What follows the leading digits would start with a mark that is no digit.
    have hrest : pointChars number.fraction ++ powerChars number.power = [] := by
      cases hbehind : pointChars number.fraction ++ powerChars number.power with
      | nil => rfl
      | cons c rest =>
        have hmark : c.isDigit = false := not_isDigit_of_head? (by rw [hbehind]; rfl)
        have hdigit := hdigits c (by rw [chars, hbehind]; simp)
        rw [hmark] at hdigit
        cases hdigit
    obtain ⟨hpoint, hpower⟩ := List.append_eq_nil_iff.mp hrest
    constructor
    · cases hfraction : number.fraction with
      | none => rfl
      | some digits =>
        rw [hfraction] at hpoint
        cases hpoint
    · cases hwritten : number.power with
      | none => rfl
      | some power =>
        rw [hwritten] at hpower
        cases hpower
  · rintro ⟨hfraction, hpower⟩
    have hchars : number.chars = number.whole := by
      rw [chars, hfraction, hpower]
      exact List.append_nil _
    rw [hchars]
    exact number.isDigit_whole

/-! ## A text is written in one way -/

/-- A sign can be told from the digits behind it. -/
theorem sign_append_injective {first second : PowerSign} {digits others : List Char}
    (hdigits : ∀ c ∈ digits, c.isDigit = true) (hothers : ∀ c ∈ others, c.isDigit = true)
    (h : first.chars ++ digits = second.chars ++ others) : first = second ∧ digits = others := by
  have hplus : ∀ text : List Char, (∀ c ∈ text, c.isDigit = true) → ∀ rest, text ≠ '+' :: rest := by
    rintro text htext rest rfl
    exact absurd (htext '+' List.mem_cons_self) (by decide)
  have hminus : ∀ text : List Char, (∀ c ∈ text, c.isDigit = true) → ∀ rest, text ≠ '-' :: rest := by
    rintro text htext rest rfl
    exact absurd (htext '-' List.mem_cons_self) (by decide)
  cases first <;> cases second <;> simp only [PowerSign.chars, List.nil_append, List.cons_append] at h
  · exact ⟨rfl, h⟩
  · exact absurd h (hplus digits hdigits others)
  · exact absurd h (hminus digits hdigits others)
  · exact absurd h.symm (hplus others hothers digits)
  · exact ⟨rfl, (List.cons.inj h).2⟩
  · cases (List.cons.inj h).1
  · exact absurd h.symm (hminus others hothers digits)
  · cases (List.cons.inj h).1
  · exact ⟨rfl, (List.cons.inj h).2⟩

/-- A power of ten can be told from its characters. -/
theorem powerChars_injective {first second : Option WrittenPower} (h : powerChars first = powerChars second) :
    first = second := by
  cases first with
  | none =>
    cases second with
    | none => rfl
    | some power => cases h
  | some first =>
    cases second with
    | none => cases h
    | some second =>
      obtain ⟨hmark, hbehind⟩ := List.cons.inj h
      obtain ⟨hsign, hdigits⟩ := sign_append_injective first.isDigit_digits second.isDigit_digits hbehind
      have hcapital : first.isCapital = second.isCapital := by
        cases hfirst : first.isCapital <;> cases hsecond : second.isCapital <;>
          simp [hfirst, hsecond] at hmark ⊢
      rw [WrittenPower.ext hcapital hsign hdigits]

/-- The parts of a number can be told from its characters. -/
theorem chars_injective {first second : NumberText} (h : first.chars = second.chars) : first = second := by
  obtain ⟨hwhole, hrest⟩ := Text.append_eq_append_of_isDigit first.isDigit_whole second.isDigit_whole
    (fun _ => not_isDigit_of_head?) (fun _ => not_isDigit_of_head?) h
  -- Behind the leading digits a point tells whether there is a fraction, since no power starts with one.
  have hbehind : first.fraction = second.fraction ∧ powerChars first.power = powerChars second.power := by
    have hfirst := first.isDigit_fraction
    have hsecond := second.isDigit_fraction
    cases hpoint : first.fraction with
    | none =>
      cases hpoint' : second.fraction with
      | none =>
        rw [hpoint, hpoint'] at hrest
        exact ⟨rfl, hrest⟩
      | some digits =>
        rw [hpoint, hpoint'] at hrest
        have hmark : '.' ∈ (powerChars first.power).head? := by
          rw [show powerChars first.power = _ from hrest]
          rfl
        rcases head?_powerChars hmark with hmark | hmark <;> cases hmark
    | some digits =>
      cases hpoint' : second.fraction with
      | none =>
        rw [hpoint, hpoint'] at hrest
        have hmark : '.' ∈ (powerChars second.power).head? := by
          rw [show powerChars second.power = _ from hrest.symm]
          rfl
        rcases head?_powerChars hmark with hmark | hmark <;> cases hmark
      | some digits' =>
        rw [hpoint] at hfirst hrest
        rw [hpoint'] at hsecond hrest
        obtain ⟨hdigits, hpower⟩ := Text.append_eq_append_of_isDigit hfirst hsecond
          (fun _ => not_isDigit_of_head?_powerChars) (fun _ => not_isDigit_of_head?_powerChars)
          (List.cons.inj hrest).2
        exact ⟨congrArg some hdigits, hpower⟩
  exact NumberText.ext hwhole hbehind.1 (powerChars_injective hbehind.2)

end NumberText

/-! ## Texts of decimal numbers -/

namespace Decimal

/-- The rational number that a decimal number stands for, if it is finite. -/
def rational? : Decimal → Option Rat
  | .finite negative coefficient exponent =>
    some ((if negative then -1 else 1) * (coefficient : Rat) * 10 ^ exponent)
  | _ => none

/-- A power of ten as a decimal number is written with it. -/
def Numeral.writtenPower (power : Int) : WrittenPower where
  isCapital := true
  sign := if power < 0 then .minus else .plus
  digits := Nat.toDigits 10 power.natAbs
  isDigit_digits := fun _ h => Nat.isDigit_of_mem_toDigits (by decide) (by decide) h
  digits_ne_nil := Nat.toDigits_ne_nil

/-- A written power has the exponent it was written for. -/
theorem Numeral.exponent_writtenPower (power : Int) : (writtenPower power).exponent = power := by
  unfold WrittenPower.exponent writtenPower
  simp only [Nat.ofDigitChars_ten_toDigits]
  by_cases hnegative : power < 0
  · rw [if_pos hnegative]
    dsimp only
    omega
  · rw [if_neg hnegative]
    dsimp only
    omega

/-- The digits behind a point, where there are any. -/
def Numeral.point? : List Char → Option (List Char)
  | [] => none
  | digits => some digits

/-- The digits behind a point are the digits given, none where there is no point. -/
theorem Numeral.getD_point? (digits : List Char) : (point? digits).getD [] = digits := by
  cases digits <;> rfl

/-- The numeral of a decimal number as the text of a number. -/
def Numeral.asText (numeral : Numeral) (h : numeral.IsWritten) : NumberText where
  whole := numeral.whole
  fraction := point? numeral.fraction
  power := numeral.power.map writtenPower
  isDigit_whole := h.whole_digits
  isDigit_fraction := by
    rw [getD_point?]
    exact h.fraction_digits
  has_digit := List.append_ne_nil_of_left_ne_nil h.whole_ne_nil _

/-- A numeral seen as a number text is written with the same characters. -/
theorem Numeral.chars_asText {numeral : Numeral} (h : numeral.IsWritten) :
    (numeral.asText h).chars = numeral.chars := by
  have hpoint : NumberText.pointChars (point? numeral.fraction) = pointChars numeral.fraction := by
    cases numeral.fraction <;> rfl
  have hpower : NumberText.powerChars (numeral.power.map writtenPower) = powerChars numeral.power := by
    cases numeral.power with
    | none => rfl
    | some power =>
      unfold NumberText.powerChars WrittenPower.chars powerChars writtenPower
      by_cases hnegative : power < 0 <;> simp [hnegative, PowerSign.chars]
  rw [NumberText.chars, Numeral.chars, ← hpoint, ← hpower]
  rfl

/-- A numeral seen as a number text has its coefficient times its power of ten as quantity. -/
theorem Numeral.quantity_asText {numeral : Numeral} (h : numeral.IsWritten) :
    (numeral.asText h).quantity = (numeral.coefficient : Rat) * 10 ^ numeral.exponent := by
  have hfraction : (numeral.asText h).fractionDigits = numeral.fraction := getD_point? _
  have hcoefficient : (numeral.asText h).coefficient = numeral.coefficient := by
    rw [NumberText.coefficient, hfraction]
    rfl
  have hwritten : (numeral.asText h).writtenExponent = numeral.power.getD 0 := by
    unfold NumberText.writtenExponent asText
    cases numeral.power with
    | none => rfl
    | some power => exact exponent_writtenPower power
  have hexponent : (numeral.asText h).lastExponent = numeral.exponent := by
    rw [NumberText.lastExponent, hwritten, hfraction]
    rfl
  rw [NumberText.quantity_eq, hcoefficient, hexponent]

/-- The text of a decimal number without a sign denotes the number. -/
theorem exists_text_eq (coefficient : Nat) (exponent : Int) :
    ∃ number : NumberText, (finite false coefficient exponent).text = number.text ∧
      number.quantity = (coefficient : Rat) * 10 ^ exponent := by
  obtain ⟨numeral, htext, hwritten, hcoefficient, hexponent⟩ := exists_spells_unsignedChars coefficient exponent
  refine ⟨numeral.asText hwritten, ?_, ?_⟩
  · have hchars : (finite false coefficient exponent).chars = numeral.chars := by
      rw [chars_eq]
      exact htext
    rw [text, hchars, NumberText.text, Numeral.chars_asText]
  · rw [Numeral.quantity_asText, hcoefficient, hexponent]

end Decimal

end SqlInsert.Number
