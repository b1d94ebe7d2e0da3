import SqlInsert.Proofs.Digits
/-!
# Texts of decimal numbers

The text of a decimal number is a sign and a numeral: digits with a point somewhere, and a power of ten
where it is needed. Whatever form is chosen, the numeral spells the digits and the exponent of the number,
so numbers of one text have the same sign, the same digits and the same exponent.
-/

namespace SqlInsert.Number.Decimal

/-- A numeral in parts. -/
structure Numeral where
  /-- The digits before the point. -/
  whole : List Char
  /-- The digits behind the point; without any there is no point. -/
  fraction : List Char
  /-- The power of ten, if it is written out. -/
  power : Option Int

namespace Numeral

/-- A power of ten with its mark and its sign. -/
def powerChars : Option Int → List Char
  | none => []
  | some power => 'E' :: (if power < 0 then '-' else '+') :: Nat.toDigits 10 power.natAbs

/-- The digits behind a point. -/
def pointChars : List Char → List Char
  | [] => []
  | digits => '.' :: digits

/-- The characters of a numeral. -/
def chars (numeral : Numeral) : List Char :=
  numeral.whole ++ (pointChars numeral.fraction ++ powerChars numeral.power)

/-- A numeral starts with a digit and consists of digits around the point. -/
structure IsWritten (numeral : Numeral) : Prop where
  whole_ne_nil : numeral.whole ≠ []
  whole_digits : ∀ c ∈ numeral.whole, c.isDigit = true
  fraction_digits : ∀ c ∈ numeral.fraction, c.isDigit = true

/-- The number that all digits together spell. -/
def coefficient (numeral : Numeral) : Nat :=
  Nat.ofDigitChars 10 (numeral.whole ++ numeral.fraction) 0

/-- The exponent of the last digit. -/
def exponent (numeral : Numeral) : Int :=
  numeral.power.getD 0 - numeral.fraction.length

end Numeral

/-- The characters of a finite number without its sign. -/
def unsignedChars (coefficient : Nat) (exponent : Int) : List Char :=
  if exponent ≤ 0 ∧ -6 ≤ adjustedExponent coefficient exponent then
    plainDigits (coefficientDigits coefficient) exponent
  else scientificDigits (coefficientDigits coefficient) (adjustedExponent coefficient exponent)

namespace Numeral

/-- Behind the digits of a coefficient no digit follows. -/
theorem head?_pointChars_append_powerChars {fraction : List Char} {power : Option Int} {c : Char}
    (h : c ∈ (pointChars fraction ++ powerChars power).head?) : c.isDigit = false := by
  cases fraction with
  | nil =>
    cases power with
    | none => cases h
    | some power =>
      cases h
      rfl
  | cons digit rest =>
    cases h
    rfl

/-- A power of ten, and whether there is one, is told by its text. -/
theorem powerChars_injective {first second : Option Int} (h : powerChars first = powerChars second) :
    first = second := by
  cases first with
  | none =>
    cases second with
    | none => rfl
    | some power => cases h
  | some first =>
    cases second with
    | none => cases h
    | some second =>
      obtain ⟨_, hbehind⟩ := List.cons.inj h
      obtain ⟨hsign, hdigits⟩ := List.cons.inj hbehind
      have hmagnitude := toDigits_injective hdigits
      have hnegative : first < 0 ↔ second < 0 := by
        by_cases hfirst : first < 0 <;> by_cases hsecond : second < 0 <;> simp [hfirst, hsecond] at hsign ⊢
      rw [Option.some.injEq]
      omega

/-- A numeral can be told from its characters. -/
theorem chars_injective {first second : Numeral} (hfirst : first.IsWritten) (hsecond : second.IsWritten)
    (h : first.chars = second.chars) : first = second := by
  obtain ⟨whole, fraction, power⟩ := first
  obtain ⟨whole', fraction', power'⟩ := second
  obtain ⟨hwhole, hrest⟩ := Text.append_eq_append_of_isDigit hfirst.whole_digits hsecond.whole_digits
    (fun _ => head?_pointChars_append_powerChars) (fun _ => head?_pointChars_append_powerChars) h
  have hbehind : fraction = fraction' ∧ powerChars power = powerChars power' := by
    cases fraction with
    | nil =>
      cases fraction' with
      | nil => exact ⟨rfl, hrest⟩
      | cons digit digits => cases power <;> cases hrest
    | cons digit digits =>
      cases fraction' with
      | nil => cases power' <;> cases hrest
      | cons digit' digits' =>
        have hend : ∀ power : Option Int, ∀ c ∈ (powerChars power).head?, c.isDigit = false :=
          fun power c hc => @head?_pointChars_append_powerChars [] power c hc
        exact Text.append_eq_append_of_isDigit hfirst.fraction_digits hsecond.fraction_digits
          (hend power) (hend power') (List.cons.inj hrest).2
  rw [hbehind.1, powerChars_injective hbehind.2]
  simpa using hwhole

end Numeral

/-- A numeral spells a coefficient and an exponent in a text. -/
structure Spells (text : List Char) (coefficient : Nat) (exponent : Int) (numeral : Numeral) : Prop where
  text_eq : text = numeral.chars
  written : numeral.IsWritten
  coefficient_eq : numeral.coefficient = coefficient
  exponent_eq : numeral.exponent = exponent

/-- A coefficient is written with digits. -/
theorem isDigit_of_mem_coefficientDigits {coefficient : Nat} {c : Char}
    (h : c ∈ coefficientDigits coefficient) : c.isDigit = true :=
  Nat.isDigit_of_mem_toDigits (by decide) (by decide) h

/-- The digits of a coefficient are read as the coefficient. -/
theorem ofDigitChars_coefficientDigits (coefficient : Nat) :
    Nat.ofDigitChars 10 (coefficientDigits coefficient) 0 = coefficient :=
  Nat.ofDigitChars_ten_toDigits

/-- Without a power of ten the point stands among the digits or behind leading zeros. -/
theorem exists_spells_plainDigits {coefficient : Nat} {exponent : Int} (h : exponent ≤ 0) :
    ∃ numeral, Spells (plainDigits (coefficientDigits coefficient) exponent) coefficient exponent numeral := by
  have hdigits := @isDigit_of_mem_coefficientDigits coefficient
  have hspelled := ofDigitChars_coefficientDigits coefficient
  have hpos : 0 < (coefficientDigits coefficient).length := Nat.length_toDigits_pos
  generalize coefficientDigits coefficient = digits at hdigits hspelled hpos
  unfold plainDigits
  -- There is no point, the point divides the digits, or zeros stand between the point and the digits.
  by_cases hzero : exponent = 0
  · refine ⟨⟨digits, [], none⟩, ?_, ⟨List.ne_nil_of_length_pos hpos, @hdigits, by simp⟩, ?_, ?_⟩
    · simp [hzero, Numeral.chars, Numeral.pointChars, Numeral.powerChars]
    · simpa [Numeral.coefficient] using hspelled
    · simp [Numeral.exponent, hzero]
  · by_cases hpoint : 0 < (digits.length : Int) + exponent
    · -- The point divides the digits.
      generalize hplace : ((digits.length : Int) + exponent).toNat = place
      have hdrop : (digits.drop place).length = digits.length - place := List.length_drop
      have hne : digits.drop place ≠ [] := by
        refine List.ne_nil_of_length_pos ?_
        omega
      refine ⟨⟨digits.take place, digits.drop place, none⟩, ?_, ⟨?_, ?_, ?_⟩, ?_, ?_⟩
      · rw [if_neg hzero, if_pos hpoint, hplace]
        unfold Numeral.chars Numeral.pointChars Numeral.powerChars
        cases hrest : digits.drop place with
        | nil => exact absurd hrest hne
        | cons c rest => simp
      · refine List.ne_nil_of_length_pos ?_
        rw [List.length_take]
        omega
      · exact fun c hc => hdigits (List.mem_of_mem_take hc)
      · exact fun c hc => hdigits (List.mem_of_mem_drop hc)
      · simpa [Numeral.coefficient] using hspelled
      · unfold Numeral.exponent
        simp only [Option.getD_none, hdrop]
        omega
    · -- Zeros fill the places between the point and the digits.
      generalize hzeros : (-((digits.length : Int) + exponent)).toNat = zeros
      refine ⟨⟨['0'], List.replicate zeros '0' ++ digits, none⟩, ?_, ⟨by simp, ?_, ?_⟩, ?_, ?_⟩
      · rw [if_neg hzero, if_neg hpoint, hzeros]
        unfold Numeral.chars Numeral.pointChars Numeral.powerChars
        cases hrest : List.replicate zeros '0' ++ digits with
        | nil => simp [List.ne_nil_of_length_pos hpos] at hrest
        | cons c rest => simp [hrest]
      · intro c hc
        rw [List.mem_singleton.mp hc]
        rfl
      · intro c hc
        rcases List.mem_append.mp hc with hzero | hdigit
        · rw [(List.mem_replicate.mp hzero).2]
          rfl
        · exact hdigits hdigit
      · have hpadded : Nat.ofDigitChars 10 (List.replicate (zeros + 1) '0' ++ digits) 0 = coefficient := by
          rw [Nat.ofDigitChars_append, Nat.ofDigitChars_replicate_zero, Nat.mul_zero, hspelled]
        simpa [Numeral.coefficient, List.replicate_succ] using hpadded
      · unfold Numeral.exponent
        simp only [Option.getD_none, List.length_append, List.length_replicate]
        omega

/-- With a power of ten the point stands behind the first of several digits. -/
theorem exists_spells_scientificDigits (coefficient : Nat) (exponent : Int) :
    ∃ numeral, Spells
      (scientificDigits (coefficientDigits coefficient) (adjustedExponent coefficient exponent))
      coefficient exponent numeral := by
  have hdigits := @isDigit_of_mem_coefficientDigits coefficient
  have hspelled := ofDigitChars_coefficientDigits coefficient
  have hpos : 0 < (coefficientDigits coefficient).length := Nat.length_toDigits_pos
  unfold adjustedExponent digitCount
  generalize coefficientDigits coefficient = digits at hdigits hspelled hpos
  cases digits with
  | nil => cases hpos
  | cons first rest =>
    refine ⟨⟨[first], rest, some (exponent + (first :: rest).length - 1)⟩, ?_, ⟨by simp, ?_, ?_⟩, ?_, ?_⟩
    · cases rest <;>
        simp [scientificDigits, Numeral.chars, Numeral.pointChars, Numeral.powerChars]
    · intro c hc
      rw [List.mem_singleton.mp hc]
      exact hdigits List.mem_cons_self
    · exact fun c hc => hdigits (List.mem_cons_of_mem _ hc)
    · simpa [Numeral.coefficient] using hspelled
    · simp only [Numeral.exponent, Option.getD_some, List.length_cons]
      omega

/-- The text of a finite number without its sign spells its coefficient and its exponent. -/
theorem exists_spells_unsignedChars (coefficient : Nat) (exponent : Int) :
    ∃ numeral, Spells (unsignedChars coefficient exponent) coefficient exponent numeral := by
  unfold unsignedChars
  by_cases hplain : exponent ≤ 0 ∧ -6 ≤ adjustedExponent coefficient exponent
  · rw [if_pos hplain]
    exact exists_spells_plainDigits hplain.1
  · rw [if_neg hplain]
    exact exists_spells_scientificDigits coefficient exponent

/-- The coefficient and the exponent of a finite number can be told from its text. -/
theorem unsignedChars_injective {coefficient coefficient' : Nat} {exponent exponent' : Int}
    (h : unsignedChars coefficient exponent = unsignedChars coefficient' exponent') :
    coefficient = coefficient' ∧ exponent = exponent' := by
  obtain ⟨numeral, hspells⟩ := exists_spells_unsignedChars coefficient exponent
  obtain ⟨numeral', hspells'⟩ := exists_spells_unsignedChars coefficient' exponent'
  have hsame : numeral = numeral' := by
    refine Numeral.chars_injective hspells.written hspells'.written ?_
    rw [← hspells.text_eq, h, hspells'.text_eq]
  rw [← hspells.coefficient_eq, ← hspells.exponent_eq, hsame]
  exact ⟨hspells'.coefficient_eq, hspells'.exponent_eq⟩

/-- Whether a number has a minus sign. -/
def isNegative : Decimal → Bool
  | .finite negative _ _ => negative
  | .infinity negative => negative
  | .nan negative _ _ => negative

/-- The characters of a number behind its sign. -/
def body : Decimal → List Char
  | .finite _ coefficient exponent => unsignedChars coefficient exponent
  | .infinity _ => "Infinity".toList
  | .nan _ signaling payload =>
    (if signaling then "sNaN" else "NaN").toList ++ if payload = 0 then [] else Nat.toDigits 10 payload

/-- A decimal is written as its sign and its body. -/
theorem chars_eq (number : Decimal) :
    number.chars = (if number.isNegative then ['-'] else []) ++ number.body := by
  cases number with
  | nan negative signaling payload => exact List.append_assoc _ _ _
  | _ => rfl

/-- Without its sign a finite number starts with a digit, and no other number does. -/
theorem exists_body_eq_cons (negative : Bool) (coefficient : Nat) (exponent : Int) :
    ∃ digit rest, (finite negative coefficient exponent).body = digit :: rest ∧ digit.isDigit = true := by
  obtain ⟨numeral, htext, hwritten, _, _⟩ := exists_spells_unsignedChars coefficient exponent
  cases hwhole : numeral.whole with
  | nil => exact absurd hwhole hwritten.whole_ne_nil
  | cons digit digits =>
    have hdigit : digit.isDigit = true := hwritten.whole_digits digit (by rw [hwhole]; exact List.mem_cons_self)
    have hbody : (finite negative coefficient exponent).body = numeral.chars := htext
    rw [hbody, Numeral.chars, hwhole]
    exact ⟨digit, _, rfl, hdigit⟩

/-- A body that starts with a digit is that of a finite decimal. -/
theorem exists_eq_finite {number : Decimal} {digit : Char} {rest : List Char}
    (h : number.body = digit :: rest) (hdigit : digit.isDigit = true) :
    ∃ negative coefficient exponent, number = .finite negative coefficient exponent := by
  cases number with
  | finite negative coefficient exponent => exact ⟨negative, coefficient, exponent, rfl⟩
  | infinity negative =>
    cases h
    cases hdigit
  | nan negative signaling payload => cases signaling <;> cases h <;> cases hdigit

/-- No body starts with a sign, so the sign in front of one is told. -/
theorem head?_body_ne_minus (number : Decimal) : number.body.head? ≠ some '-' := by
  cases number with
  | finite negative coefficient exponent =>
    obtain ⟨digit, rest, hbody, hdigit⟩ := exists_body_eq_cons negative coefficient exponent
    rw [hbody]
    intro h
    cases h
    cases hdigit
  | infinity negative =>
    intro h
    cases h
  | nan negative signaling payload =>
    intro h
    cases signaling <;> cases h

/-- The sign of a number is told apart from what follows it. -/
theorem isNegative_eq_and_body_eq {first second : Decimal} (h : first.chars = second.chars) :
    first.isNegative = second.isNegative ∧ first.body = second.body := by
  rw [chars_eq, chars_eq] at h
  cases hfirst : first.isNegative <;> cases hsecond : second.isNegative <;> rw [hfirst, hsecond] at h
  · exact ⟨rfl, h⟩
  · exact absurd (congrArg List.head? h) (head?_body_ne_minus first)
  · exact absurd (congrArg List.head? h).symm (head?_body_ne_minus second)
  · exact ⟨rfl, (List.cons.inj h).2⟩

/-- The payload of no number is told by its digits, and by none if it is zero. -/
theorem payload_injective {m n : Nat}
    (h : (if m = 0 then [] else Nat.toDigits 10 m) = if n = 0 then [] else Nat.toDigits 10 n) : m = n := by
  by_cases hm : m = 0
  · by_cases hn : n = 0
    · rw [hm, hn]
    · rw [if_pos hm, if_neg hn] at h
      exact absurd h.symm Nat.toDigits_ne_nil
  · by_cases hn : n = 0
    · rw [if_neg hm, if_pos hn] at h
      exact absurd h Nat.toDigits_ne_nil
    · rw [if_neg hm, if_neg hn] at h
      exact toDigits_injective h

/-- A number of any kind can be told from its text: its sign, and its digits and exponent, or the special
value with its payload. -/
theorem chars_injective {first second : Decimal} (h : first.chars = second.chars) : first = second := by
  obtain ⟨hsign, hbody⟩ := isNegative_eq_and_body_eq h
  cases first with
  | finite negative coefficient exponent =>
    obtain ⟨digit, rest, hstart, hdigit⟩ := exists_body_eq_cons negative coefficient exponent
    obtain ⟨negative', coefficient', exponent', rfl⟩ := exists_eq_finite (hbody.symm.trans hstart) hdigit
    obtain ⟨rfl, rfl⟩ := unsignedChars_injective hbody
    rw [show negative = negative' from hsign]
  | infinity negative =>
    cases second with
    | finite negative' coefficient exponent =>
      obtain ⟨digit, rest, hstart, hdigit⟩ := exists_body_eq_cons negative' coefficient exponent
      obtain ⟨_, _, _, hfinite⟩ := exists_eq_finite (hbody.trans hstart) hdigit
      cases hfinite
    | infinity negative' => rw [show negative = negative' from hsign]
    | nan negative' signaling payload => cases signaling <;> cases hbody
  | nan negative signaling payload =>
    cases second with
    | finite negative' coefficient exponent =>
      obtain ⟨digit, rest, hstart, hdigit⟩ := exists_body_eq_cons negative' coefficient exponent
      obtain ⟨_, _, _, hfinite⟩ := exists_eq_finite (hbody.trans hstart) hdigit
      cases hfinite
    | infinity negative' => cases signaling <;> cases hbody
    | nan negative' signaling' payload' =>
      have hmark : signaling = signaling' := by
        have hhead := congrArg List.head? hbody
        cases signaling <;> cases signaling'
        · rfl
        · cases hhead
        · cases hhead
        · rfl
      subst hmark
      rw [show negative = negative' from hsign, payload_injective (List.append_cancel_left hbody)]

/-- The digits at the front of a number end at its point or at its power of ten. -/
theorem eq_of_endsFirstDigits_chars {number : Decimal} {mark : Char}
    (h : Text.EndsFirstDigits mark number.chars) : mark = '.' ∨ mark = 'E' := by
  obtain ⟨hmark, digits, rest, hne, hdigits, htext⟩ := h
  obtain ⟨digit, others, rfl⟩ := List.exists_cons_of_ne_nil hne
  have hdigit : digit.isDigit = true := hdigits digit List.mem_cons_self
  rw [chars_eq] at htext
  cases hsign : number.isNegative with
  | true =>
    rw [hsign] at htext
    rw [← (List.cons.inj htext).1] at hdigit
    cases hdigit
  | false =>
    rw [hsign] at htext
    obtain ⟨negative, coefficient, exponent, rfl⟩ := exists_eq_finite htext hdigit
    obtain ⟨numeral, hspelled, hwritten, _, _⟩ := exists_spells_unsignedChars coefficient exponent
    have hchars : numeral.chars = (digit :: others) ++ mark :: rest := hspelled.symm.trans htext
    obtain ⟨_, hbehind⟩ := Text.append_eq_append_of_isDigit hwritten.whole_digits hdigits
      (fun _ => Numeral.head?_pointChars_append_powerChars)
      (fun c hc => by rw [← Option.mem_some.mp hc]; exact hmark) hchars
    cases hfraction : numeral.fraction with
    | nil =>
      cases hpower : numeral.power with
      | none =>
        rw [hfraction, hpower] at hbehind
        cases hbehind
      | some power =>
        rw [hfraction, hpower] at hbehind
        exact .inr (List.cons.inj hbehind).1.symm
    | cons c fraction =>
      rw [hfraction] at hbehind
      exact .inl (List.cons.inj hbehind).1.symm

end SqlInsert.Number.Decimal
