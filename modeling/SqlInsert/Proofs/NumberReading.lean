import Mathlib
import SqlInsert.Proofs.NumberText
import SqlInsert.Recognition.Resolve
/-!
# Number constants keep the quantity of their text

The text of a number is read as an integer if it consists of digits alone and there are not too many of
them, and as a decimal number otherwise. Both keep the quantity that the text denotes, and so does what is
given out for them in JSON, whether the decimal number is written plainly or with a power of ten.
-/

namespace SqlInsert

/-! ## Single characters -/

namespace Text

/-- An ASCII digit has its distance from zero as its value. -/
theorem decimalValue?_of_isDigit {c : Char} (h : c.isDigit = true) : decimalValue? c = some (c.toNat - 48) := by
  have hhigh : c.toNat ≤ 57 := (Char.isDigit_iff_toNat.mp h).2
  rw [decimalValue?, if_pos (by omega), if_pos h]

/-- Blanks of ASCII stand before the digits, and all others far behind them. -/
theorem not_isBlank_of_isDigit {c : Char} (h : c.isDigit = true) : isBlank c = false := by
  have hlow : 48 ≤ c.toNat := (Char.isDigit_iff_toNat.mp h).1
  have hhigh : c.toNat ≤ 57 := (Char.isDigit_iff_toNat.mp h).2
  simp only [isBlank, inRanges, blankRanges, List.any_cons, List.any_nil, Bool.or_false, Bool.or_eq_false_iff,
    Bool.and_eq_false_iff, decide_eq_false_iff_not]
  omega

/-- Digits have no case. -/
theorem toLower_of_isDigit {c : Char} (h : c.isDigit = true) : c.toLower = c := by
  have hhigh : c.toNat ≤ 57 := (Char.isDigit_iff_toNat.mp h).2
  have hsmall : ¬ 'A'.val ≤ c.val := by
    rw [UInt32.le_iff_toNat_le]
    change ¬65 ≤ c.toNat
    omega
  rw [Char.toLower, dif_neg fun hcapital => hsmall hcapital.1]

end Text

namespace Number

/-- The values of digits. -/
def digitValues (digits : List Char) : List Nat := digits.map fun c => c.toNat - 48

/-- The values of digits make the number the digits write. -/
theorem ofDigits_digitValues (digits : List Char) :
    ofDigits 10 (digitValues digits) = Nat.ofDigitChars 10 digits 0 := by
  have hstep (start : Nat) :
      (digitValues digits).foldl (fun value digit => value * 10 + digit) start =
        Nat.ofDigitChars 10 digits start := by
    induction digits generalizing start with
    | nil => rfl
    | cons c digits ih =>
      rw [Nat.ofDigitChars_cons, Nat.mul_comm 10 start]
      exact ih _
  exact hstep 0

/-- The number of digits limits the number that they spell. -/
theorem ofDigitChars_lt {digits : List Char} (h : ∀ c ∈ digits, c.isDigit = true) :
    Nat.ofDigitChars 10 digits 0 < 10 ^ digits.length := by
  have hvalues : ∀ value ∈ digitValues digits, value < 10 := by
    intro value hvalue
    obtain ⟨c, hc, rfl⟩ := List.mem_map.mp hvalue
    have hhigh : c.toNat ≤ 57 := (Char.isDigit_iff_toNat.mp (h c hc)).2
    omega
  have hlt := ofDigits_lt hvalues
  rwa [ofDigits_digitValues, digitValues, List.length_map] at hlt

/-- What starts with a digit or a point has no sign. -/
theorem splitSign_of_head? {text : List Char} (h : ∀ c ∈ text.head?, c.isDigit = true ∨ c = '.') :
    splitSign text = (false, text) := by
  cases text with
  | nil => rfl
  | cons c rest =>
    have hminus : c ≠ '-' := by
      rintro rfl
      rcases h '-' rfl with hdigit | hpoint
      · cases hdigit
      · cases hpoint
    have hplus : c ≠ '+' := by
      rintro rfl
      rcases h '+' rfl with hdigit | hpoint
      · cases hdigit
      · cases hpoint
    unfold splitSign
    split
    · rename_i heq
      exact absurd (List.cons.inj heq).1 hminus
    · rename_i heq
      exact absurd (List.cons.inj heq).1 hplus
    · rfl

namespace NumberText

variable {number : NumberText}

/-- No character of a number text is blank, so nothing is trimmed from it. -/
theorem not_isBlank_of_mem_chars {c : Char} (h : c ∈ number.chars) : Text.isBlank c = false := by
  have hmarks : (['.', 'e', 'E', '+', '-'].all fun mark => !Text.isBlank mark) = true := by decide
  rcases mem_chars h with hdigit | hmark
  · exact Text.not_isBlank_of_isDigit hdigit
  · exact (Bool.not_eq_true' _).mp (List.all_eq_true.mp hmarks c hmark)

/-- No character of a number text is an underscore. -/
theorem ne_underscore_of_mem_chars {c : Char} (h : c ∈ number.chars) : c ≠ '_' := by
  rintro rfl
  rcases mem_chars h with hdigit | hmark
  · cases hdigit
  · exact absurd hmark (by decide)

end NumberText

/-! ## Reading an integer -/

/-- An ASCII digit is a digit in base ten. -/
theorem digitValue?_of_isDigit {c : Char} (h : c.isDigit = true) : digitValue? 10 c = some (c.toNat - 48) := by
  have hhigh : c.toNat ≤ 57 := (Char.isDigit_iff_toNat.mp h).2
  rw [digitValue?, Text.decimalValue?_of_isDigit h]
  exact Option.filter_eq_some_iff.mpr ⟨rfl, decide_eq_true (by omega)⟩

/-- A run of ASCII digits is read digit by digit. -/
theorem digits?_of_isDigit {digits : List Char} (hne : digits ≠ []) (h : ∀ c ∈ digits, c.isDigit = true) :
    digits? 10 digits = some (digitValues digits) := by
  induction digits with
  | nil => exact absurd rfl hne
  | cons c digits ih =>
    have hfirst : digitValue? 10 c = some (c.toNat - 48) := digitValue?_of_isDigit (h c List.mem_cons_self)
    have hdigits : ∀ other ∈ digits, other.isDigit = true :=
      fun other hother => h other (List.mem_cons_of_mem c hother)
    cases digits with
    | nil =>
      rw [digits?, hfirst]
      rfl
    | cons next rest =>
      have hrest := ih (List.cons_ne_nil next rest) hdigits
      rw [digits?, hfirst, hrest]
      · rfl
      · rintro rfl
        exact absurd (hdigits '_' List.mem_cons_self) (by decide)

/-- Reading an integer stops behind the first digits of a number. -/
theorem readInteger_chars (number : NumberText) :
    readInteger 10 number.chars =
      match digits? 10 number.whole with
      | none => .error .malformed
      | some digits =>
        if decimalDigitLimit < digits.length then .error (.tooManyDigits digits.length)
        else if (NumberText.pointChars number.fraction ++ NumberText.powerChars number.power).all
            Text.isNumberBlank then .ok (ofDigits 10 digits)
        else .error .malformed := by
  have hblank : number.chars.dropWhile Text.isNumberBlank = number.chars := by
    refine List.dropWhile_eq_self_iff.mpr fun hpos hfirst => ?_
    have hnot := NumberText.not_isBlank_of_mem_chars (List.getElem_mem hpos)
    rw [Text.isNumberBlank, hnot] at hfirst
    cases hfirst
  have hbase (text : List Char) : dropBaseMark 10 text = text := by
    unfold dropBaseMark
    split
    · rw [if_neg (by simp)]
    · rfl
  have hwhole : ∀ c ∈ number.whole, (c = '_' || (digitValue? 10 c).isSome) = true := by
    intro c hc
    rw [digitValue?_of_isDigit (number.isDigit_whole c hc)]
    exact Bool.or_true _
  have hrest : ∀ c ∈ (NumberText.pointChars number.fraction ++ NumberText.powerChars number.power).head?,
      (c = '_' || (digitValue? 10 c).isSome) = false := by
    intro c hc
    rcases NumberText.head?_pointChars_append_powerChars hc with rfl | rfl | rfl <;> decide
  unfold readInteger
  rw [hblank, splitSign_of_head? fun _ => NumberText.head?_chars]
  dsimp only
  rw [hbase, NumberText.chars, Text.takeWhile_append_of_head? hwhole hrest,
    Text.dropWhile_append_of_head? hwhole hrest]
  cases digits? 10 number.whole with
  | none => rfl
  | some digits => simp only [true_and, Bool.false_eq_true, if_false]

/-- Digits alone are an integer, if there are not too many. -/
theorem readInteger_of_isDigit {number : NumberText} (hdigits : ∀ c ∈ number.chars, c.isDigit = true)
    (hlimit : number.chars.length ≤ decimalDigitLimit) :
    readInteger 10 number.chars = .ok number.coefficient := by
  obtain ⟨hfraction, hpower⟩ := NumberText.forall_isDigit_iff.mp hdigits
  have hchars : number.chars = number.whole := by
    rw [NumberText.chars, hfraction, hpower]
    exact List.append_nil _
  have hwhole : number.whole ≠ [] := by
    have hsome := number.has_digit
    rwa [hfraction, Option.getD_none, List.append_nil] at hsome
  have hcoefficient : number.coefficient = Nat.ofDigitChars 10 number.whole 0 := by
    rw [NumberText.coefficient, NumberText.fractionDigits, hfraction, Option.getD_none, List.append_nil]
  rw [hchars] at hlimit
  rw [readInteger_chars, digits?_of_isDigit hwhole number.isDigit_whole, hfraction, hpower]
  simp only [digitValues, List.length_map, if_neg (Nat.not_lt.mpr hlimit)]
  rw [hcoefficient, ← ofDigits_digitValues]
  rfl

/-- A point, a power of ten, or too many digits keep a number from being an integer. -/
theorem readInteger_of_not {number : NumberText}
    (h : ¬((∀ c ∈ number.chars, c.isDigit = true) ∧ number.chars.length ≤ decimalDigitLimit)) :
    ∃ fault, readInteger 10 number.chars = .error fault := by
  rw [readInteger_chars]
  cases hread : digits? 10 number.whole with
  | none => exact ⟨.malformed, rfl⟩
  | some digits =>
    dsimp only
    by_cases hmany : decimalDigitLimit < digits.length
    · rw [if_pos hmany]
      exact ⟨_, rfl⟩
    · cases hbehind : NumberText.pointChars number.fraction ++ NumberText.powerChars number.power with
      | nil =>
        refine absurd ⟨?_, ?_⟩ h
        · rw [NumberText.chars, hbehind, List.append_nil]
          exact number.isDigit_whole
        · have hwhole : number.whole ≠ [] := by
            intro hnil
            rw [hnil] at hread
            cases hread
          rw [digits?_of_isDigit hwhole number.isDigit_whole] at hread
          cases hread
          rw [NumberText.chars, hbehind, List.append_nil]
          rw [digitValues, List.length_map] at hmany
          omega
      | cons c rest =>
        have hmark : Text.isNumberBlank c = false := by
          rcases NumberText.head?_pointChars_append_powerChars (by rw [hbehind]; rfl) with rfl | rfl | rfl <;> decide
        rw [if_neg hmany, List.all_cons, hmark]
        exact ⟨.malformed, rfl⟩

/-! ## Reading a decimal number -/

namespace Decimal

/-- The digits are read up to the first character that has no decimal value. -/
theorem spanDigits_append {digits rest : List Char} (hdigits : ∀ c ∈ digits, c.isDigit = true)
    (hrest : ∀ c ∈ rest.head?, Text.decimalValue? c = none) :
    spanDigits (digits ++ rest) = (digitValues digits, rest) := by
  induction digits with
  | nil =>
    cases rest with
    | nil => rfl
    | cons c rest =>
      rw [List.nil_append, spanDigits, hrest c rfl]
      rfl
  | cons c digits ih =>
    have hfirst : Text.decimalValue? c = some (c.toNat - 48) :=
      Text.decimalValue?_of_isDigit (hdigits c List.mem_cons_self)
    have hothers := ih fun other hother => hdigits other (List.mem_cons_of_mem c hother)
    rw [List.cons_append, spanDigits, hfirst, hothers]
    rfl

/-- The sign of a power of ten is read as it is written. -/
theorem splitSign_power (power : WrittenPower) :
    splitSign (power.sign.chars ++ power.digits) = (decide (power.sign = .minus), power.digits) := by
  cases power.sign with
  | absent =>
    refine splitSign_of_head? fun c hc => .inl ?_
    exact power.isDigit_digits c (List.mem_of_mem_head? hc)
  | plus => rfl
  | minus => rfl

/-- The power a number was written with is read as its exponent. -/
theorem readExponent?_powerChars (power : Option WrittenPower) :
    readExponent? (NumberText.powerChars power) = some ((power.map WrittenPower.exponent).getD 0) := by
  cases power with
  | none => rfl
  | some power =>
    have hmark : (if power.isCapital then 'E' else 'e') = 'e' ∨ (if power.isCapital then 'E' else 'e') = 'E' := by
      cases power.isCapital
      · exact .inl rfl
      · exact .inr rfl
    have hspan : spanDigits power.digits = (digitValues power.digits, []) := by
      have happend : spanDigits (power.digits ++ []) = (digitValues power.digits, []) :=
        spanDigits_append power.isDigit_digits (by simp)
      rwa [List.append_nil] at happend
    have hmagnitude : (ofDigits 10 (digitValues power.digits) : Int) = Nat.ofDigitChars 10 power.digits 0 := by
      rw [ofDigits_digitValues]
    have hexponent : power.exponent = if power.sign = .minus then -(ofDigits 10 (digitValues power.digits) : Int)
        else ofDigits 10 (digitValues power.digits) := by
      rw [hmagnitude, WrittenPower.exponent]
      cases power.sign <;> rfl
    rw [NumberText.powerChars, WrittenPower.chars, readExponent?, if_pos hmark, splitSign_power]
    dsimp only
    rw [hspan, Option.map_some, Option.getD_some, hexponent]
    cases hdigits : power.digits with
    | nil => exact absurd hdigits power.digits_ne_nil
    | cons digit digits => simp only [digitValues, List.map_cons, decide_eq_true_eq]

/-- No special value starts with a digit or a point. -/
theorem readSpecial?_of_head? {negative : Bool} {text : List Char}
    (h : ∀ c ∈ text.head?, c.isDigit = true ∨ c = '.') : readSpecial? negative text = none := by
  have hsmall : ∀ c ∈ text.head?, c.toLower ≠ 'i' ∧ c.toLower ≠ 'n' ∧ c.toLower ≠ 's' := by
    intro c hc
    rcases h c hc with hdigit | rfl
    · rw [Text.toLower_of_isDigit hdigit]
      refine ⟨?_, ?_, ?_⟩ <;> rintro rfl <;> cases hdigit
    · decide
  have hfirst {small : Char} {rest : List Char} (heq : text.map Char.toLower = small :: rest) :
      small ≠ 'i' ∧ small ≠ 'n' ∧ small ≠ 's' := by
    cases text with
    | nil => cases heq
    | cons c others =>
      rw [← (List.cons.inj heq).1]
      exact hsmall c rfl
  unfold readSpecial?
  split
  · rename_i heq
    exact absurd rfl (hfirst heq).1
  · rename_i heq
    exact absurd rfl (hfirst heq).1
  · rename_i heq
    exact absurd rfl (hfirst heq).2.1
  · rename_i heq
    exact absurd rfl (hfirst heq).2.2
  · rfl

/-- What stands behind a point is read as digits and a power. -/
theorem spanDigits_behind {number : NumberText} {after : List Char}
    (h : NumberText.pointChars number.fraction ++ NumberText.powerChars number.power = '.' :: after) :
    spanDigits after = (digitValues number.fractionDigits, NumberText.powerChars number.power) := by
  have hdigits := number.isDigit_fraction
  unfold NumberText.fractionDigits
  cases hpoint : number.fraction with
  | none =>
    rw [hpoint] at h
    have hmark : '.' ∈ (NumberText.powerChars number.power).head? := congrArg List.head? h
    rcases NumberText.head?_powerChars hmark with hmark | hmark <;> cases hmark
  | some digits =>
    rw [hpoint] at h hdigits
    rw [← (List.cons.inj h).2]
    refine spanDigits_append hdigits fun c hc => ?_
    rcases NumberText.head?_powerChars hc with rfl | rfl <;> decide

/-- Without a point there are no digits behind one. -/
theorem fractionDigits_of_no_point {number : NumberText}
    (h : ∀ after, NumberText.pointChars number.fraction ++ NumberText.powerChars number.power ≠ '.' :: after) :
    number.fractionDigits = [] ∧
      NumberText.pointChars number.fraction ++ NumberText.powerChars number.power =
        NumberText.powerChars number.power := by
  unfold NumberText.fractionDigits
  cases hpoint : number.fraction with
  | none => exact ⟨rfl, rfl⟩
  | some digits =>
    rw [hpoint] at h
    exact absurd rfl (h _)

/-- The parts of a number are read one behind the other. -/
theorem readFinite?_chars {number : NumberText}
    (hreadable : isReadable number.coefficient number.lastExponent = true) :
    readFinite? false number.chars = some (.finite false number.coefficient number.lastExponent) := by
  have hwhole : spanDigits number.chars =
      (digitValues number.whole, NumberText.pointChars number.fraction ++ NumberText.powerChars number.power) := by
    refine spanDigits_append number.isDigit_whole fun c hc => ?_
    rcases NumberText.head?_pointChars_append_powerChars hc with rfl | rfl | rfl <;> decide
  have hsome : ((digitValues number.whole).isEmpty && (digitValues number.fractionDigits).isEmpty) = false := by
    rw [Bool.eq_false_iff]
    intro hnone
    obtain ⟨hfirst, hbehind⟩ := Bool.and_eq_true_iff.mp hnone
    refine number.has_digit (List.append_eq_nil_iff.mpr ⟨?_, ?_⟩)
    · exact List.map_eq_nil_iff.mp (List.isEmpty_iff.mp hfirst)
    · exact List.map_eq_nil_iff.mp (List.isEmpty_iff.mp hbehind)
  have hcoefficient : ofDigits 10 (digitValues number.whole ++ digitValues number.fractionDigits) =
      number.coefficient := by
    rw [NumberText.coefficient, ← ofDigits_digitValues]
    exact congrArg _ List.map_append.symm
  have hlast : number.writtenExponent - ((digitValues number.fractionDigits).length : Int) = number.lastExponent := by
    rw [NumberText.lastExponent, digitValues, List.length_map]
  have hpower : readExponent? (NumberText.powerChars number.power) = some number.writtenExponent :=
    readExponent?_powerChars number.power
  -- Both ways past the point come to this.
  have hfinish :
      (if ((digitValues number.whole).isEmpty && (digitValues number.fractionDigits).isEmpty) = true then none
      else do
        let written ← readExponent? (NumberText.powerChars number.power)
        let coefficient := ofDigits 10 (digitValues number.whole ++ digitValues number.fractionDigits)
        let exponent := written - ((digitValues number.fractionDigits).length : Int)
        if isReadable coefficient exponent then some (Decimal.finite false coefficient exponent) else none) =
      some (.finite false number.coefficient number.lastExponent) := by
    rw [hsome, hpower]
    simp only [Bool.false_eq_true, if_false, bind, Option.bind, hcoefficient, hlast, hreadable, if_true]
  unfold readFinite?
  rw [hwhole]
  dsimp only
  split
  · rename_i after hpoint
    rw [spanDigits_behind hpoint]
    exact hfinish
  · rename_i hpoint
    obtain ⟨hnone, hbehind⟩ := fractionDigits_of_no_point hpoint
    rw [hbehind]
    rw [hnone] at hfinish
    exact hfinish

/-- A number that is not too long and not too far from the point can be kept. -/
theorem isReadable_number {number : NumberText} (hcount : number.digitCount < 10 ^ 17)
    (hpower : number.writtenExponent.natAbs < 10 ^ 17) :
    isReadable number.coefficient number.lastExponent = true := by
  have hpos : 0 < number.digitCount := by
    have hlength := List.length_pos_iff.mpr number.has_digit
    rwa [List.length_append] at hlength
  have hlt : number.coefficient < 10 ^ number.digitCount := by
    have hall : ∀ c ∈ number.whole ++ number.fractionDigits, c.isDigit = true :=
      List.forall_mem_append.mpr ⟨number.isDigit_whole, number.isDigit_fraction⟩
    have hbound := ofDigitChars_lt hall
    rwa [List.length_append] at hbound
  have hdigits : digitCount number.coefficient ≤ number.digitCount :=
    (Nat.length_toDigits_le_iff (by decide) hpos).mpr hlt
  have hfraction : number.fractionDigits.length ≤ number.digitCount := Nat.le_add_left _ _
  have hgreatest : DecimalContext.reading.maxExponent = 999999999999999999 := rfl
  have hleast : DecimalContext.reading.leastExponent = -1999999999999999997 := rfl
  have hlimit : (10 : Nat) ^ 17 = 100000000000000000 := by decide
  unfold isReadable NumberText.lastExponent adjustedExponent
  rw [hgreatest, hleast]
  rw [hlimit] at hcount hpower
  simp only [Bool.and_eq_true, decide_eq_true_eq]
  constructor
  · split <;> omega
  · omega

/-- The text of a number is read as its digits and the exponent of the last one. -/
theorem read?_text {number : NumberText} (hcount : number.digitCount < 10 ^ 17)
    (hpower : number.writtenExponent.natAbs < 10 ^ 17) :
    read? number.text = some (.finite false number.coefficient number.lastExponent) := by
  have hblank : number.chars.dropWhile Text.isBlank = number.chars := by
    refine List.dropWhile_eq_self_iff.mpr fun hpos => ?_
    rw [NumberText.not_isBlank_of_mem_chars (List.getElem_mem hpos)]
    exact Bool.false_ne_true
  have hblankEnd : number.chars.reverse.dropWhile Text.isBlank = number.chars.reverse := by
    refine List.dropWhile_eq_self_iff.mpr fun hpos => ?_
    rw [NumberText.not_isBlank_of_mem_chars (List.mem_reverse.mp (List.getElem_mem hpos))]
    exact Bool.false_ne_true
  have htrim : Text.trimWhile Text.isBlank number.chars = number.chars := by
    rw [Text.trimWhile, Text.dropEndWhile, hblank, hblankEnd, List.reverse_reverse]
  have hfilter : number.chars.filter (· ≠ '_') = number.chars :=
    List.filter_eq_self.mpr fun c hc => decide_eq_true (NumberText.ne_underscore_of_mem_chars hc)
  have hspecial : readSpecial? false number.chars = none := readSpecial?_of_head? fun _ => NumberText.head?_chars
  unfold read?
  rw [NumberText.text, String.toList_ofList, htrim, hfilter, splitSign_of_head? fun _ => NumberText.head?_chars]
  dsimp only
  rw [hspecial]
  exact readFinite?_chars (isReadable_number hcount hpower)

end Decimal

end Number

/-! ## Constants and what is given out for them -/

/-- The rational number that a constant stands for, if it is an integer or a finite decimal number. -/
def Constant.rational? : Constant → Option Rat
  | .int value => some value
  | .decimal value => value.rational?
  | _ => none

/-- What a number in JSON denotes: an integer itself, and a text what the text of a number denotes. -/
inductive Json.Denotes : Json → Rat → Prop
  | int (value : Int) : Denotes (.int value) value
  | text (number : Number.NumberText) : Denotes (.text number.text) number.quantity

/-- A number in JSON denotes one quantity. -/
theorem Json.Denotes.unique {json : Json} {first second : Rat} (hfirst : json.Denotes first)
    (hsecond : json.Denotes second) : first = second := by
  cases hfirst with
  | int value =>
    cases hsecond with
    | int _ => rfl
  | text number =>
    generalize htext : number.text = written at hsecond
    cases hsecond with
    | text other => rw [Number.NumberText.chars_injective (String.ofList_injective htext)]

/-- A number literal is a constant, whatever stands around it. -/
theorem resolveAt_numberLiteral (grammar : Grammar) (ordinals : Ordinals) (place : Place) {tree : Tree}
    (h : tree.isNumberLiteral = true) :
    resolveAt grammar ordinals place tree = .ok (.literal (Constant.ofNumberText tree.content)) ∧
      resolveAlone grammar tree = .ok (.literal (Constant.ofNumberText tree.content)) := by
  obtain ⟨hliteral, hgiven⟩ := Bool.and_eq_true_iff.mp h
  have hkind : tree.kind? = some .literal := eq_of_beq hliteral
  have hsort : tree.valueKind = .ok .literal := by
    unfold Tree.valueKind Tree.isA
    rw [hkind]
    rfl
  have hconstant : tree.constant = .ok (Constant.ofNumberText tree.content) := by
    unfold Tree.constant
    rw [hkind]
    unfold Tree.literalConstant Tree.isTextLiteral
    rw [Bool.not_eq_true'] at hgiven
    rw [hgiven, Bool.and_false]
    rfl
  have hplaced (ordinals : Ordinals) (place : Place) :
      resolveAt grammar ordinals place tree = .ok (.literal (Constant.ofNumberText tree.content)) := by
    rw [resolveAt, hsort]
    dsimp only
    rw [hconstant]
  refine ⟨hplaced ordinals place, ?_⟩
  rw [resolveAlone, hsort]
  exact hplaced [] []

section

variable {number : Number.NumberText}

/-- Digits alone become an integer, if there are not too many. -/
theorem ofNumberText_of_isDigit (hdigits : ∀ c ∈ number.chars, c.isDigit = true)
    (hlimit : number.chars.length ≤ Number.decimalDigitLimit) :
    Constant.ofNumberText number.text = .int number.coefficient := by
  have htext : number.text.toList = number.chars := String.toList_ofList
  rw [Constant.ofNumberText, htext, Number.readInteger_of_isDigit hdigits hlimit]

/-- Any other number becomes a decimal number. -/
theorem ofNumberText_of_not (hcount : number.digitCount < 10 ^ 17)
    (hpower : number.writtenExponent.natAbs < 10 ^ 17)
    (h : ¬((∀ c ∈ number.chars, c.isDigit = true) ∧ number.chars.length ≤ Number.decimalDigitLimit)) :
    Constant.ofNumberText number.text = .decimal (.finite false number.coefficient number.lastExponent) := by
  obtain ⟨fault, hfault⟩ := Number.readInteger_of_not h
  have htext : number.text.toList = number.chars := String.toList_ofList
  rw [Constant.ofNumberText, htext, hfault]
  dsimp only
  rw [Number.Decimal.read?_text hcount hpower]

/-- A number written with digits alone is its coefficient. -/
theorem quantity_of_isDigit (hdigits : ∀ c ∈ number.chars, c.isDigit = true) :
    number.quantity = number.coefficient := by
  obtain ⟨hfraction, hpower⟩ := Number.NumberText.forall_isDigit_iff.mp hdigits
  have hlast : number.lastExponent = 0 := by
    unfold Number.NumberText.lastExponent Number.NumberText.writtenExponent Number.NumberText.fractionDigits
    rw [hfraction, hpower]
    rfl
  rw [Number.NumberText.quantity_eq, hlast, Rat.zpow_zero, Rat.mul_one]

/-- What is read from the text of a number stands for what the text denotes, and so does its JSON form. -/
theorem quantity_ofNumberText (hcount : number.digitCount < 10 ^ 17)
    (hpower : number.writtenExponent.natAbs < 10 ^ 17) :
    (Constant.ofNumberText number.text).rational? = some number.quantity ∧
      (Constant.ofNumberText number.text).json.Denotes number.quantity := by
  by_cases hint : (∀ c ∈ number.chars, c.isDigit = true) ∧ number.chars.length ≤ Number.decimalDigitLimit
  · have hquantity : number.quantity = ((number.coefficient : Int) : Rat) := quantity_of_isDigit hint.1
    rw [ofNumberText_of_isDigit hint.1 hint.2, hquantity]
    exact ⟨rfl, .int _⟩
  · have hquantity := number.quantity_eq
    obtain ⟨written, htext, hwritten⟩ := Number.Decimal.exists_text_eq number.coefficient number.lastExponent
    rw [ofNumberText_of_not hcount hpower hint]
    constructor
    · rw [hquantity]
      simp [Constant.rational?, Number.Decimal.rational?]
    · rw [Constant.json, htext, hquantity, ← hwritten]
      exact .text written

example : (Constant.ofNumberText "01.50e-2").json = .text "0.0150" := by rfl

end

/-- A number literal resolves to an integer or a decimal number that stands for exactly the rational number
its text denotes, and what is given out for it in JSON denotes that number again. It is an integer exactly if
the text consists of digits, and of no more than are read. -/
theorem number_literal_keeps_quantity (grammar : Grammar) {tree : Tree} {number : Number.NumberText}
    (hliteral : tree.isNumberLiteral = true) (hcontent : tree.content = number.text)
    (hcount : number.digitCount < 10 ^ 17) (hpower : number.writtenExponent.natAbs < 10 ^ 17) :
    ∃ constant,
      resolveAlone grammar tree = .ok (.literal constant) ∧
      (∀ ordinals place, resolveAt grammar ordinals place tree = .ok (.literal constant)) ∧
      constant.rational? = some number.quantity ∧
      ((∃ n, constant = .int n) ↔
        (∀ c ∈ number.chars, c.isDigit = true) ∧ number.chars.length ≤ Number.decimalDigitLimit) ∧
      (Value.literal constant).json = .object [("kind", .text "LITERAL"), ("value", constant.json)] ∧
      ∀ quantity, constant.json.Denotes quantity ↔ quantity = number.quantity := by
  obtain ⟨hquantity, hdenotes⟩ := quantity_ofNumberText hcount hpower
  have hresolve := fun ordinals place => resolveAt_numberLiteral grammar ordinals place hliteral
  rw [hcontent] at hresolve
  refine ⟨Constant.ofNumberText number.text, (hresolve [] []).2, fun ordinals place => (hresolve ordinals place).1,
    hquantity, ?_, rfl, fun quantity => ?_⟩
  · by_cases hint : (∀ c ∈ number.chars, c.isDigit = true) ∧ number.chars.length ≤ Number.decimalDigitLimit
    · exact iff_of_true ⟨_, ofNumberText_of_isDigit hint.1 hint.2⟩ hint
    · refine iff_of_false (fun hsome => ?_) hint
      obtain ⟨n, hn⟩ := hsome
      rw [ofNumberText_of_not hcount hpower hint] at hn
      cases hn
  · constructor
    · exact fun hother => hother.unique hdenotes
    · rintro rfl
      exact hdenotes

/-- Zeros at both ends, a point and a negative power of ten. -/
def zerosAround : Number.NumberText where
  whole := ['0', '1']
  fraction := some ['5', '0']
  power := some ⟨false, .minus, ['2'], List.all_eq_true.mp rfl, List.cons_ne_nil _ _⟩
  isDigit_whole := List.all_eq_true.mp rfl
  isDigit_fraction := List.all_eq_true.mp rfl
  has_digit := List.cons_ne_nil _ _

/-- Such a number is a decimal number, and nothing of it is lost. -/
theorem number_literal_keeps_quantity_zerosAround :
    (Tree.numberLiteral "01.50e-2").isNumberLiteral = true ∧
      (Tree.numberLiteral "01.50e-2").content = zerosAround.text ∧ zerosAround.digitCount < 10 ^ 17 ∧
      zerosAround.writtenExponent.natAbs < 10 ^ 17 ∧
      ∃ constant,
        resolveAlone .mysql (.numberLiteral "01.50e-2") = .ok (.literal constant) ∧
        (∀ ordinals place, resolveAt .mysql ordinals place (.numberLiteral "01.50e-2") = .ok (.literal constant)) ∧
        constant.rational? = some zerosAround.quantity ∧
        ((∃ n, constant = .int n) ↔
          (∀ c ∈ zerosAround.chars, c.isDigit = true) ∧ zerosAround.chars.length ≤ Number.decimalDigitLimit) ∧
        (Value.literal constant).json = .object [("kind", .text "LITERAL"), ("value", constant.json)] ∧
        ∀ quantity, constant.json.Denotes quantity ↔ quantity = zerosAround.quantity := by
  have hcontent : (Tree.numberLiteral "01.50e-2").content = zerosAround.text := by decide
  exact ⟨rfl, hcontent, by decide, by decide,
    number_literal_keeps_quantity .mysql rfl hcontent (by decide) (by decide)⟩

end SqlInsert
