import Mathlib
import SqlInsert.Insert.Recognition
import SqlInsert.Proofs.Digits
import SqlInsert.Proofs.JsonWriting
/-!
# Integers that are read and integers that are told

The digits of a number in base ten are counted before they are read, so a number that is read is short
enough to be written. Digits in base sixteen or two are not counted. A value is displayed, and a recognition
is written, exactly if the integers in it are short enough.
-/

namespace SqlInsert

/-! ## Integers that are read -/

namespace Number

/-- An integer can be told exactly below ten to the number of digits allowed. -/
theorem isOverlong_eq_false_iff {n : Int} : isOverlong n = false ↔ n.natAbs < 10 ^ decimalDigitLimit := by
  rw [isOverlong, decide_eq_false_iff_not, Nat.not_le, Nat.pow_eq]

/-- A digit is below the base it is read in. -/
theorem digitValue?_lt {base digit : Nat} {c : Char} (h : digitValue? base c = some digit) : digit < base := by
  obtain ⟨_, hlt⟩ := Option.filter_eq_some_iff.mp h
  exact of_decide_eq_true hlt

/-- All digits that were read are below the base. -/
theorem digits?_lt {base : Nat} {chars : List Char} {digits : List Nat} (h : digits? base chars = some digits) :
    ∀ digit ∈ digits, digit < base := by
  fun_induction digits? base chars generalizing digits with
  | case1 => cases h
  | case2 c =>
    obtain ⟨digit, hdigit, rfl⟩ := Option.map_eq_some_iff.mp h
    exact List.forall_mem_singleton.mpr (digitValue?_lt hdigit)
  | case3 c rest ih =>
    simp only [bind, Option.bind_eq_some_iff] at h
    obtain ⟨digit, hdigit, others, hothers, hall⟩ := h
    cases hall
    exact List.forall_mem_cons.mpr ⟨digitValue?_lt hdigit, ih hothers⟩
  | case4 c next rest hunderscore ih =>
    simp only [bind, Option.bind_eq_some_iff] at h
    obtain ⟨digit, hdigit, others, hothers, hall⟩ := h
    cases hall
    exact List.forall_mem_cons.mpr ⟨digitValue?_lt hdigit, ih hothers⟩

/-- A number read as negative has a minus sign in its text. -/
theorem minus_mem_of_splitSign {text : List Char} (h : (splitSign text).1 = true) : '-' ∈ text := by
  unfold splitSign at h
  split at h
  · exact List.mem_cons_self
  · cases h
  · cases h

/-- An integer that was read has a sign and digits. -/
theorem exists_digits_of_readInteger {base : Nat} {text : List Char} {n : Int} (h : readInteger base text = .ok n) :
    ∃ digits : List Nat, (∀ digit ∈ digits, digit < base) ∧ n.natAbs = ofDigits base digits ∧
      (base = 10 → digits.length ≤ decimalDigitLimit) ∧ (n < 0 → '-' ∈ text) := by
  unfold readInteger at h
  simp only at h
  split at h
  · cases h
  · rename_i digits hdigits
    split_ifs at h with hlimit hrest hsign
    · cases h
      refine ⟨digits, digits?_lt hdigits, by rw [Int.natAbs_neg, Int.natAbs_natCast], ?_, fun _ => ?_⟩
      · intro hbase
        exact Nat.not_lt.mp fun hlong => hlimit ⟨hbase, hlong⟩
      · exact (List.dropWhile_subset _) (minus_mem_of_splitSign hsign)
    · cases h
      refine ⟨digits, digits?_lt hdigits, Int.natAbs_natCast _, ?_, fun hneg => ?_⟩
      · intro hbase
        exact Nat.not_lt.mp fun hlong => hlimit ⟨hbase, hlong⟩
      · exact absurd hneg (Int.not_lt.mpr (Int.natCast_nonneg _))

/-- What is read in base ten can be written. -/
theorem not_isOverlong_of_readInteger {text : List Char} {n : Int} (h : readInteger 10 text = .ok n) :
    isOverlong n = false := by
  obtain ⟨digits, hdigits, hn, hlimit, _⟩ := exists_digits_of_readInteger h
  rw [isOverlong_eq_false_iff, hn]
  exact Nat.lt_of_lt_of_le (ofDigits_lt hdigits) (Nat.pow_le_pow_right (by decide) (hlimit rfl))

/-- The predecessor of a number of digits can be written. -/
theorem not_isOverlong_pred {n : Int} (h : isOverlong n = false) (hn : 0 ≤ n) : isOverlong (n - 1) = false := by
  rw [isOverlong_eq_false_iff] at h ⊢
  have hone : 1 < 10 ^ decimalDigitLimit := Nat.one_lt_pow (by decide) (by decide)
  omega

/-- An integer and its negative have the same number of digits. -/
theorem isOverlong_neg (n : Int) : isOverlong (-n) = isOverlong n := by
  rw [isOverlong, isOverlong, Int.natAbs_neg]

/-- A digit and zeros behind it. -/
theorem digits?_zeros {base digit : Nat} {c : Char} (hc : digitValue? base c = some digit)
    (hzero : digitValue? base '0' = some 0) (count : Nat) :
    digits? base (c :: List.replicate count '0') = some (digit :: List.replicate count 0) := by
  induction count generalizing digit c with
  | zero =>
    rw [List.replicate_zero, digits?, hc]
    rfl
  | succ count ih =>
    have hrest := ih hzero
    rw [List.replicate_succ, List.replicate_succ, digits?, hc, hrest]
    · rfl
    · exact fun h => absurd h (by decide)

/-- The mark of a base stands behind a zero only. -/
theorem dropBaseMark_of_ne_zero {base : Nat} {c : Char} (h : Text.decimalValue? c ≠ some 0) (rest : List Char) :
    dropBaseMark base (c :: rest) = c :: rest := by
  cases rest with
  | nil => rfl
  | cons mark rest => exact if_neg fun hmark => h hmark.1

/-- A one with zeros behind it is a power of the base. -/
theorem ofDigits_zeros (base count : Nat) : ofDigits base (1 :: List.replicate count 0) = base ^ count := by
  induction count with
  | zero => simp [ofDigits]
  | succ count ih =>
    rw [List.replicate_succ', ← List.cons_append, ofDigits, List.foldl_append, ← ofDigits, ih,
      Nat.pow_succ]
    rfl

end Number

/-- The integer found in a text is the one read from its characters. -/
theorem readInteger_of_integerIn {base : Nat} {text : String} {n : Int} (h : integerIn base text = .ok n) :
    Number.readInteger base text.toList = .ok n := by
  unfold integerIn at h
  cases hread : Number.readInteger base text.toList with
  | ok value =>
    rw [hread] at h
    cases h
    rfl
  | error fault =>
    rw [hread] at h
    cases fault <;> cases h

/-- Hexadecimal digits are read however many there are. -/
theorem integerIn_hex_zeros (count : Nat) :
    integerIn 16 (String.ofList ('1' :: List.replicate count '0')) = .ok ((16 ^ count : Nat) : Int) := by
  have hmember : ∀ c ∈ '1' :: List.replicate count '0', (c = '_' || (Number.digitValue? 16 c).isSome) = true := by
    rintro c hc
    rcases List.mem_cons.mp hc with rfl | hzero
    · rfl
    · rw [(List.mem_replicate.mp hzero).2]
      rfl
  have hread : Number.readInteger 16 ('1' :: List.replicate count '0') = .ok ((16 ^ count : Nat) : Int) := by
    have hblank : ('1' :: List.replicate count '0').dropWhile Text.isNumberBlank = '1' :: List.replicate count '0' :=
      rfl
    have hsign : Number.splitSign ('1' :: List.replicate count '0') = (false, '1' :: List.replicate count '0') := rfl
    have hmark : Number.dropBaseMark 16 ('1' :: List.replicate count '0') = '1' :: List.replicate count '0' :=
      Number.dropBaseMark_of_ne_zero (by decide) _
    have htake := List.takeWhile_eq_self_iff.mpr hmember
    have hdrop := List.dropWhile_eq_nil_iff.mpr hmember
    have hdigits : Number.digits? 16 ('1' :: List.replicate count '0') = some (1 :: List.replicate count 0) :=
      Number.digits?_zeros rfl rfl count
    simp only [Number.readInteger, hblank, hsign, hmark, htake, hdrop, hdigits, Number.ofDigits_zeros]
    rfl
  rw [integerIn, String.toList_ofList, hread]

/-! ## Integers of a value -/

namespace Constant

/-- The integer that a constant is, if it is one. -/
def integers : Constant → List Int
  | .int value => [value]
  | _ => []

/-- The integers of a constant are those of its JSON tree. -/
theorem integers_json (constant : Constant) : constant.json.integers = constant.integers := by
  cases constant <;> rfl

/-- A constant can be displayed exactly where each of its integers can be told. -/
theorem exists_display_iff {constant : Constant} :
    (∃ text, constant.display = .ok text) ↔ ∀ n ∈ constant.integers, Number.isOverlong n = false := by
  cases constant with
  | int value =>
    rw [display, Number.writeInteger, integers, List.forall_mem_singleton]
    cases Number.isOverlong value <;> simp
  | _ => simp [display, integers]

end Constant

namespace Value

/-- The integers in a value. -/
def integers : Value → List Int
  | .literal constant => constant.integers
  | .placeholder index _ => [index]
  | .null | .expression _ _ => []

/-- The integers that the short form of a value shows: a bind parameter with a name is shown by it. -/
def shownIntegers : Value → List Int
  | .literal constant => constant.integers
  | .placeholder index none => [index]
  | .null | .expression _ _ | .placeholder _ (some _) => []

/-- The integers of a value are those of its JSON tree. -/
theorem integers_json (value : Value) : value.json.integers = value.integers := by
  cases value with
  | literal constant =>
    change constant.json.integers ++ [] = _
    rw [List.append_nil, constant.integers_json]
    rfl
  | placeholder index name => cases name <;> rfl
  | _ => rfl

/-- A value is displayed exactly if the integers that are shown are short enough. -/
theorem exists_display_iff {value : Value} :
    (∃ text, value.display = .ok text) ↔ ∀ n ∈ value.shownIntegers, Number.isOverlong n = false := by
  cases value with
  | literal constant => exact Constant.exists_display_iff
  | placeholder index name =>
    cases name with
    | none =>
      rw [display, exists_map_eq_ok_iff, Number.writeInteger, shownIntegers, List.forall_mem_singleton]
      cases Number.isOverlong index <;> simp
    | some name => simp [display, shownIntegers]
  | _ => simp [display, shownIntegers]

end Value

section

variable {α : Type}

/-- The integers of a list are those of its items. -/
theorem integers_list_map (values : List α) (json : α → Json) :
    (Json.list (values.map json)).integers = values.flatMap fun value => (json value).integers := by
  rw [Json.integers, Json.itemIntegers_eq_flatMap, List.flatMap_map]

end

namespace Recognition

/-- A text that may be missing holds no integer. -/
theorem integers_ofText? (text : Option String) : (Json.ofText? text).integers = [] := by
  cases text <;> rfl

/-- A list of texts holds no integer. -/
theorem integers_ofTexts (texts : List String) : (Json.ofTexts texts).integers = [] := by
  rw [Json.ofTexts, integers_list_map]
  exact List.flatMap_eq_nil_iff.mpr fun _ _ => rfl

/-- A list of texts that may be missing holds no integer. -/
theorem integers_ofTexts? (texts : Option (List String)) : (Json.ofTexts? texts).integers = [] := by
  cases texts with
  | none => rfl
  | some texts => exact integers_ofTexts texts

/-- The integers of a recognition are those of its values and the positions of keys. -/
theorem integers_json (result : Recognition) :
    result.json.integers = result.rows.flatten.flatMap Value.integers ++ result.keyPositions := by
  have hrows : (Json.list (result.rows.map fun row => .list (row.map Value.json))).integers =
      result.rows.flatten.flatMap Value.integers := by
    simp only [integers_list_map, Value.integers_json, List.flatten_eq_flatMap, List.flatMap_assoc, id]
  have hpositions : (Json.list (result.keyPositions.map .int)).integers = result.keyPositions := by
    rw [integers_list_map]
    exact List.flatMap_singleton' _
  simp only [json, Json.integers, Json.memberIntegers] at hrows hpositions ⊢
  simp only [hrows, hpositions, integers_ofText?, integers_ofTexts, integers_ofTexts?, List.nil_append, List.append_nil]

end Recognition

end SqlInsert
