import SqlInsert.Proofs.Magnitude
import SqlInsert.Proofs.Recognition
/-!
# Which recognitions can be told

Only an integer that is too long keeps a recognition from being written or a value from being displayed.
An element makes one exactly if it is a constant of too many hexadecimal or binary digits: a constant of
that form may be recognized and yet not be told. The same would hold of the position of a bind parameter
behind too many others.
-/

namespace SqlInsert

/-! ## Elements whose integers are too long -/

namespace Tree

/-- A constant of hexadecimal or binary digits, which are read without a limit, is too long to be written. -/
inductive HasOverlongDigits (tree : Tree) : Prop
  | hex {n : Int} (form : tree.isA (.prefixedDigits .hex) = true) (reads : integerIn 16 tree.content = .ok n)
      (long : Number.isOverlong n = true) : HasOverlongDigits tree
  | bit {n : Int} (form : tree.isA (.prefixedDigits .bit) = true) (reads : integerIn 2 tree.content = .ok n)
      (long : Number.isOverlong n = true) : HasOverlongDigits tree

variable {tree : Tree}

/-- Digits that are too many stand behind a mark of their base. -/
theorem HasOverlongDigits.exists_kind? (h : tree.HasOverlongDigits) :
    ∃ mark, tree.kind? = some (.prefixedDigits mark) := by
  cases h with
  | hex form => exact ⟨_, kind?_of_isA form⟩
  | bit form => exact ⟨_, kind?_of_isA form⟩

/-- Digits that are too many are classified as a literal. -/
theorem HasOverlongDigits.valueKind_eq (h : tree.HasOverlongDigits) : tree.valueKind = .ok .literal := by
  obtain ⟨mark, hkind⟩ := h.exists_kind?
  unfold valueKind isA
  rw [hkind]
  rfl

/-- A node of another kind has no such digits. -/
theorem not_hasOverlongDigits {kind : Kind} (h : tree.isA kind = true)
    (hkind : ∀ mark, kind ≠ .prefixedDigits mark) : ¬tree.HasOverlongDigits := by
  intro hdigits
  obtain ⟨mark, hmark⟩ := hdigits.exists_kind?
  exact hkind mark (Option.some.inj ((kind?_of_isA h).symm.trans hmark))

/-- The text of a number is read in base ten or not as an integer. -/
theorem not_isOverlong_of_ofNumberText {text : String} {n : Int} (h : n ∈ (Constant.ofNumberText text).integers) :
    Number.isOverlong n = false := by
  unfold Constant.ofNumberText at h
  split at h
  · rename_i value hread
    rw [Constant.integers, List.mem_singleton] at h
    rw [h]
    exact Number.not_isOverlong_of_readInteger hread
  · split at h <;> cases h

/-- The negative of a number is as long as the number. -/
theorem not_isOverlong_of_negated {number negative : Constant} (h : number.negated = .ok negative)
    (hnumber : ∀ n ∈ number.integers, Number.isOverlong n = false) :
    ∀ n ∈ negative.integers, Number.isOverlong n = false := by
  unfold Constant.negated at h
  split at h
  · rename_i value
    cases h
    rw [Constant.integers, List.forall_mem_singleton] at hnumber ⊢
    rw [Number.isOverlong_neg, hnumber]
  · split at h <;> cases h
    exact fun n hn => absurd hn List.not_mem_nil
  · cases h

/-- Days and times hold no integers. -/
theorem integers_of_temporalReader? {typeName text : String} {reader : String → Option Constant} {constant : Constant}
    (hreader : temporalReader? typeName = some reader) (h : reader text = some constant) : constant.integers = [] := by
  unfold temporalReader? at hreader
  split at hreader <;> cases hreader
  all_goals
    obtain ⟨moment, _, rfl⟩ := Option.map_eq_some_iff.mp h
    rfl

/-- Digits that are read are too long exactly if the constant is. -/
theorem overlong_iff_of_digits {base : Nat} {constant : Constant}
    (houtcome : (integerIn base tree.content).map .int = .ok constant)
    (hdigits : ∀ n, integerIn base tree.content = .ok n → (tree.HasOverlongDigits ↔ Number.isOverlong n = true)) :
    (∀ n ∈ constant.integers, Number.isOverlong n = false) ↔ ¬tree.HasOverlongDigits := by
  cases hread : integerIn base tree.content with
  | error error =>
    rw [hread] at houtcome
    cases houtcome
  | ok n =>
    rw [hread] at houtcome
    cases houtcome
    rw [Constant.integers, List.forall_mem_singleton, hdigits n hread, Bool.not_eq_true]

/-- A constant is too long exactly if it has too many digits of one of these forms. -/
theorem StandsFor.overlong_iff {outcome : Except ConversionError Constant} (h : tree.StandsFor outcome)
    {constant : Constant} (houtcome : outcome = .ok constant) :
    (∀ n ∈ constant.integers, Number.isOverlong n = false) ↔ ¬tree.HasOverlongDigits := by
  -- Only the digits of a base other than ten may be too many; the other forms read short texts or hold no integer.
  induction h with
  | flag form =>
    cases houtcome
    exact iff_of_true (List.forall_mem_nil _) (not_hasOverlongDigits form (by simp))
  | hexDigits form =>
    refine overlong_iff_of_digits houtcome fun n hread => ⟨?_, .hex form hread⟩
    rintro (⟨_, reads, long⟩ | ⟨other, _, _⟩)
    · rw [hread] at reads
      cases reads
      exact long
    · cases isA_unique form other
  | bitDigits form =>
    refine overlong_iff_of_digits houtcome fun n hread => ⟨?_, .bit form hread⟩
    rintro (⟨other, _, _⟩ | ⟨_, reads, long⟩)
    · cases isA_unique form other
    · rw [hread] at reads
      cases reads
      exact long
  | prefixedText form =>
    cases houtcome
    exact iff_of_true (List.forall_mem_nil _) (not_hasOverlongDigits form (by simp))
  | text form =>
    cases houtcome
    exact iff_of_true (List.forall_mem_nil _) (not_hasOverlongDigits (Bool.and_eq_true_iff.mp form).1 (by simp))
  | number form =>
    cases houtcome
    exact iff_of_true (fun n hn => not_isOverlong_of_ofNumberText hn)
      (not_hasOverlongDigits (Bool.and_eq_true_iff.mp form).1 (by simp))
  | introduced form literal _ ih =>
    have hinner := (ih houtcome).mpr (not_hasOverlongDigits literal (by simp))
    exact iff_of_true hinner (not_hasOverlongDigits form (by simp))
  | negated form _ =>
    exact iff_of_true (not_isOverlong_of_negated houtcome fun n hn => not_isOverlong_of_ofNumberText hn)
      (not_hasOverlongDigits form (by simp))
  | temporal form _ _ _ reads read =>
    cases houtcome
    obtain ⟨tolerant, hkind⟩ := exists_cast_of_isCast form
    have hcast : ¬HasOverlongDigits _ := not_hasOverlongDigits (beq_iff_eq.mpr hkind) (by simp)
    rw [integers_of_temporalReader? reads read]
    exact iff_of_true (List.forall_mem_nil _) hcast

end Tree

/-! ## Rows -/

namespace Statement

variable {statement : Statement} {values : Tree} {ordinals : Ordinals} {cell : Place × Tree}

/-- The value of an element holds an integer that is too long: its digits are, or there are too many bind
parameters before it and it has no number of its own. -/
inductive HoldsOverlong (values : Tree) (cell : Place × Tree) : Prop
  | digits (content : cell.2.HasOverlongDigits) : HoldsOverlong values cell
  | position {position : Nat} (place : values.parameters[position]? = some cell)
      (unnumbered : cell.2.isNumbered = false) (long : Number.isOverlong position = true) :
      HoldsOverlong values cell

/-- The number of a bind parameter is read in base ten and has no sign, so its ordinal is short enough. -/
theorem not_isOverlong_of_ordinalAt {tree : Tree} {position : Nat} {ordinal : Int}
    (h : tree.ordinalAt position = .ok ordinal) (hnumbered : tree.isNumbered = true) :
    Number.isOverlong ordinal = false := by
  rw [Tree.ordinalAt, if_pos hnumbered] at h
  cases hread : integerIn 10 tree.nameText with
  | error error =>
    rw [hread] at h
    cases h
  | ok n =>
    rw [hread] at h
    cases h
    have hdigits := readInteger_of_integerIn hread
    refine Number.not_isOverlong_pred (Number.not_isOverlong_of_readInteger hdigits) ?_
    obtain ⟨_, _, _, _, hsign⟩ := Number.exists_digits_of_readInteger hdigits
    refine Int.not_lt.mp fun hneg => ?_
    have hminus := List.all_eq_true.mp (Bool.and_eq_true_iff.mp hnumbered).2 '-' (hsign hneg)
    exact absurd hminus (by decide)

/-- The integers in the value of an element are short enough exactly if the element does not make them too
long. -/
theorem short_integers_iff (hordinals : values.ordinals = .ok ordinals)
    (hbound : (boundElements values).Sublist values.parameters) (hcell : cell ∈ (grid values).flatten)
    {grammar : Grammar} {value : Value} (hvalue : cellOutcome grammar ordinals cell = .ok value) :
    (∀ n ∈ value.integers, Number.isOverlong n = false) ↔ ¬HoldsOverlong values cell := by
  obtain ⟨kind, hkind, hresolves⟩ := resolvesAs_element hordinals hbound hcell grammar
  -- What holds a long integer is a literal or a bind parameter.
  have hother : kind ≠ .literal → kind ≠ .placeholder → ¬HoldsOverlong values cell := by
    rintro hliteral hplaceholder (content | ⟨place, _, _⟩)
    · rw [content.valueKind_eq] at hkind
      exact hliteral (Except.ok.inj hkind).symm
    · have hparameter := (List.mem_filter.mp (List.mem_of_getElem? place)).2
      have hfault := numberFault?_of_element hordinals hbound hcell
      rw [Tree.valueKind_of_isParameter hparameter hfault] at hkind
      exact hplaceholder (Except.ok.inj hkind).symm
  rw [hvalue] at hresolves
  cases hresolves with
  | null => exact iff_of_true (List.forall_mem_nil _) (hother (by simp) (by simp))
  | expression => exact iff_of_true (List.forall_mem_nil _) (hother (by simp) (by simp))
  | constant stands =>
    rw [Value.integers, stands.overlong_iff rfl, not_iff_not]
    refine ⟨.digits, ?_⟩
    rintro (content | ⟨place, _, _⟩)
    · exact content
    · obtain ⟨_, _, hresolved⟩ := cellOutcome_of_parameter hordinals place grammar
      rw [hvalue] at hresolved
      cases hresolved
  | placeholder index =>
    have hparameter := Tree.isParameter_of_valueKind hkind
    obtain ⟨position, hposition⟩ := List.getElem?_of_mem (mem_parameters_of_element hbound hcell hparameter)
    obtain ⟨ordinal, hordinal, hresolved⟩ := cellOutcome_of_parameter hordinals hposition grammar
    rw [hvalue] at hresolved
    cases hresolved
    rw [Value.integers, List.forall_mem_singleton]
    cases hnumbered : cell.2.isNumbered with
    | true =>
      -- A parameter with a number of its own takes no position, and a number that was read is short enough.
      refine iff_of_true (not_isOverlong_of_ordinalAt hordinal hnumbered) ?_
      rintro (content | ⟨_, unnumbered, _⟩)
      · rw [content.valueKind_eq] at hkind
        cases hkind
      · rw [hnumbered] at unnumbered
        cases unnumbered
    | false =>
      rw [Tree.ordinalAt, hnumbered] at hordinal
      cases hordinal
      rw [← Bool.not_eq_true, not_iff_not]
      refine ⟨.position hposition hnumbered, ?_⟩
      rintro (content | ⟨place, _, long⟩)
      · rw [content.valueKind_eq] at hkind
        cases hkind
      · rw [Tree.parameters_position_unique hposition place]
        exact long

/-- The integers that are shown of an element are short enough unless the element makes them too long; a bind
parameter with a name shows none. -/
theorem short_shownIntegers_iff (hordinals : values.ordinals = .ok ordinals)
    (hbound : (boundElements values).Sublist values.parameters) (hcell : cell ∈ (grid values).flatten)
    {grammar : Grammar} {value : Value} (hvalue : cellOutcome grammar ordinals cell = .ok value) :
    (∀ n ∈ value.shownIntegers, Number.isOverlong n = false) ↔
      (HoldsOverlong values cell → cell.2.isParameter = true ∧ cell.2.boundName?.isSome = true) := by
  have hshort := short_integers_iff hordinals hbound hcell hvalue
  cases hparameter : cell.2.isParameter with
  | false =>
    have hshown : value.shownIntegers = value.integers := by
      obtain ⟨kind, hkind, hresolves⟩ := resolvesAs_element hordinals hbound hcell grammar
      rw [hvalue] at hresolves
      cases hresolves with
      | placeholder index =>
        rw [Tree.isParameter_of_valueKind hkind] at hparameter
        cases hparameter
      | _ => rfl
    rw [hshown, hshort]
    simp only [Bool.false_eq_true, false_and]
  | true =>
    obtain ⟨position, hposition⟩ := List.getElem?_of_mem (mem_parameters_of_element hbound hcell hparameter)
    obtain ⟨ordinal, _, hresolved⟩ := cellOutcome_of_parameter hordinals hposition grammar
    rw [hvalue] at hresolved
    cases hresolved
    cases hname : cell.2.boundName? with
    | some name => exact iff_of_true (List.forall_mem_nil _) fun _ => ⟨rfl, rfl⟩
    | none =>
      rw [hname] at hshort
      simp only [Option.isSome_none, Bool.false_eq_true, and_false]
      exact hshort

/-- The rows of a recognition are those of the statement. -/
theorem rows_of_recognize {keyPositions : List Int} {result : Recognition}
    (h : (statement.recognize keyPositions).outcome = .ok result) :
    (statement.rows keyPositions).outcome = .ok result.rows ∧ result.keyPositions = keyPositions := by
  rw [outcome_recognize] at h
  obtain ⟨tableName, _, h⟩ := bind_eq_ok_iff.mp h
  obtain ⟨tableAlias, _, h⟩ := bind_eq_ok_iff.mp h
  obtain ⟨columns, _, h⟩ := bind_eq_ok_iff.mp h
  obtain ⟨rows, hrows, h⟩ := bind_eq_ok_iff.mp h
  obtain ⟨assigned, _, h⟩ := bind_eq_ok_iff.mp h
  cases h
  exact ⟨hrows, rfl⟩

/-- The values of a recognition are those of the elements, one by one. -/
theorem exists_resolved_of_recognize {keyPositions : List Int} {result : Recognition}
    (h : (statement.recognize keyPositions).outcome = .ok result) :
    ∃ ordinals, statement.rowSource.ordinals = .ok ordinals ∧
      (boundElements statement.rowSource).Sublist statement.rowSource.parameters ∧
      List.Forall₂ (fun cell value => cellOutcome statement.grammar ordinals cell = .ok value)
        (grid statement.rowSource).flatten result.rows.flatten := by
  have hdecided := rowsDecision_outcome statement keyPositions
  rw [(rows_of_recognize h).1] at hdecided
  cases hdecided with
  | rows _ source numbers tuples resolved =>
    exact ⟨_, numbers, boundElements_sublist source tuples, List.rel_flatten resolved⟩

/-- A recognition is written, whatever the indentation, exactly if the positions of keys are short enough and no
element makes an integer too long; its values are displayed exactly if no element does, apart from bind
parameters with a name. -/
theorem told_iff_not_holdsOverlong {keyPositions : List Int} {result : Recognition}
    (h : (statement.recognize keyPositions).outcome = .ok result) :
    (∀ indent, (∃ text, result.json.write indent = .ok text) ↔
      (∀ n ∈ keyPositions, Number.isOverlong n = false) ∧
        ∀ cell ∈ (grid statement.rowSource).flatten, ¬HoldsOverlong statement.rowSource cell) ∧
      ((∀ row ∈ result.rows, ∀ value ∈ row, ∃ text, value.display = .ok text) ↔
        ∀ cell ∈ (grid statement.rowSource).flatten, HoldsOverlong statement.rowSource cell →
          cell.2.isParameter = true ∧ cell.2.boundName?.isSome = true) := by
  obtain ⟨ordinals, hordinals, hbound, hresolved⟩ := exists_resolved_of_recognize h
  have hcells := (List.forall₂_and_left _ _).mpr ⟨fun cell hcell => hcell, hresolved⟩
  have hwritten := forall_mem_iff_of_forall₂ (hcells.imp fun cell value ⟨hcell, hvalue⟩ =>
    (short_integers_iff hordinals hbound hcell hvalue).symm)
  have hshown := forall_mem_iff_of_forall₂ (hcells.imp fun cell value ⟨hcell, hvalue⟩ =>
    (short_shownIntegers_iff hordinals hbound hcell hvalue).symm)
  refine ⟨fun indent => ?_, ?_⟩
  · rw [Json.exists_write_iff, Recognition.integers_json, (rows_of_recognize h).2, hwritten, and_comm,
      List.forall_mem_append, List.forall_mem_flatMap]
  · rw [hshown, List.forall_mem_flatten]
    simp only [Value.exists_display_iff]

/-- A hexadecimal constant. -/
def hexConstant (digits : String) : Tree :=
  .bare (.prefixedDigits .hex) [("this", .text digits)]

/-- A hexadecimal literal resolves to the number its digits write. -/
theorem cellOutcome_hexConstant {digits : String} {n : Int} (h : integerIn 16 digits = .ok n) (grammar : Grammar)
    (ordinals : Ordinals) (place : Place) :
    cellOutcome grammar ordinals (place, hexConstant digits) = .ok (.literal (.int n)) := by
  have hkind : (hexConstant digits).valueKind = .ok .literal := rfl
  have hconstant : (hexConstant digits).constant = (integerIn 16 digits).map .int := rfl
  rw [h] at hconstant
  unfold cellOutcome resolveAt
  simp only [hkind, hconstant]
  rfl

/-- An insertion of one hexadecimal constant. -/
def hexInsertion (digits : String) : Statement where
  dialect := .mysql
  sql := "INSERT INTO t VALUES (x'" ++ digits ++ "')"
  tree :=
    .bare .insert [("this", .bare .table [("this", .identifier "t" false)]),
      ("expression", .bare .values [("expressions", .list [.tuple [hexConstant digits]])])]

/-- It is recognized with the number that its digits spell. -/
theorem exists_recognition_hexInsertion {digits : String} {n : Int} (h : integerIn 16 digits = .ok n) :
    ∃ result, ((hexInsertion digits).recognize []).outcome = .ok result ∧ result.rows = [[.literal (.int n)]] := by
  have htuples : ∀ item ∈ (hexInsertion digits).rowSource.itemsAt "expressions", item.isA .tuple = true := by
    change ∀ item ∈ [Tree.tuple [hexConstant digits]], item.isA .tuple = true
    exact List.forall_mem_singleton.mpr rfl
  have hdecided : RowsDecision (hexInsertion digits) (.ok [[.literal (.int n)]]) :=
    .rows rfl rfl rfl htuples (.cons (.cons (cellOutcome_hexConstant h _ _ _) .nil) .nil)
  have hrows := hdecided.outcome_eq []
  have htable : (hexInsertion digits).table = .ok ((hexInsertion digits).tree.slot "this") := rfl
  have halias : (hexInsertion digits).tableAlias = .ok none := rfl
  have hcolumns : (hexInsertion digits).columns.outcome = .ok none := rfl
  have hassigned : (hexInsertion digits).duplicateKeyUpdate.outcome = .ok none := rfl
  rw [outcome_recognize, htable, halias, hcolumns, hrows, hassigned]
  exact ⟨_, rfl, rfl⟩

/-- What is recognized of two digits is written, so no element is too long. -/
theorem told_iff_not_holdsOverlong_hex :
    ∃ result, ((hexInsertion "ff").recognize []).outcome = .ok result ∧
      (∃ text, result.json.write none = .ok text) ∧
      ∀ cell ∈ (grid (hexInsertion "ff").rowSource).flatten, ¬HoldsOverlong (hexInsertion "ff").rowSource cell := by
  have hdigits : integerIn 16 "ff" = .ok 255 := rfl
  obtain ⟨result, hresult, hrows⟩ := exists_recognition_hexInsertion hdigits
  have htext : ∃ text, result.json.write none = .ok text := by
    rw [Json.exists_write_iff, Recognition.integers_json, hrows, (rows_of_recognize hresult).2]
    decide +kernel
  exact ⟨result, hresult, htext, (((told_iff_not_holdsOverlong hresult).1 none).mp htext).2⟩

/-- A power of sixteen is too long if its exponent is a hundred times one for which the power has enough digits. -/
theorem isOverlong_pow_sixteen {count part : Nat} (hpart : 10 ^ 43 ≤ 16 ^ part) (h : part * 100 ≤ count) :
    Number.isOverlong ((16 ^ count : Nat) : Int) = true := by
  have hdigits : Number.decimalDigitLimit = 43 * 100 := rfl
  have hlimit : 10 ^ Number.decimalDigitLimit ≤ 16 ^ count := calc
    10 ^ Number.decimalDigitLimit = (10 ^ 43) ^ 100 := by rw [hdigits, Nat.pow_mul]
    _ ≤ (16 ^ part) ^ 100 := Nat.pow_le_pow_left hpart 100
    _ = 16 ^ (part * 100) := (Nat.pow_mul 16 part 100).symm
    _ ≤ 16 ^ count := Nat.pow_le_pow_right (by decide) h
  rw [← Bool.not_eq_false, Number.isOverlong_eq_false_iff, Int.natAbs_natCast, Nat.not_lt]
  exact hlimit

/-- There are hexadecimal digits that are recognized, but neither written nor displayed. -/
theorem not_told_hex_zeros :
    ∃ result, ((hexInsertion (String.ofList ('1' :: List.replicate 3600 '0'))).recognize []).outcome = .ok result ∧
      (∀ indent, ¬∃ text, result.json.write indent = .ok text) ∧
      ∃ row ∈ result.rows, ∃ value ∈ row, ¬∃ text, value.display = .ok text := by
  have hlong := isOverlong_pow_sixteen (show 10 ^ 43 ≤ 16 ^ 36 by decide) (show 36 * 100 ≤ 3600 by decide)
  obtain ⟨result, hresult, hrows⟩ := exists_recognition_hexInsertion (integerIn_hex_zeros 3600)
  refine ⟨result, hresult, fun indent => ?_, _, hrows ▸ List.mem_cons_self, _, List.mem_cons_self, ?_⟩
  · rw [Json.exists_write_iff, Recognition.integers_json, hrows]
    intro hshort
    have hvalue := hshort _ (List.mem_append_left _ List.mem_cons_self)
    rw [hlong] at hvalue
    cases hvalue
  · rw [Value.exists_display_iff]
    intro hshort
    have hvalue := hshort _ List.mem_cons_self
    rw [hlong] at hvalue
    cases hvalue

end Statement

end SqlInsert
