import SqlInsert.Proofs.Magnitude
import SqlInsert.Proofs.RowNumbering
/-!
# The indices of bind parameters

The values of bind parameters take their indices from two sources that share one range: the position
among all bind parameters, and the number that a parameter carries, less one. Positions are never
negative and never met twice. So an index is below zero only for the number zero, and the index of a
parameter without a number is met again only where another one carries the number behind that position.
-/

namespace SqlInsert

/-- Lists of lists that are related one by one are so member by member. -/
theorem forall_mem_zip_flatten {α β : Type} {relation : α → β → Prop} {groups : List (List α)}
    {answers : List (List β)} (h : List.Forall₂ (List.Forall₂ relation) groups answers) :
    ∀ pair ∈ groups.flatten.zip answers.flatten, relation pair.1 pair.2 := by
  have hflat : List.Forall₂ relation groups.flatten answers.flatten := List.rel_flatten h
  intro pair hpair
  exact (List.forall₂_iff_zip.mp hflat).2 hpair

namespace Tree

variable {tree : Tree} {number : Int}

/-- A number that consists of digits is not negative. -/
theorem nonneg_of_ownNumber? (h : tree.ownNumber? = .ok (some number)) : 0 ≤ number := by
  unfold ownNumber? at h
  cases hdigits : Text.allDigitLike tree.nameText.toList with
  | false =>
    rw [hdigits] at h
    cases h
  | true =>
    rw [hdigits, if_pos rfl] at h
    have hinteger : integerIn 10 tree.nameText = .ok number := by
      cases hread : integerIn 10 tree.nameText with
      | ok value =>
        rw [hread] at h
        cases h
        rfl
      | error error =>
        rw [hread] at h
        cases h
    have hread : Number.readInteger 10 tree.nameText.toList = .ok number := readInteger_of_integerIn hinteger
    obtain ⟨_, _, _, _, hsign⟩ := Number.exists_digits_of_readInteger hread
    have hall : tree.nameText.toList.all Text.isDigitLike = true := (Bool.and_eq_true_iff.mp hdigits).2
    refine Int.not_lt.mp fun hnegative => ?_
    have hminus : Text.isDigitLike '-' = true := List.all_eq_true.mp hall '-' (hsign hnegative)
    exact absurd hminus (by decide)

/-- An ordinal is the position, or the number of the parameter less one. -/
theorem ordinalAt_cases {position : Nat} {ordinal : Int} (h : tree.ordinalAt position = .ok ordinal) :
    tree.isNumbered = false ∧ ordinal = position ∨
      ∃ number, tree.ownNumber? = .ok (some number) ∧ ordinal = number - 1 := by
  unfold ordinalAt at h
  cases hnumbered : tree.isNumbered with
  | false =>
    rw [hnumbered] at h
    cases h
    exact .inl ⟨rfl, rfl⟩
  | true =>
    rw [hnumbered, if_pos rfl] at h
    cases hread : integerIn 10 tree.nameText with
    | ok number =>
      have hown : tree.ownNumber? = .ok (some number) := by
        unfold ownNumber?
        rw [show Text.allDigitLike tree.nameText.toList = true from hnumbered, if_pos rfl, hread]
        rfl
      rw [hread] at h
      cases h
      exact .inr ⟨number, hown, rfl⟩
    | error error =>
      rw [hread] at h
      cases h

/-- A parameter that is not numbered has no number of its own. -/
theorem ownNumber?_of_not_isNumbered (h : tree.isNumbered = false) : tree.ownNumber? = .ok none := by
  unfold ownNumber?
  rw [show Text.allDigitLike tree.nameText.toList = false from h]
  rfl

end Tree

namespace Statement

/-- The values of rows with the elements that they come from. -/
def origins (values : Tree) (rows : List Row) : List ((Place × Tree) × Value) :=
  (grid values).flatten.zip rows.flatten

/-- No bind parameter has an index below zero. -/
def HasNonnegativeIndices (values : Tree) (rows : List Row) : Prop :=
  ∀ cell index name, (cell, Value.placeholder index name) ∈ origins values rows → 0 ≤ index

/-- A bind parameter without a number shares its index with no other one. -/
def HasUnsharedPositions (values : Tree) (rows : List Row) : Prop :=
  ∀ first second index name name', (first, Value.placeholder index name) ∈ origins values rows →
    (second, Value.placeholder index name') ∈ origins values rows →
    first.2.isNumbered = false → first = second

section

variable {values : Tree} {rows : List Row} {cell : Place × Tree} {index : Int} {name : Option String}

/-- Every value comes from an element. -/
theorem origins_snd {relation : Place × Tree → Value → Prop}
    (h : List.Forall₂ (List.Forall₂ relation) (grid values) rows) :
    (origins values rows).map Prod.snd = rows.flatten := by
  have hflat : List.Forall₂ relation (grid values).flatten rows.flatten := List.rel_flatten h
  exact List.map_snd_zip (Nat.le_of_eq hflat.length_eq.symm)

/-- The value of a bind parameter comes from one that is counted, and carries its ordinal. -/
theorem exists_position_of_origin (h : List.Forall₂ (List.Forall₂ (FollowsNumbering values)) (grid values) rows)
    (hcell : (cell, Value.placeholder index name) ∈ origins values rows) :
    ∃ position : Nat, values.parameters[position]? = some cell ∧ cell.2.ordinalAt position = .ok index := by
  have hfollows : FollowsNumbering values cell (.placeholder index name) :=
    forall_mem_zip_flatten h _ hcell
  have hcounted : cell ∈ values.parameters := by
    by_contra hnot
    exact hfollows.other hnot rfl
  obtain ⟨position, hposition⟩ := List.getElem?_of_mem hcounted
  obtain ⟨ordinal, hordinal, hvalue⟩ := hfollows.bound position hposition
  cases hvalue
  exact ⟨position, hposition, hordinal⟩

end

/-- The indices in the rows of a statement. Each belongs to a bind parameter that is counted, and is not
negative unless that one carries the number zero. A parameter without a number shares its index with
another exactly if the number of the other is that of its position, counted from one. -/
theorem indices_share_iff {statement : Statement} {keyPositions : List Int} {rows : List Row}
    (h : (statement.rows keyPositions).outcome = .ok rows) :
    ∃ values, statement.values = .ok values ∧ (origins values rows).map Prod.snd = rows.flatten ∧
      (∀ cell index name, (cell, Value.placeholder index name) ∈ origins values rows →
        cell ∈ values.parameters ∧ (cell.2.ownNumber? ≠ .ok (some 0) → 0 ≤ index)) ∧
      ∀ first second index index' name name', (first, Value.placeholder index name) ∈ origins values rows →
        (second, Value.placeholder index' name') ∈ origins values rows →
        first.2.isNumbered = false → first ≠ second →
        (index = index' ↔ ∃ position : Nat, values.parameters[position]? = some first ∧
          second.2.ownNumber? = .ok (some ((position : Int) + 1))) := by
  obtain ⟨root, source, tuples, ordinals, numbers, resolved⟩ := rows_eq_ok_iff.mp h
  have hvalues : statement.values = .ok statement.rowSource := by
    rw [values_eq, if_pos root, if_pos source]
  have hbound := boundElements_sublist source tuples
  have hrows := followsNumbering_rows numbers hbound resolved
  refine ⟨statement.rowSource, hvalues, origins_snd hrows, ?_, ?_⟩
  · intro cell index name hcell
    obtain ⟨position, hposition, hordinal⟩ := exists_position_of_origin hrows hcell
    refine ⟨List.mem_of_getElem? hposition, fun hnonzero => ?_⟩
    rcases Tree.ordinalAt_cases hordinal with ⟨_, hindex⟩ | ⟨number, hown, hindex⟩
    · omega
    · have hnonneg : 0 ≤ number := Tree.nonneg_of_ownNumber? hown
      have hne : number ≠ 0 := by
        intro hzero
        rw [hzero] at hown
        exact hnonzero hown
      omega
  · intro first second index index' name name' hfirst hsecond hunnumbered hdifferent
    obtain ⟨position, hposition, hordinal⟩ := exists_position_of_origin hrows hfirst
    obtain ⟨position', hposition', hordinal'⟩ := exists_position_of_origin hrows hsecond
    have hindex : index = position := by
      rcases Tree.ordinalAt_cases hordinal with ⟨_, hindex⟩ | ⟨number, hown, _⟩
      · exact hindex
      · rw [Tree.ownNumber?_of_not_isNumbered hunnumbered] at hown
        cases hown
    -- Two positions differ, so only a number of the second can lead to the position of the first.
    have hpositions : position ≠ position' := by
      intro heq
      rw [heq, hposition'] at hposition
      exact hdifferent (Option.some.inj hposition).symm
    rcases Tree.ordinalAt_cases hordinal' with ⟨hplain, hindex'⟩ | ⟨number, hown, hindex'⟩
    · have hnone : second.2.ownNumber? = .ok none := Tree.ownNumber?_of_not_isNumbered hplain
      constructor
      · intro heq
        omega
      · rintro ⟨_, _, hown⟩
        rw [hnone] at hown
        cases hown
    · constructor
      · intro heq
        have hnumber : number = (position : Int) + 1 := by omega
        exact ⟨position, hposition, hnumber ▸ hown⟩
      · rintro ⟨other, hother, hnumber⟩
        have hsame : other = position := Tree.parameters_position_unique hother hposition
        rw [hown] at hnumber
        cases hnumber
        omega

/-- An insertion of one row into a table, by the elements of the row. -/
def rowInsertion (sql : String) (elements : List Tree) : Statement where
  dialect := .postgresql
  sql := sql
  tree := .bare .insert
    [("this", .bare .table [("this", .identifier "t" false), ("db", .null), ("catalog", .null)]),
      ("expression", .bare .values [("expressions", .list [.tuple elements]), ("alias", .null)]),
      ("conflict", .null), ("returning", .null)]

/-- A bind parameter that is a question mark. -/
def plainParameter : Tree :=
  .bare .placeholder [("jdbc", .flag true)]

/-- A bind parameter that is a number behind a dollar sign. -/
def numberedParameter (number : String) : Tree :=
  .bare .parameter [("this", .numberLiteral number)]

/-- The second of three bind parameters has the index of the number in front of it. -/
def numberBefore : Statement :=
  rowInsertion "INSERT INTO t VALUES ($2, ?, ?)" [numberedParameter "2", plainParameter, plainParameter]

def numberBeforeRows : List Row :=
  [[.placeholder 1 none, .placeholder 1 none, .placeholder 2 none]]

/-- Behind `$2` the first plain parameter meets the index of the number, and the next one meets none. -/
theorem indices_share_iff_numberBefore :
    (numberBefore.rows []).outcome = .ok numberBeforeRows ∧
      ∃ values, numberBefore.values = .ok values ∧
        (origins values numberBeforeRows).map Prod.snd = numberBeforeRows.flatten ∧
        (∀ cell index name, (cell, Value.placeholder index name) ∈ origins values numberBeforeRows →
          cell ∈ values.parameters ∧ (cell.2.ownNumber? ≠ .ok (some 0) → 0 ≤ index)) ∧
        ∀ first second index index' name name',
          (first, Value.placeholder index name) ∈ origins values numberBeforeRows →
          (second, Value.placeholder index' name') ∈ origins values numberBeforeRows →
          first.2.isNumbered = false → first ≠ second →
          (index = index' ↔ ∃ position : Nat, values.parameters[position]? = some first ∧
            second.2.ownNumber? = .ok (some ((position : Int) + 1))) := by
  have hrows : (numberBefore.rows []).outcome = .ok numberBeforeRows := rfl
  exact ⟨hrows, indices_share_iff hrows⟩

/-- The number of the second of three bind parameters is that of the position of the first, and that of
the last is zero. -/
def numbersBehind : Statement :=
  rowInsertion "INSERT INTO t VALUES (?, $1, $0)"
    [plainParameter, numberedParameter "1", numberedParameter "0"]

def numbersBehindRows : List Row :=
  [[.placeholder 0 none, .placeholder 0 none, .placeholder (-1) none]]

/-- An index may be negative, and that of a position may be met again. -/
theorem not_unshared_numbersBehind :
    (numbersBehind.rows []).outcome = .ok numbersBehindRows ∧
      numbersBehind.values = .ok numbersBehind.rowSource ∧
      ¬HasNonnegativeIndices numbersBehind.rowSource numbersBehindRows ∧
      ¬HasUnsharedPositions numbersBehind.rowSource numbersBehindRows := by
  have horigins : origins numbersBehind.rowSource numbersBehindRows =
      [(([⟨0, some 0⟩, ⟨0, some 0⟩], plainParameter), .placeholder 0 none),
        (([⟨0, some 0⟩, ⟨0, some 1⟩], numberedParameter "1"), .placeholder 0 none),
        (([⟨0, some 0⟩, ⟨0, some 2⟩], numberedParameter "0"), .placeholder (-1) none)] := rfl
  refine ⟨rfl, rfl, fun hnonnegative => ?_, fun hunshared => ?_⟩
  · have hindex : (0 : Int) ≤ -1 := by
      refine hnonnegative ([⟨0, some 0⟩, ⟨0, some 2⟩], numberedParameter "0") (-1) none ?_
      rw [horigins]
      exact List.mem_cons_of_mem _ (List.mem_cons_of_mem _ List.mem_cons_self)
    exact absurd hindex (by decide)
  · have hsame : (([⟨0, some 0⟩, ⟨0, some 0⟩], plainParameter) : Place × Tree) =
        ([⟨0, some 0⟩, ⟨0, some 1⟩], numberedParameter "1") := by
      refine hunshared _ _ 0 none none ?_ ?_ rfl
      · rw [horigins]
        exact List.mem_cons_self
      · rw [horigins]
        exact List.mem_cons_of_mem _ List.mem_cons_self
    cases hsame

end Statement

end SqlInsert
