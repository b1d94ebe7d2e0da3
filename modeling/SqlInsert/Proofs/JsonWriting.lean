import SqlInsert.Json.Basic
import SqlInsert.Proofs.Digits
import SqlInsert.Proofs.Outcome
/-!
# Writing JSON

The parts of a list or an object are written one by one, so a value is written exactly if none of its
integers is too long, whatever the indentation. On one line there is no line break, not even within a
string, since every control character is escaped.
-/

namespace SqlInsert.Json

/-! ## Values and their parts -/

section

variable {motive : Json → Prop} (null : motive .null) (bool : ∀ value, motive (.bool value))
  (int : ∀ value, motive (.int value)) (text : ∀ value, motive (.text value))
  (list : ∀ items, (∀ item ∈ items, motive item) → motive (.list items))
  (object : ∀ members, (∀ member ∈ members, motive member.2) → motive (.object members))

include null bool int text list object

/-- What holds of a list or an object when it holds of its parts holds of every value. -/
@[elab_as_elim]
theorem parts_induction (value : Json) : motive value := by
  refine Json.rec (motive_1 := motive) (motive_2 := fun items => ∀ item ∈ items, motive item)
    (motive_3 := fun members => ∀ member ∈ members, motive member.2) (motive_4 := fun member => motive member.2)
    null bool int text list object ?_ ?_ ?_ ?_ ?_ value
  · exact fun item hitem => absurd hitem List.not_mem_nil
  · exact fun item items hitem hitems => List.forall_mem_cons.mpr ⟨hitem, hitems⟩
  · exact fun member hmember => absurd hmember List.not_mem_nil
  · exact fun member members hmember hmembers => List.forall_mem_cons.mpr ⟨hmember, hmembers⟩
  · exact fun name value hvalue => hvalue

end

mutual

/-- The integers in a value. -/
def integers : Json → List Int
  | .int value => [value]
  | .list items => itemIntegers items
  | .object members => memberIntegers members
  | .null | .bool _ | .text _ => []

/-- The integers in each item. -/
def itemIntegers : List Json → List Int
  | [] => []
  | item :: rest => integers item ++ itemIntegers rest

/-- The integers in each member. -/
def memberIntegers : List (String × Json) → List Int
  | [] => []
  | (_, value) :: rest => integers value ++ memberIntegers rest

end

/-- The integers of the items, collected one item after the other. -/
theorem itemIntegers_eq_flatMap (items : List Json) : itemIntegers items = items.flatMap integers := by
  induction items with
  | nil => rfl
  | cons item rest ih => rw [itemIntegers, ih, List.flatMap_cons]

/-- The integers of the members, collected one member after the other. -/
theorem memberIntegers_eq_flatMap (members : List (String × Json)) :
    memberIntegers members = members.flatMap fun member => integers member.2 := by
  induction members with
  | nil => rfl
  | cons member rest ih => rw [memberIntegers, ih, List.flatMap_cons]

/-- The characters of a member whose value is written. -/
def namedChars (name : String) (chars : List Char) : List Char :=
  stringChars name ++ ':' :: ' ' :: chars

/-- The items are written one after the other, up to the first that cannot be. -/
theorem itemChars_eq_mapM (indent : Option Nat) (depth : Nat) (items : List Json) :
    itemChars indent depth items = items.mapM (charsAt indent depth) := by
  induction items with
  | nil => rfl
  | cons item rest ih => rw [itemChars, ih, List.mapM_cons]

/-- The members are written with their names one after the other. -/
theorem memberChars_eq_mapM (indent : Option Nat) (depth : Nat) (members : List (String × Json)) :
    memberChars indent depth members =
      members.mapM fun member => (charsAt indent depth member.2).map (namedChars member.1) := by
  induction members with
  | nil => rfl
  | cons member rest ih =>
    rw [memberChars, ih, List.mapM_cons]
    cases charsAt indent depth member.2 <;> rfl

/-- A list is written as its items are, one by one. -/
theorem charsAt_list_eq_ok_iff {indent : Option Nat} {depth : Nat} {items : List Json} {chars : List Char} :
    charsAt indent depth (.list items) = .ok chars ↔
      ∃ parts, List.Forall₂ (fun item part => charsAt indent (depth + 1) item = .ok part) items parts ∧
        enclose indent depth '[' ']' parts = chars := by
  rw [charsAt, itemChars_eq_mapM]
  simp only [← mapM_eq_ok_iff]
  cases items.mapM (charsAt indent (depth + 1)) <;>
    simp only [Except.map, reduceCtorEq, false_and, exists_false, Except.ok.injEq, exists_eq_left']

/-- An object is written as its members are, one by one. -/
theorem charsAt_object_eq_ok_iff {indent : Option Nat} {depth : Nat} {members : List (String × Json)}
    {chars : List Char} :
    charsAt indent depth (.object members) = .ok chars ↔
      ∃ parts, List.Forall₂ (fun member part => ∃ written,
          charsAt indent (depth + 1) member.2 = .ok written ∧ namedChars member.1 written = part) members parts ∧
        enclose indent depth '\x7b' '\x7d' parts = chars := by
  have hnamed : ∀ (member : String × Json) (part : List Char),
      (charsAt indent (depth + 1) member.2).map (namedChars member.1) = .ok part ↔
        ∃ written, charsAt indent (depth + 1) member.2 = .ok written ∧ namedChars member.1 written = part := by
    intro member part
    cases charsAt indent (depth + 1) member.2 <;>
      simp only [Except.map, reduceCtorEq, false_and, exists_false, Except.ok.injEq, exists_eq_left']
  rw [charsAt, memberChars_eq_mapM]
  simp only [← hnamed, ← mapM_eq_ok_iff]
  cases members.mapM fun member => (charsAt indent (depth + 1) member.2).map (namedChars member.1) <;>
    simp only [Except.map, reduceCtorEq, false_and, exists_false, Except.ok.injEq, exists_eq_left']

/-! ## Which values are written -/

/-- A value is written exactly if all of its integers are. -/
theorem exists_charsAt_iff {indent : Option Nat} {depth : Nat} {value : Json} :
    (∃ chars, charsAt indent depth value = .ok chars) ↔
      ∀ n ∈ value.integers, Number.isOverlong n = false := by
  induction value using parts_induction generalizing depth with
  | null => simp [charsAt, integers]
  | bool value => simp [charsAt, integers]
  | text value => simp [charsAt, integers]
  | int value =>
    rw [charsAt, integers, List.forall_mem_singleton, exists_map_eq_ok_iff, Number.writeInteger]
    cases Number.isOverlong value <;> simp
  | list items ih =>
    rw [charsAt, itemChars_eq_mapM, exists_map_eq_ok_iff, exists_mapM_iff, integers, itemIntegers_eq_flatMap]
    simp only [List.mem_flatMap]
    constructor
    · rintro h n ⟨item, hitem, hn⟩
      exact (ih item hitem).mp (h item hitem) n hn
    · exact fun h item hitem => (ih item hitem).mpr fun n hn => h n ⟨item, hitem, hn⟩
  | object members ih =>
    rw [charsAt, memberChars_eq_mapM, exists_map_eq_ok_iff, exists_mapM_iff, integers,
      memberIntegers_eq_flatMap]
    simp only [exists_map_eq_ok_iff, List.mem_flatMap]
    constructor
    · rintro h n ⟨member, hmember, hn⟩
      exact (ih member hmember).mp (h member hmember) n hn
    · exact fun h member hmember => (ih member hmember).mpr fun n hn => h n ⟨member, hmember, hn⟩

/-- A tree is written as its characters at the outermost depth. -/
theorem write_eq_ok_iff {indent : Option Nat} {value : Json} {text : String} :
    value.write indent = .ok text ↔ ∃ chars, charsAt indent 0 value = .ok chars ∧ String.ofList chars = text := by
  rw [write]
  cases charsAt indent 0 value <;>
    simp only [Except.map, reduceCtorEq, false_and, exists_false, Except.ok.injEq, exists_eq_left']

/-- A tree can be written exactly where no integer in it is too long for a decimal text. -/
theorem exists_write_iff {indent : Option Nat} {value : Json} :
    (∃ text, value.write indent = .ok text) ↔ ∀ n ∈ value.integers, Number.isOverlong n = false := by
  rw [write, exists_map_eq_ok_iff, exists_charsAt_iff]

/-! ## Characters of a written value -/

/-- On one line only the brackets, commas and blanks are added to the parts. -/
theorem mem_of_mem_enclose {c first last : Char} {depth : Nat} {parts : List (List Char)}
    (h : c ∈ enclose none depth first last parts) :
    c = first ∨ c = last ∨ c = ',' ∨ c = ' ' ∨ ∃ part ∈ parts, c ∈ part := by
  cases parts with
  | nil =>
    rcases List.mem_cons.mp h with h | h
    · exact .inl h
    · exact .inr (.inl (List.mem_singleton.mp h))
  | cons part rest =>
    simp only [enclose, lineBreak, separator, List.cons_append, List.nil_append, List.append_nil,
      List.mem_cons, List.mem_append, List.not_mem_nil, or_false] at h
    rcases h with h | h | h
    · exact .inl h
    · rcases Text.mem_of_mem_intercalate h with h | h
      · rw [List.mem_pair] at h
        exact h.elim (fun h => .inr (.inr (.inl h))) fun h => .inr (.inr (.inr (.inl h)))
      · exact .inr (.inr (.inr (.inr h)))
    · exact .inr (.inl h)

/-- No escaped character holds a line end. -/
theorem newline_not_mem_escapeChar (c : Char) : '\n' ∉ escapeChar c := by
  have hnumbered : ∀ n < 0x20, '\n' ∉ '\\' :: 'u' :: Text.hexDigits 4 n := by decide
  unfold escapeChar
  split
  case h_8 hnewline _ _ =>
    split_ifs with hcontrol
    · exact hnumbered c.toNat hcontrol
    · rw [List.mem_singleton]
      rintro rfl
      exact hcontrol (by decide)
  all_goals decide

/-- No string is written over two lines. -/
theorem newline_not_mem_stringChars (value : String) : '\n' ∉ stringChars value := by
  simp only [stringChars, List.cons_append, List.mem_cons, List.mem_append, List.mem_flatMap,
    List.not_mem_nil, or_false]
  rintro (h | ⟨c, _, h⟩ | h)
  · cases h
  · exact newline_not_mem_escapeChar c h
  · cases h

/-- No integer is written over two lines. -/
theorem newline_not_mem_integerText (n : Int) : '\n' ∉ (Number.integerText n).toList := by
  intro h
  rcases Number.eq_minus_or_isDigit_of_mem_integerText h with h | h
  · cases h
  · cases h

/-- No character of a value on one line is a line break. -/
theorem newline_not_mem_charsAt {depth : Nat} {value : Json} {chars : List Char}
    (h : charsAt none depth value = .ok chars) : '\n' ∉ chars := by
  -- Without an indent the marks between the parts are fixed, so a line end would be one of a part.
  induction value using parts_induction generalizing depth chars with
  | null =>
    cases h
    decide
  | bool value =>
    cases h
    cases value <;> decide
  | text value =>
    cases h
    exact newline_not_mem_stringChars value
  | int value =>
    rw [charsAt, Number.writeInteger] at h
    cases hlong : Number.isOverlong value <;> rw [hlong] at h <;> cases h
    exact newline_not_mem_integerText value
  | list items ih =>
    obtain ⟨parts, hparts, rfl⟩ := charsAt_list_eq_ok_iff.mp h
    intro hmem
    rcases mem_of_mem_enclose hmem with h | h | h | h | ⟨part, hpart, h⟩
    · cases h
    · cases h
    · cases h
    · cases h
    · obtain ⟨item, hitem, hwritten⟩ := exists_answer_of_mem hparts.flip hpart
      exact ih item hitem hwritten h
  | object members ih =>
    obtain ⟨parts, hparts, rfl⟩ := charsAt_object_eq_ok_iff.mp h
    intro hmem
    rcases mem_of_mem_enclose hmem with h | h | h | h | ⟨part, hpart, h⟩
    · cases h
    · cases h
    · cases h
    · cases h
    · obtain ⟨member, hmember, written, hwritten, rfl⟩ := exists_answer_of_mem hparts.flip hpart
      simp only [namedChars, List.mem_append, List.mem_cons] at h
      rcases h with h | h | h | h
      · exact newline_not_mem_stringChars member.1 h
      · cases h
      · cases h
      · exact ih member hmember hwritten h

/-- On one line a value is written without a line break. -/
theorem newline_not_mem_write {value : Json} {text : String} (h : value.write none = .ok text) :
    '\n' ∉ text.toList := by
  obtain ⟨chars, hchars, rfl⟩ := write_eq_ok_iff.mp h
  rw [String.toList_ofList]
  exact newline_not_mem_charsAt hchars

end SqlInsert.Json
