import SqlInsert.Proofs.Numbering
import SqlInsert.Recognition.Resolve
import SqlInsert.Tree.Basic
/-!
# Sorts of elements and their values

An element is looked at twice: once for its sort and once for its value. Here the value is tied to the
sort for every element: what an element of each sort resolves to, which constant each form of constant
stands for, and that only an element without a sort is refused as not recognized.
-/

namespace SqlInsert

namespace Tree

/-- What a constant stands for, form by form: its content as the rule of the form converts it, or the
failure of the conversion. -/
inductive StandsFor : Tree → Except ConversionError Constant → Prop
  | flag {tree : Tree} (form : tree.isA .boolean = true) :
      StandsFor tree (.ok (.flag (tree.slot "this").isGiven))
  | hexDigits {tree : Tree} (form : tree.isA (.prefixedDigits .hex) = true) :
      StandsFor tree ((integerIn 16 tree.content).map .int)
  | bitDigits {tree : Tree} (form : tree.isA (.prefixedDigits .bit) = true) :
      StandsFor tree ((integerIn 2 tree.content).map .int)
  | prefixedText {tree : Tree} {mark : TextPrefix} (form : tree.isA (.prefixedText mark) = true) :
      StandsFor tree (.ok (.text tree.content))
  | text {tree : Tree} (form : tree.isTextLiteral = true) : StandsFor tree (.ok (.text tree.content))
  | number {tree : Tree} (form : tree.isNumberLiteral = true) :
      StandsFor tree (.ok (Constant.ofNumberText tree.content))
  /-- Behind the name of a character set the constant is that of the literal. -/
  | introduced {tree : Tree} {outcome : Except ConversionError Constant} (form : tree.isA .introducer = true)
      (literal : (tree.slot "expression").isA .literal = true)
      (inner : StandsFor (tree.slot "expression") outcome) : StandsFor tree outcome
  | negated {tree : Tree} (form : tree.isA (.unary .minus) = true)
      (operand : (tree.slot "this").isNumberLiteral = true) :
      StandsFor tree (Constant.ofNumberText (tree.slot "this").content).negated
  /-- A cast to a type of date or time is what the reader of the type makes of the text. -/
  | temporal {tree : Tree} {typeName content : String} {reader : String → Option Constant}
      {constant : Constant} (form : tree.isCast = true) (operand : (tree.slot "this").isTextLiteral = true)
      (text : ((tree.slot "this").slot "this").text? = some content) (type : tree.castTarget? = some typeName)
      (reads : temporalReader? typeName = some reader) (read : reader content = some constant) :
      StandsFor tree (.ok constant)

/-- A literal is a text or a number. -/
theorem standsFor_literalConstant {tree : Tree} (h : tree.isA .literal = true) :
    tree.StandsFor (.ok tree.literalConstant) := by
  unfold literalConstant
  cases htext : tree.isTextLiteral with
  | true => exact .text htext
  | false =>
    refine .number ?_
    unfold isTextLiteral at htext
    unfold isNumberLiteral
    rw [h, Bool.true_and] at htext
    rw [h, htext]
    rfl

/-- A cast counts as a constant when the reader of its type makes something of the text. -/
theorem temporal?_eq_some {tree : Tree} {constant : Constant} (h : tree.temporal? = some constant) :
    tree.isCast = true ∧ (tree.slot "this").isTextLiteral = true ∧
      ∃ typeName content reader, ((tree.slot "this").slot "this").text? = some content ∧
        tree.castTarget? = some typeName ∧ temporalReader? typeName = some reader ∧
        reader content = some constant := by
  unfold temporal? at h
  by_cases hform : (tree.isCast && (tree.slot "this").isTextLiteral) = true
  · obtain ⟨hcast, hoperand⟩ := Bool.and_eq_true_iff.mp hform
    rw [if_pos hform] at h
    simp only [bind, Option.bind_eq_some_iff] at h
    obtain ⟨typeName, htype, reader, hreader, content, hcontent, hread⟩ := h
    exact ⟨hcast, hoperand, typeName, content, reader, hcontent, htype, hreader, hread⟩
  · rw [if_neg hform] at h
    cases h

/-- A tree of a kind has that kind. -/
theorem kind?_of_isA {tree : Tree} {kind : Kind} (h : tree.isA kind = true) : tree.kind? = some kind :=
  eq_of_beq h

/-- A node is of one kind. -/
theorem isA_unique {tree : Tree} {first second : Kind} (hfirst : tree.isA first = true)
    (hsecond : tree.isA second = true) : first = second :=
  Option.some.inj ((kind?_of_isA hfirst).symm.trans (kind?_of_isA hsecond))

/-- A node whose kind makes it a constant stands for what its content is converted to. -/
theorem standsFor_of_isConstantKind {tree : Tree} (h : tree.kind?.any isConstantKind = true) :
    tree.StandsFor tree.constant := by
  cases tree with
  | node kind slots comments =>
    cases kind with
    | literal => exact standsFor_literalConstant (beq_self_eq_true (some Kind.literal))
    | boolean => exact .flag (beq_self_eq_true (some Kind.boolean))
    | prefixedText mark => exact .prefixedText (beq_self_eq_true (some (Kind.prefixedText mark)))
    | prefixedDigits mark =>
      cases mark with
      | hex => exact .hexDigits (beq_self_eq_true (some (Kind.prefixedDigits .hex)))
      | bit => exact .bitDigits (beq_self_eq_true (some (Kind.prefixedDigits .bit)))
    | _ => cases h
  | _ => cases h

/-- An introduced text stands for the constant it introduces. -/
theorem standsFor_of_introduced? {tree : Tree} (h : tree.introduced?.isSome = true) :
    tree.StandsFor tree.constant := by
  unfold introduced? at h
  by_cases hform : (tree.isA .introducer && (tree.slot "expression").isA .literal) = true
  · obtain ⟨hintroducer, hliteral⟩ := Bool.and_eq_true_iff.mp hform
    unfold constant
    rw [kind?_of_isA hintroducer]
    exact .introduced hintroducer hliteral (standsFor_literalConstant hliteral)
  · rw [if_neg hform] at h
    cases h

/-- A negated number stands for its negative. -/
theorem standsFor_of_isNegatedNumber {tree : Tree} (h : tree.isNegatedNumber = true) :
    tree.StandsFor tree.constant := by
  obtain ⟨hminus, hoperand⟩ := Bool.and_eq_true_iff.mp h
  unfold constant
  rw [kind?_of_isA hminus]
  exact .negated hminus hoperand

/-- A cast is one of the two casts. -/
theorem exists_cast_of_isCast {tree : Tree} (h : tree.isCast = true) :
    ∃ tolerant, tree.kind? = some (.cast tolerant) := by
  unfold isCast at h
  split at h
  · rename_i tolerant hkind
    exact ⟨tolerant, hkind⟩
  · cases h

/-- A cast text that was read stands for its day or time. -/
theorem standsFor_of_temporal? {tree : Tree} (h : tree.temporal?.isSome = true) :
    tree.StandsFor tree.constant := by
  obtain ⟨value, hvalue⟩ := Option.isSome_iff_exists.mp h
  obtain ⟨hcast, hoperand, _, _, _, hcontent, htype, hreader, hread⟩ := temporal?_eq_some hvalue
  obtain ⟨tolerant, hkind⟩ := exists_cast_of_isCast hcast
  unfold constant
  rw [hkind, hvalue]
  exact .temporal hcast hoperand hcontent htype hreader hread

/-- Why an element counts as a constant. -/
theorem valueKind_eq_literal {tree : Tree} (h : tree.valueKind = .ok .literal) :
    tree.kind?.any isConstantKind = true ∨ tree.introduced?.isSome = true ∨ tree.isNegatedNumber = true ∨
      tree.temporal?.isSome = true := by
  unfold valueKind at h
  by_cases hnull : tree.isA .null = true
  · rw [if_pos hnull] at h
    cases h
  · rw [if_neg hnull] at h
    by_cases hconstant : tree.kind?.any isConstantKind = true
    · exact .inl hconstant
    · rw [if_neg hconstant] at h
      cases hbound : tree.isBound with
      | error error =>
        rw [hbound] at h
        cases h
      | ok bound =>
        rw [hbound, ok_bind] at h
        cases bound with
        | true => cases h
        | false =>
          by_cases hform : (tree.introduced?.isSome || tree.isNegatedNumber || tree.temporal?.isSome) = true
          · rw [Bool.or_eq_true, Bool.or_eq_true] at hform
            rcases hform with (hintroduced | hnegated) | htemporal
            · exact .inr (.inl hintroduced)
            · exact .inr (.inr (.inl hnegated))
            · exact .inr (.inr (.inr htemporal))
          · simp only [Bool.false_eq_true, if_false, if_neg hform] at h
            split at h <;> cases h

/-- The constant of every element that counts as one is that of its form. -/
theorem standsFor_constant {tree : Tree} (h : tree.valueKind = .ok .literal) :
    tree.StandsFor tree.constant := by
  rcases valueKind_eq_literal h with hkind | hintroduced | hnegated | htemporal
  · exact standsFor_of_isConstantKind hkind
  · exact standsFor_of_introduced? hintroduced
  · exact standsFor_of_isNegatedNumber hnegated
  · exact standsFor_of_temporal? htemporal

/-- A bind parameter is of one of two kinds. -/
theorem isParameter_kind? {tree : Tree} (h : tree.isParameter = true) :
    tree.kind? = some .placeholder ∨ tree.kind? = some .parameter := by
  rcases Bool.or_eq_true_iff.mp h with hplaceholder | hparameter
  · exact .inl (kind?_of_isA hplaceholder)
  · exact .inr (kind?_of_isA (Bool.and_eq_true_iff.mp hparameter).1)

/-- A bind parameter whose number can be read is of the sort of bind parameters. -/
theorem valueKind_of_isParameter {tree : Tree} (h : tree.isParameter = true)
    (hfault : tree.numberFault? = none) : tree.valueKind = .ok .placeholder := by
  have hother : tree.isA .null = false ∧ tree.kind?.any isConstantKind = false := by
    unfold isA
    rcases isParameter_kind? h with hkind | hkind <;> rw [hkind] <;> exact ⟨rfl, rfl⟩
  unfold valueKind
  simp only [hother.1, hother.2, Bool.false_eq_true, if_false, isBound_of_numberFault? hfault, h,
    ok_bind, if_true]
  rfl

/-- What is resolved as bound is a bind parameter. -/
theorem isParameter_of_isBound {tree : Tree} (h : tree.isBound = .ok true) : tree.isParameter = true := by
  rw [isBound_eq] at h
  cases hplaceholder : tree.isA .placeholder with
  | true => exact Bool.or_eq_true_iff.mpr (.inl hplaceholder)
  | false =>
    cases hparameter : tree.isParameter with
    | true => rfl
    | false =>
      rw [hplaceholder, hparameter] at h
      cases h

/-- Only bind parameters are of their sort. -/
theorem isParameter_of_valueKind {tree : Tree} (h : tree.valueKind = .ok .placeholder) :
    tree.isParameter = true := by
  unfold valueKind at h
  split at h
  · cases h
  · split at h
    · cases h
    · cases hbound : tree.isBound with
      | error error =>
        rw [hbound] at h
        cases h
      | ok bound =>
        cases bound with
        | true => exact isParameter_of_isBound hbound
        | false =>
          rw [hbound, ok_bind] at h
          simp only [Bool.false_eq_true, if_false] at h
          split at h
          · cases h
          · split at h <;> cases h

/-- Every element whose number can be read has a sort. -/
theorem exists_valueKind {tree : Tree} (h : tree.numberFault? = none) :
    ∃ kind, tree.valueKind = .ok kind := by
  unfold valueKind
  rw [isBound_of_numberFault? h, ok_bind]
  repeat' split
  all_goals exact ⟨_, rfl⟩

/-- What an element of a sort resolves to. -/
inductive ResolvesAs (grammar : Grammar) (tree : Tree) : ValueKind → Except Failure Value → Prop
  | null : ResolvesAs grammar tree .null (.ok .null)
  | constant {constant : Constant} (stands : tree.StandsFor (.ok constant)) :
      ResolvesAs grammar tree .literal (.ok (.literal constant))
  /-- The content of a constant may be impossible to convert. -/
  | unconverted {error : ConversionError} (stands : tree.StandsFor (.error error)) :
      ResolvesAs grammar tree .literal (.error (.conversion error))
  | placeholder (index : Int) :
      ResolvesAs grammar tree .placeholder (.ok (.placeholder index tree.boundName?))
  | expression : ResolvesAs grammar tree .expression (.ok (.expression (tree.sql grammar) tree.className))
  | unrecognized : ResolvesAs grammar tree .unrecognized (.error (.recognition (.unrecognized tree .values)))

/-- A value is of the sort of its element. -/
theorem ResolvesAs.kind_eq {grammar : Grammar} {tree : Tree} {kind : ValueKind}
    {outcome : Except Failure Value} (h : tree.ResolvesAs grammar kind outcome) {value : Value} (hvalue : outcome = .ok value) :
    value.kind = kind := by
  cases h <;> cases hvalue <;> rfl

/-- Exactly the elements without a sort are refused, each by itself. -/
theorem ResolvesAs.refused_iff {grammar : Grammar} {tree : Tree} {kind : ValueKind}
    {outcome : Except Failure Value} (h : tree.ResolvesAs grammar kind outcome) (error : RecognitionError) :
    outcome = .error (.recognition error) ↔ kind = .unrecognized ∧ error = .unrecognized tree .values := by
  cases h with
  | unrecognized =>
    constructor
    · intro heq
      cases heq
      exact ⟨rfl, rfl⟩
    · rintro ⟨_, rfl⟩
      rfl
  | _ => simp only [reduceCtorEq, Except.error.injEq, false_and]

end Tree

/-- An element at a place resolves as its sort says, if a bind parameter has an ordinal there. -/
theorem resolvesAs_resolveAt {grammar : Grammar} {ordinals : Ordinals} {place : Place} {tree : Tree}
    {kind : ValueKind} (hkind : tree.valueKind = .ok kind)
    (hordinal : kind = .placeholder → ∃ ordinal, ordinals.lookup place = some ordinal) :
    tree.ResolvesAs grammar kind (resolveAt grammar ordinals place tree).outcome := by
  unfold resolveAt
  rw [hkind]
  cases kind with
  | null => exact .null
  | literal =>
    have hstands := Tree.standsFor_constant hkind
    cases hconstant : tree.constant with
    | ok constant =>
      rw [hconstant] at hstands
      exact .constant hstands
    | error error =>
      rw [hconstant] at hstands
      exact .unconverted hstands
  | placeholder =>
    obtain ⟨ordinal, hlookup⟩ := hordinal rfl
    simp only [hlookup]
    exact .placeholder ordinal
  | expression => exact .expression
  | unrecognized => exact .unrecognized

/-- A bind parameter is among its own. -/
theorem mem_parameters_self {tree : Tree} (h : tree.isParameter = true) : ([], tree) ∈ tree.parameters := by
  unfold Tree.parameters
  rw [Tree.nodes_eq (Tree.isNode_of_isParameter h)]
  exact List.mem_filter.mpr ⟨List.mem_cons_self, h⟩

/-- An element that stands alone resolves as its sort says, if the numbers in it can be read. -/
theorem resolvesAs_resolveAlone {grammar : Grammar} {tree : Tree} {kind : ValueKind}
    (hkind : tree.valueKind = .ok kind) (hfaults : ∀ cell ∈ tree.nodes, cell.2.numberFault? = none) :
    tree.ResolvesAs grammar kind (resolveAlone grammar tree).outcome := by
  unfold resolveAlone
  rw [hkind]
  cases kind with
  | placeholder =>
    obtain ⟨ordinals, hordinals⟩ := (Tree.exists_ordinals_iff tree).mpr hfaults
    have hself := mem_parameters_self (Tree.isParameter_of_valueKind hkind)
    simp only [hordinals]
    exact resolvesAs_resolveAt hkind fun _ => Tree.exists_lookup_ordinals hordinals hself
  | _ => exact resolvesAs_resolveAt hkind fun h => by cases h

namespace Tree

/-- What resolving an element comes to, alone or at a place among numbered bind parameters. -/
inductive IsResolution (grammar : Grammar) (tree : Tree) : Logged Failure Value → Prop
  | alone : IsResolution grammar tree (resolveAlone grammar tree)
  | among (ordinals : Ordinals) (place : Place) :
      IsResolution grammar tree (resolveAt grammar ordinals place tree)

variable {grammar : Grammar} {tree : Tree} {resolution : Logged Failure Value}

/-- A constant resolves to what it stands for, whatever stands around it. -/
theorem IsResolution.of_literal (h : tree.IsResolution grammar resolution)
    (hkind : tree.valueKind = .ok .literal) :
    resolution = .ofExcept ((tree.constant.map .literal).mapError .conversion) := by
  have hplaced (ordinals : Ordinals) (place : Place) :
      resolveAt grammar ordinals place tree =
        .ofExcept ((tree.constant.map .literal).mapError .conversion) := by
    unfold resolveAt
    rw [hkind]
    cases tree.constant <;> rfl
  cases h with
  | among ordinals place => exact hplaced ordinals place
  | alone =>
    unfold resolveAlone
    rw [hkind]
    exact hplaced [] []

/-- An expression resolves to its text, whatever stands around it. -/
theorem IsResolution.of_expression (h : tree.IsResolution grammar resolution)
    (hkind : tree.valueKind = .ok .expression) :
    resolution = .ok (.expression (tree.sql grammar) tree.className) := by
  have hplaced (ordinals : Ordinals) (place : Place) :
      resolveAt grammar ordinals place tree = .ok (.expression (tree.sql grammar) tree.className) := by
    unfold resolveAt
    rw [hkind]
  cases h with
  | among ordinals place => exact hplaced ordinals place
  | alone =>
    unfold resolveAlone
    rw [hkind]
    exact hplaced [] []

end Tree

/-- The sort and the value of an element agree, whether it stands alone or is numbered with others: the
value is what the sort says, and exactly an element without a sort is refused as not recognized. -/
theorem resolution_agrees_with_sort (grammar : Grammar) {root tree : Tree} {place : Place}
    (hnode : (place, tree) ∈ root.nodes) (hnumbers : ∀ cell ∈ root.nodes, cell.2.numberFault? = none) :
    ∃ kind ordinals, tree.valueKind = .ok kind ∧ root.ordinals = .ok ordinals ∧
      ∀ outcome, outcome = (resolveAlone grammar tree).outcome ∨
          outcome = (resolveAt grammar ordinals place tree).outcome →
        tree.ResolvesAs grammar kind outcome ∧
          (∀ value, outcome = .ok value → value.kind = kind) ∧
          ∀ error, outcome = .error (.recognition error) ↔
            kind = .unrecognized ∧ error = .unrecognized tree .values := by
  obtain ⟨ordinals, hordinals⟩ := (Tree.exists_ordinals_iff root).mpr hnumbers
  obtain ⟨kind, hkind⟩ := Tree.exists_valueKind (hnumbers _ hnode)
  refine ⟨kind, ordinals, hkind, hordinals, fun outcome houtcome => ?_⟩
  have hresolves : tree.ResolvesAs grammar kind outcome := by
    rcases houtcome with rfl | rfl
    · refine resolvesAs_resolveAlone hkind fun cell hcell => ?_
      exact hnumbers (place ++ cell.1, cell.2) (Tree.mem_nodes_trans hnode hcell)
    · refine resolvesAs_resolveAt hkind fun hplaceholder => ?_
      rw [hplaceholder] at hkind
      have hparameter : (place, tree) ∈ root.parameters :=
        List.mem_filter.mpr ⟨hnode, Tree.isParameter_of_valueKind hkind⟩
      exact Tree.exists_lookup_ordinals hordinals hparameter
  exact ⟨hresolves, fun _ => hresolves.kind_eq, hresolves.refused_iff⟩

/-- A date given as a text. -/
def dateCast : Tree :=
  .cast (.textLiteral "2024-01-02") (.dataType "DATE" [])

/-- A numbered bind parameter beside a date. -/
def dateTuple : Tree :=
  .tuple [.bare .placeholder [("this", .text "2")], dateCast]

/-- The second element of a tuple is a constant behind a numbered bind parameter. -/
theorem resolution_agrees_with_sort_date :
    ([⟨0, some 1⟩], dateCast) ∈ dateTuple.nodes ∧ (∀ cell ∈ dateTuple.nodes, cell.2.numberFault? = none) ∧
      ∃ kind ordinals, dateCast.valueKind = .ok kind ∧ dateTuple.ordinals = .ok ordinals ∧
        ∀ outcome, outcome = (resolveAlone .mysql dateCast).outcome ∨
            outcome = (resolveAt .mysql ordinals [⟨0, some 1⟩] dateCast).outcome →
          dateCast.ResolvesAs .mysql kind outcome ∧
            (∀ value, outcome = .ok value → value.kind = kind) ∧
            ∀ error, outcome = .error (.recognition error) ↔
              kind = .unrecognized ∧ error = .unrecognized dateCast .values := by
  have hnode : ([⟨0, some 1⟩], dateCast) ∈ dateTuple.nodes :=
    List.mem_cons_of_mem _ (List.mem_cons_of_mem _ List.mem_cons_self)
  have hnumbers : ∀ cell ∈ dateTuple.nodes, cell.2.numberFault? = none := by decide
  exact ⟨hnode, hnumbers, resolution_agrees_with_sort .mysql hnode hnumbers⟩

end SqlInsert
