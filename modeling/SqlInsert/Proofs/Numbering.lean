import Mathlib
import SqlInsert.Proofs.Outcome
import SqlInsert.Proofs.Preorder
import SqlInsert.Recognition.Resolve
/-!
# The numbering of bind parameters

The bind parameters of a tree are counted in the order in which they are written. A parameter without a
number of its own has its position as its ordinal, one with a number that number less one. Numbering
fails exactly at the first name that looks like a number and is none, and it gives every parameter
its ordinal under the place at which it stands.
-/

namespace SqlInsert

/-- A list in which no key occurs twice finds each of its values under the key. -/
theorem lookup_eq_some_of_mem {α β : Type} [BEq α] [LawfulBEq α] {list : List (α × β)} {key : α} {value : β}
    (hkeys : (list.map Prod.fst).Nodup) (h : (key, value) ∈ list) : list.lookup key = some value := by
  induction list with
  | nil => cases h
  | cons head rest ih =>
    obtain ⟨hhead, hrest⟩ := List.nodup_cons.mp hkeys
    rcases List.mem_cons.mp h with rfl | hmem
    · exact List.lookup_cons_self
    · have hne : key ≠ head.1 := fun heq => hhead (heq ▸ List.mem_map.mpr ⟨_, hmem, rfl⟩)
      rw [List.lookup_cons, beq_eq_false_iff_ne.mpr hne]
      exact ih hrest hmem

namespace Tree

/-- Whether the name of a tree consists of digits. -/
def isNumbered (tree : Tree) : Bool :=
  Text.allDigitLike tree.nameText.toList

/-- Whether the tree is a bind parameter: a placeholder, or a parameter whose name consists of
digits. -/
def isParameter (tree : Tree) : Bool :=
  tree.isA .placeholder || tree.isA .parameter && tree.isNumbered

/-- The bind parameters of a tree with their places, in the order in which they are written. -/
def parameters (root : Tree) : List (Place × Tree) :=
  root.nodes.filter (·.2.isParameter)

/-- The ordinal of the bind parameter in a position. -/
def ordinalAt (position : Nat) (tree : Tree) : Except ConversionError Int :=
  if tree.isNumbered then (integerIn 10 tree.nameText).map (· - 1) else .ok position

/-- Why the number of a bind parameter cannot be read, if it cannot. -/
def numberFault? (tree : Tree) : Option ConversionError :=
  if (tree.isA .placeholder || tree.isA .parameter) && tree.isNumbered then
    match integerIn 10 tree.nameText with
    | .ok _ => none
    | .error error => some error
  else none

/-- A bind parameter is a node. -/
theorem isNode_of_isParameter {tree : Tree} (h : tree.isParameter = true) : tree.isNode = true := by
  cases tree with
  | node kind slots comments => rfl
  | _ => cases h

/-- What tells whether a node is a bind parameter: only the number of a parameter can be at fault. -/
theorem isBound_eq (tree : Tree) :
    tree.isBound =
      if tree.isA .placeholder then .ok true
      else if tree.isParameter then (integerIn 10 tree.nameText).map fun _ => true
      else .ok false := by
  unfold isBound isParameter isNumbered ownNumber?
  cases hplaceholder : tree.isA .placeholder with
  | true => rfl
  | false =>
    cases hparameter : tree.isA .parameter with
    | false => rfl
    | true =>
      cases hdigits : Text.allDigitLike tree.nameText.toList with
      | false => rfl
      | true => cases integerIn 10 tree.nameText <;> rfl

/-- A bind parameter without a fault has an ordinal in every position, and it is recognized as one. -/
theorem isBound_of_numberFault? {tree : Tree} (h : tree.numberFault? = none) :
    tree.isBound = .ok tree.isParameter := by
  rw [isBound_eq]
  unfold numberFault? at h
  unfold isParameter
  cases hplaceholder : tree.isA .placeholder with
  | true => rfl
  | false =>
    cases hparameter : tree.isA .parameter && tree.isNumbered with
    | false => rfl
    | true =>
      simp only [hplaceholder, Bool.false_or, hparameter, if_true] at h
      cases hnumber : integerIn 10 tree.nameText with
      | ok number => rfl
      | error error =>
        rw [hnumber] at h
        cases h

/-- A parameter gets no ordinal exactly for the fault of its own number. -/
theorem ordinalAt_eq_error_iff {tree : Tree} (hparameter : tree.isParameter = true) (position : Nat)
    (error : ConversionError) :
    tree.ordinalAt position = .error error ↔ tree.numberFault? = some error := by
  unfold ordinalAt numberFault?
  unfold isParameter at hparameter
  cases hnumbered : tree.isNumbered with
  | false => simp only [Bool.false_eq_true, if_false, Bool.and_false, reduceCtorEq]
  | true =>
    rw [hnumbered, Bool.and_true] at hparameter
    rw [hparameter]
    cases integerIn 10 tree.nameText <;>
      simp only [Bool.and_self, if_true, Except.map, reduceCtorEq, Except.error.injEq, Option.some.injEq]

/-- Only a bind parameter can be numbered wrongly. -/
theorem numberFault?_of_not_isParameter {tree : Tree} (h : tree.isParameter = false) :
    tree.numberFault? = none := by
  unfold isParameter at h
  unfold numberFault?
  cases hplaceholder : tree.isA .placeholder with
  | true =>
    rw [hplaceholder] at h
    cases h
  | false =>
    rw [hplaceholder, Bool.false_or] at h
    simp only [Bool.false_or, h, Bool.false_eq_true, if_false]

end Tree

/-- The ordinal of the bind parameter in a position under its place. -/
def ordinalEntry (cell : Place × Tree) (position : Nat) : Except ConversionError (Place × Int) :=
  (cell.2.ordinalAt position).map (cell.1, ·)

/-- One step of the numbering: a bind parameter takes its ordinal and advances the position, any other
node is passed over. -/
theorem ordinalsFrom_cons (position : Nat) (cell : Place × Tree) (rest : List (Place × Tree)) :
    ordinalsFrom position (cell :: rest) =
      if cell.2.isParameter then do
        return (← ordinalEntry cell position) :: (← ordinalsFrom (position + 1) rest)
      else ordinalsFrom position rest := by
  obtain ⟨place, tree⟩ := cell
  rw [ordinalsFrom, Tree.isBound_eq]
  cases hparameter : tree.isParameter with
  | false =>
    have hplaceholder : tree.isA .placeholder = false := (Bool.or_eq_false_iff.mp hparameter).1
    simp only [hplaceholder, Bool.false_eq_true, if_false, ok_bind]
  | true =>
    unfold Tree.ownNumber? ordinalEntry Tree.ordinalAt Tree.isNumbered
    cases hplaceholder : tree.isA .placeholder with
    | true =>
      cases hdigits : Text.allDigitLike tree.nameText.toList with
      | false => simp only [if_true, Bool.false_eq_true, if_false, ok_bind]; rfl
      | true =>
        simp only [if_true]
        cases integerIn 10 tree.nameText <;> rfl
    | false =>
      have hdigits : Text.allDigitLike tree.nameText.toList = true := by
        unfold Tree.isParameter Tree.isNumbered at hparameter
        rw [hplaceholder, Bool.false_or] at hparameter
        exact (Bool.and_eq_true_iff.mp hparameter).2
      simp only [hdigits, if_true, Bool.false_eq_true, if_false]
      cases integerIn 10 tree.nameText <;> rfl

/-- The ordinals of nodes in a row are those of the bind parameters among them, position by
position. -/
theorem ordinalsFrom_eq_mapM (position : Nat) (nodes : List (Place × Tree)) :
    ordinalsFrom position nodes =
      ((nodes.filter (·.2.isParameter)).zipIdx position).mapM fun entry => ordinalEntry entry.1 entry.2 := by
  induction nodes generalizing position with
  | nil => rfl
  | cons cell rest ih =>
    rw [ordinalsFrom_cons, List.filter_cons]
    cases hparameter : cell.2.isParameter with
    | false =>
      simp only [Bool.false_eq_true, if_false]
      exact ih position
    | true =>
      simp only [if_true]
      rw [List.zipIdx_cons, List.mapM_cons, ih]

/-- An entry fails exactly for the fault of the number of its parameter. -/
theorem ordinalEntry_eq_error_iff {cell : Place × Tree} (hparameter : cell.2.isParameter = true)
    (position : Nat) (error : ConversionError) :
    ordinalEntry cell position = .error error ↔ cell.2.numberFault? = some error := by
  rw [← Tree.ordinalAt_eq_error_iff hparameter position]
  exact map_eq_error_iff

/-- An entry is made exactly where the number of its parameter has no fault. -/
theorem exists_ordinalEntry_iff {cell : Place × Tree} (hparameter : cell.2.isParameter = true)
    {position : Nat} :
    (∃ entry, ordinalEntry cell position = .ok entry) ↔ cell.2.numberFault? = none := by
  have herror := ordinalEntry_eq_error_iff hparameter position
  constructor
  · rintro ⟨entry, hentry⟩
    cases hfault : cell.2.numberFault? with
    | none => rfl
    | some error =>
      have h := (herror error).mpr hfault
      rw [hentry] at h
      cases h
  · intro hfault
    cases hentry : ordinalEntry cell position with
    | ok entry => exact ⟨entry, rfl⟩
    | error error =>
      have h := (herror error).mp hentry
      rw [hfault] at h
      cases h

/-- Numbering fails with the fault of the first node that has one. -/
theorem ordinalsFrom_eq_error_iff {position : Nat} {nodes : List (Place × Tree)} {error : ConversionError} :
    ordinalsFrom position nodes = .error error ↔
      ∃ cell, IsFirst (fun cell : Place × Tree => cell.2.numberFault? = none) nodes cell ∧
        cell.2.numberFault? = some error := by
  -- The position goes up with every bind parameter and decides nothing about the faults.
  induction nodes generalizing position with
  | nil =>
    constructor
    · intro h
      cases h
    · rintro ⟨cell, hfirst, _⟩
      exact absurd hfirst (not_isFirst_nil _ cell)
  | cons cell rest ih =>
    simp only [ordinalsFrom_cons, isFirst_cons]
    cases hparameter : cell.2.isParameter with
    | false =>
      have hfault := Tree.numberFault?_of_not_isParameter hparameter
      simp only [Bool.false_eq_true, if_false, ih]
      constructor
      · rintro ⟨found, hfound, herror⟩
        exact ⟨found, .inr ⟨hfault, hfound⟩, herror⟩
      · rintro ⟨found, ⟨rfl, hnot⟩ | ⟨_, hfound⟩, herror⟩
        · exact absurd hfault hnot
        · exact ⟨found, hfound, herror⟩
    | true =>
      simp only [if_true, cons_answers_eq_error_iff, ordinalEntry_eq_error_iff hparameter,
        exists_ordinalEntry_iff hparameter, ih]
      constructor
      · rintro (hfault | ⟨hnone, found, hfound, herror⟩)
        · refine ⟨cell, .inl ⟨rfl, fun hnone => ?_⟩, hfault⟩
          rw [hnone] at hfault
          cases hfault
        · exact ⟨found, .inr ⟨hnone, hfound⟩, herror⟩
      · rintro ⟨found, ⟨rfl, _⟩ | ⟨hnone, hfound⟩, herror⟩
        · exact .inl herror
        · exact .inr ⟨hnone, found, hfound, herror⟩

namespace Tree

/-- All ordinals are there exactly when no node has a number that cannot be read. -/
theorem exists_ordinals_iff (root : Tree) :
    (∃ ordinals, root.ordinals = .ok ordinals) ↔ ∀ cell ∈ root.nodes, cell.2.numberFault? = none :=
  exists_ok_iff_of_error_iff (fun _ => ordinalsFrom_eq_error_iff) fun _ => Option.ne_none_iff_exists'.mp

/-- The ordinals belong to the bind parameters, one by one. -/
theorem forall₂_ordinals {root : Tree} {ordinals : Ordinals} (h : root.ordinals = .ok ordinals) :
    List.Forall₂ (fun entry ordinal => entry.1.1 = ordinal.1 ∧ entry.1.2.ordinalAt entry.2 = .ok ordinal.2)
      root.parameters.zipIdx ordinals := by
  unfold Tree.ordinals at h
  rw [ordinalsFrom_eq_mapM, mapM_eq_ok_iff] at h
  refine h.imp fun entry ordinal hentry => ?_
  unfold ordinalEntry at hentry
  cases hordinal : entry.1.2.ordinalAt entry.2 with
  | error error =>
    rw [hordinal] at hentry
    cases hentry
  | ok number =>
    rw [hordinal] at hentry
    cases hentry
    exact ⟨rfl, rfl⟩

/-- The bind parameters stand among the nodes in their order. -/
theorem parameters_sublist_nodes (root : Tree) : root.parameters.Sublist root.nodes :=
  List.filter_sublist

/-- Different bind parameters have different places. -/
theorem parameters_places_nodup (root : Tree) : (root.parameters.map Prod.fst).Nodup :=
  root.places_nodup.sublist (root.parameters_sublist_nodes.map _)

/-- No bind parameter is listed twice. -/
theorem parameters_nodup (root : Tree) : root.parameters.Nodup :=
  List.Nodup.of_map Prod.fst root.parameters_places_nodup

/-- The ordinals are kept at the places of the bind parameters, in their order. -/
theorem ordinals_places {root : Tree} {ordinals : Ordinals} (h : root.ordinals = .ok ordinals) :
    ordinals.map Prod.fst = root.parameters.map Prod.fst := by
  have hplaces : List.Forall₂ (· = ·) ((root.parameters.zipIdx.map Prod.fst).map Prod.fst)
      (ordinals.map Prod.fst) := by
    rw [List.forall₂_map_left_iff, List.forall₂_map_left_iff, List.forall₂_map_right_iff]
    exact (forall₂_ordinals h).imp fun _ _ hentry => hentry.1
  rw [List.forall₂_eq_eq_eq, List.zipIdx_map_fst] at hplaces
  exact hplaces.symm

/-- Every bind parameter is found under its place with the ordinal of its position. -/
theorem lookup_ordinals {root : Tree} {ordinals : Ordinals} (h : root.ordinals = .ok ordinals)
    {position : Nat} {cell : Place × Tree} (hcell : root.parameters[position]? = some cell) :
    ∃ ordinal, cell.2.ordinalAt position = .ok ordinal ∧ ordinals.lookup cell.1 = some ordinal := by
  have hmem : (cell, position) ∈ root.parameters.zipIdx := List.mk_mem_zipIdx_iff_getElem?.mpr hcell
  obtain ⟨⟨place, ordinal⟩, hentry, hplace, hordinal⟩ := exists_answer_of_mem (forall₂_ordinals h) hmem
  refine ⟨ordinal, hordinal, lookup_eq_some_of_mem ?_ ?_⟩
  · rw [ordinals_places h]
    exact root.parameters_places_nodup
  · rw [hplace]
    exact hentry

/-- No bind parameter is missed. -/
theorem exists_lookup_ordinals {root : Tree} {ordinals : Ordinals} (h : root.ordinals = .ok ordinals)
    {cell : Place × Tree} (hcell : cell ∈ root.parameters) :
    ∃ ordinal, ordinals.lookup cell.1 = some ordinal := by
  obtain ⟨position, hposition⟩ := List.getElem?_of_mem hcell
  obtain ⟨ordinal, _, hlookup⟩ := lookup_ordinals h hposition
  exact ⟨ordinal, hlookup⟩

end Tree

end SqlInsert
