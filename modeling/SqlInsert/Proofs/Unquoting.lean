import SqlInsert.Proofs.Names
import SqlInsert.Proofs.Files
/-!
# Names without their quotes

A quoted name is written between quotes with the quotes in it doubled. Its quotes are taken off piece by
piece between the points, and nothing undoes the doubling. So a quoted name comes back exactly if every piece
of it, with the quotes around the name, is free of quotes or stands between the only two that it has; a name
of plain characters always comes back.
-/

namespace SqlInsert

/-! ## Pieces of a name -/

/-- Splitting keeps to the library's splitting by a predicate. -/
theorem Text.splitAt_eq_splitOnP (isSeparator : Char → Bool) (text : List Char) :
    splitAt isSeparator text = text.splitOnP isSeparator := by
  induction text with
  | nil => rfl
  | cons c text ih =>
    obtain ⟨part, parts, hparts⟩ := List.exists_cons_of_ne_nil (splitAt_ne_nil isSeparator text)
    rw [splitAt, List.splitOnP_cons_eq_if_modifyHead, ← ih, hparts]
    rfl

namespace Render

/-- Doubling brings no new characters in. -/
theorem mem_of_mem_doubled {quote c : Char} {text : List Char} (h : c ∈ doubled quote text) : c ∈ text := by
  obtain ⟨d, hd, hc⟩ := List.mem_flatMap.mp h
  split at hc <;> simp_all

/-- There is nothing to double in an empty text. -/
@[simp] theorem doubled_nil (quote : Char) : doubled quote [] = [] := rfl

/-- A text is doubled part by part. -/
theorem doubled_append (quote : Char) (front rest : List Char) :
    doubled quote (front ++ rest) = doubled quote front ++ doubled quote rest :=
  List.flatMap_append

/-- The quote is written twice and every other character once. -/
theorem doubled_cons (quote c : Char) (text : List Char) :
    doubled quote (c :: text) = (if c = quote then [c, c] else [c]) ++ doubled quote text :=
  List.flatMap_cons

/-- Without the quote nothing is doubled. -/
theorem doubled_of_not_mem {quote : Char} {text : List Char} (h : quote ∉ text) : doubled quote text = text := by
  induction text with
  | nil => rfl
  | cons c text ih =>
    rw [List.mem_cons, not_or] at h
    rw [doubled_cons, if_neg (Ne.symm h.1), ih h.2]
    rfl

/-- The quote stands twice as often in the doubled text. -/
theorem count_doubled (quote : Char) (text : List Char) :
    (doubled quote text).count quote = 2 * text.count quote := by
  induction text with
  | nil => rfl
  | cons c text ih =>
    rw [doubled_cons, List.count_append, ih, List.count_cons]
    by_cases hc : c = quote
    · simp only [hc, if_true, List.count_cons_self, List.count_nil, beq_self_eq_true]
      omega
    · simp [hc]

/-- Doubling keeps the first character. -/
theorem head?_doubled (quote : Char) (text : List Char) : (doubled quote text).head? = text.head? := by
  cases text with
  | nil => rfl
  | cons c text =>
    rw [doubled_cons]
    split <;> rfl

/-- Doubling keeps the last character. -/
theorem getLast?_doubled (quote : Char) (text : List Char) : (doubled quote text).getLast? = text.getLast? := by
  rcases List.eq_nil_or_concat' text with rfl | ⟨front, c, rfl⟩
  · rfl
  · rw [doubled_append, doubled_cons]
    split <;> simp

end Render

/-- A piece of a name is whole if it is free of quotes or stands between its only two. -/
def IsWholePiece (quote : Char) (piece : List Char) : Prop :=
  quote ∉ piece ∨ piece.count quote = 2 ∧ piece.head? = some quote ∧ piece.getLast? = some quote

instance (quote : Char) (piece : List Char) : Decidable (IsWholePiece quote piece) :=
  inferInstanceAs (Decidable (_ ∨ _))

/-- A text of two characters or more that starts and ends with a quote. -/
theorem exists_inner_iff {quote : Char} {piece : List Char} :
    (∃ inner, piece = quote :: (inner ++ [quote])) ↔
      2 ≤ piece.length ∧ piece.head? = some quote ∧ piece.getLast? = some quote := by
  constructor
  · rintro ⟨inner, rfl⟩
    refine ⟨by simp, rfl, ?_⟩
    rw [← List.cons_append, List.getLast?_concat]
  · rintro ⟨hlength, hhead, hlast⟩
    cases piece with
    | nil => cases hhead
    | cons c rest =>
      cases hhead
      rcases List.eq_nil_or_concat' rest with rfl | ⟨inner, d, rfl⟩
      · simp at hlength
      · rw [← List.cons_append, List.getLast?_concat] at hlast
        cases hlast
        exact ⟨inner, rfl⟩

/-- The quotes around a piece are taken off. -/
theorem unescapedPart_enclosed (quote : Char) (inner : List Char) :
    unescapedPart [quote] (quote :: (inner ++ [quote])) = inner := by
  have hnil : inner ++ [quote] ≠ [] := List.append_ne_nil_of_right_ne_nil inner (List.cons_ne_nil quote [])
  obtain ⟨c, rest, hcons⟩ := List.exists_cons_of_ne_nil hnil
  rw [hcons, unescapedPart]
  rw [← hcons]
  simp

/-- A piece that is not between quotes stays. -/
theorem unescapedPart_of_not {quote : Char} {piece : List Char}
    (h : ¬∃ inner, piece = quote :: (inner ++ [quote])) : unescapedPart [quote] piece = piece := by
  unfold unescapedPart
  split
  · rename_i first second rest
    rw [if_neg]
    intro hquotes
    simp only [Bool.and_eq_true, List.contains_cons, List.contains_nil, Bool.or_false, beq_iff_eq] at hquotes
    obtain ⟨rfl, hlast⟩ := hquotes
    refine h (exists_inner_iff.mpr ⟨by simp, rfl, ?_⟩)
    rw [List.getLast?_cons_cons]
    exact hlast
  · rfl

/-- A piece of a name with its quotes doubled comes back, with or without a quote of the name around it, exactly
if it is whole. -/
theorem unescapedPart_doubled_iff {quote : Char} {before piece after : List Char}
    (hbefore : before = [] ∨ before = [quote]) (hafter : after = [] ∨ after = [quote]) :
    unescapedPart [quote] (before ++ Render.doubled quote piece ++ after) = piece ↔
      IsWholePiece quote (before ++ piece ++ after) := by
  have hhead : (before ++ Render.doubled quote piece ++ after).head? = (before ++ piece ++ after).head? := by
    simp only [List.head?_append, Render.head?_doubled]
  have hlast : (before ++ Render.doubled quote piece ++ after).getLast? = (before ++ piece ++ after).getLast? := by
    simp only [List.getLast?_append, Render.getLast?_doubled]
  have hcount : (before ++ Render.doubled quote piece ++ after).count quote =
      (before ++ piece ++ after).count quote + piece.count quote := by
    simp only [List.count_append, Render.count_doubled]
    omega
  unfold IsWholePiece
  constructor
  · intro h
    -- Quotes are taken away only around a piece. Where they are, two of them are left out of the count; else none is.
    by_cases henclosed : ∃ inner, before ++ Render.doubled quote piece ++ after = quote :: (inner ++ [quote])
    · obtain ⟨inner, hinner⟩ := henclosed
      have hquotes := exists_inner_iff.mp ⟨inner, hinner⟩
      rw [hinner, unescapedPart_enclosed] at h
      subst h
      rw [hinner, List.count_cons_self, List.count_append, List.count_singleton_self] at hcount
      rw [hhead, hlast] at hquotes
      exact .inr ⟨by omega, hquotes.2⟩
    · rw [unescapedPart_of_not henclosed] at h
      rw [h] at hcount
      exact .inl (List.count_eq_zero.mp (by omega))
  · rintro (hfree | ⟨htwo, hfirst, hend⟩)
    · simp only [List.mem_append, not_or] at hfree
      obtain ⟨⟨hb, hp⟩, ha⟩ := hfree
      obtain rfl : before = [] := hbefore.resolve_right (by rintro rfl; simp at hb)
      obtain rfl : after = [] := hafter.resolve_right (by rintro rfl; simp at ha)
      rw [Render.doubled_of_not_mem hp, List.nil_append, List.append_nil]
      refine unescapedPart_of_not ?_
      rintro ⟨inner, rfl⟩
      simp at hp
    · have hlength := List.count_le_length (a := quote) (l := before ++ piece ++ after)
      obtain ⟨inner, hinner⟩ := exists_inner_iff.mpr ⟨htwo ▸ hlength, hfirst, hend⟩
      have hfree : quote ∉ inner := by
        rw [hinner, List.count_cons_self, List.count_append, List.count_singleton_self] at htwo
        exact List.count_eq_zero.mp (by omega)
      -- The only two quotes of the piece are its ends, and each of them is one around the name or is doubled.
      have hsame : before ++ Render.doubled quote piece ++ after = quote :: (piece ++ [quote]) := by
        rcases hbefore with rfl | rfl <;> rcases hafter with rfl | rfl
        · obtain rfl : piece = quote :: (inner ++ [quote]) := by simpa using hinner
          simp [Render.doubled_cons, Render.doubled_append, Render.doubled_of_not_mem hfree]
        · obtain rfl : piece = quote :: inner := List.append_cancel_right hinner
          simp [Render.doubled_cons, Render.doubled_of_not_mem hfree]
        · obtain rfl : piece = inner ++ [quote] := by simpa using hinner
          simp [Render.doubled_cons, Render.doubled_append, Render.doubled_of_not_mem hfree]
        · obtain rfl : piece = inner := by simpa using hinner
          simp [Render.doubled_of_not_mem hfree]
      rw [hsame, unescapedPart_enclosed]

/-! ## Whole names -/

/-- A text is one piece, or a piece, a separator and a further text. -/
theorem pieces_induction (separator : Char) {motive : List Char → Prop}
    (single : ∀ piece, separator ∉ piece → motive piece)
    (more : ∀ piece rest, separator ∉ piece → motive rest → motive (piece ++ separator :: rest)) (text : List Char) :
    motive text := by
  by_cases h : separator ∈ text
  · obtain ⟨piece, rest, htext, hpiece⟩ := List.eq_append_cons_of_mem h
    have hless : rest.length < text.length := by
      rw [htext, List.length_append, List.length_cons]
      omega
    rw [htext]
    exact more piece rest hpiece (pieces_induction separator single more rest)
  · exact single text h
termination_by text.length

/-- Without the separator there is one piece. -/
theorem splitOn_of_not_mem {separator : Char} {piece : List Char} (h : separator ∉ piece) :
    piece.splitOn separator = [piece] :=
  List.splitOnP_eq_singleton fun _ hc => beq_eq_false_iff_ne.mpr fun hsame => h (hsame ▸ hc)

/-- A piece ends at the separator behind it. -/
theorem splitOn_append_cons {separator : Char} {piece : List Char} (h : separator ∉ piece) (rest : List Char) :
    (piece ++ separator :: rest).splitOn separator = piece :: rest.splitOn separator := by
  have hsplit : (piece ++ separator :: rest).splitOn separator =
      piece.splitOn separator ++ rest.splitOn separator :=
    List.splitOnP_append_cons piece rest (beq_self_eq_true separator)
  rw [hsplit, splitOn_of_not_mem h]
  rfl

/-- No piece holds the separator. -/
theorem not_mem_of_mem_splitOn {separator : Char} {text : List Char} :
    ∀ piece ∈ text.splitOn separator, separator ∉ piece := by
  induction text using pieces_induction separator with
  | single piece hpiece =>
    rw [splitOn_of_not_mem hpiece]
    exact List.forall_mem_singleton.mpr hpiece
  | more piece rest hpiece ih =>
    rw [splitOn_append_cons hpiece]
    exact List.forall_mem_cons.mpr ⟨hpiece, ih⟩

/-- Unescaping brings no new characters in. -/
theorem mem_of_mem_unescapedPart {escapes : List Char} {c : Char} {piece : List Char}
    (h : c ∈ unescapedPart escapes piece) : c ∈ piece := by
  unfold unescapedPart at h
  split at h
  · split at h
    · exact List.mem_cons_of_mem _ (List.mem_of_mem_dropLast h)
    · exact h
  · exact h

/-- All pieces of a name come back exactly if all of them are whole. -/
theorem map_unescapedPart_iff {quote : Char} (hquote : quote ≠ '.') (name : List Char) :
    ∀ before, before = [] ∨ before = [quote] →
      (((before ++ Render.doubled quote name ++ [quote]).splitOn '.').map (unescapedPart [quote]) =
          name.splitOn '.' ↔
        ∀ piece ∈ (before ++ name ++ [quote]).splitOn '.', IsWholePiece quote piece) := by
  have hdoubled {piece : List Char} (h : '.' ∉ piece) : '.' ∉ Render.doubled quote piece :=
    fun hmem => h (Render.mem_of_mem_doubled hmem)
  have hends {before : List Char} (h : before = [] ∨ before = [quote]) : '.' ∉ before := by
    rcases h with rfl | rfl
    · simp
    · simpa using Ne.symm hquote
  have hquoted : '.' ∉ [quote] := hends (.inr rfl)
  -- The quotes around the name stand at the front of its first piece and behind its last one.
  induction name using pieces_induction '.' with
  | single piece hpiece =>
    intro before hbefore
    have hfree : '.' ∉ before ++ Render.doubled quote piece ++ [quote] := by
      simp only [List.mem_append, hends hbefore, hdoubled hpiece, hquoted, or_self, not_false_eq_true]
    have hfree' : '.' ∉ before ++ piece ++ [quote] := by
      simp only [List.mem_append, hends hbefore, hpiece, hquoted, or_self, not_false_eq_true]
    rw [splitOn_of_not_mem hfree, splitOn_of_not_mem hfree', splitOn_of_not_mem hpiece, List.map_singleton,
      List.forall_mem_singleton, ← unescapedPart_doubled_iff hbefore (.inr rfl)]
    simp
  | more piece rest hpiece ih =>
    intro before hbefore
    have hfree : '.' ∉ before ++ Render.doubled quote piece := by
      simp only [List.mem_append, hends hbefore, hdoubled hpiece, or_self, not_false_eq_true]
    have hfree' : '.' ∉ before ++ piece := by
      simp only [List.mem_append, hends hbefore, hpiece, or_self, not_false_eq_true]
    have hpart : unescapedPart [quote] (before ++ Render.doubled quote piece ++ []) = piece ↔ _ :=
      unescapedPart_doubled_iff hbefore (.inl rfl)
    have hrest := ih [] (.inl rfl)
    rw [Render.doubled_append, Render.doubled_cons, if_neg (Ne.symm hquote)]
    have hshape : before ++ (Render.doubled quote piece ++ (['.'] ++ Render.doubled quote rest)) ++ [quote] =
        (before ++ Render.doubled quote piece) ++ '.' :: ([] ++ Render.doubled quote rest ++ [quote]) := by
      simp
    have hshape' : before ++ (piece ++ '.' :: rest) ++ [quote] =
        (before ++ piece) ++ '.' :: ([] ++ rest ++ [quote]) := by
      simp
    rw [hshape, hshape', splitOn_append_cons hfree, splitOn_append_cons hfree', splitOn_append_cons hpiece,
      List.map_cons, List.cons.injEq, List.forall_mem_cons, hrest]
    rw [List.append_nil, List.append_nil] at hpart
    rw [hpart]

/-- Whether the pieces of a name between its points are whole, with the quotes around the name. -/
def HasWholePieces (quote : Char) (name : String) : Prop :=
  ∀ piece ∈ ([quote] ++ name.toList ++ [quote]).splitOn '.', IsWholePiece quote piece

instance (quote : Char) (name : String) : Decidable (HasWholePieces quote name) :=
  inferInstanceAs (Decidable (∀ _ ∈ _, _))

/-- A name in which neither a point nor a quote stands is one whole piece. -/
theorem hasWholePieces_of_not_mem {quote : Char} {name : String} (hquote : quote ≠ '.')
    (hpoint : '.' ∉ name.toList) (hfree : quote ∉ name.toList) : HasWholePieces quote name := by
  have hpiece : '.' ∉ [quote] ++ name.toList ++ [quote] := by
    simp [hpoint, Ne.symm hquote]
  unfold HasWholePieces IsWholePiece
  rw [splitOn_of_not_mem hpiece, List.forall_mem_singleton]
  refine .inr ⟨?_, rfl, List.getLast?_concat⟩
  simp [List.count_append, List.count_eq_zero.mpr hfree]

/-- A name is what its parts come back to between points exactly if every part of it comes back. -/
theorem unescapedName_eq_iff {quote : Char} {written name : List Char} :
    unescapedName [quote] (String.ofList written) = String.ofList name ↔
      (written.splitOn '.').map (unescapedPart [quote]) = name.splitOn '.' := by
  have hparts : ∀ part ∈ (written.splitOn '.').map (unescapedPart [quote]), '.' ∉ part := by
    intro part hpart hpoint
    obtain ⟨piece, hpiece, rfl⟩ := List.mem_map.mp hpart
    exact not_mem_of_mem_splitOn piece hpiece (mem_of_mem_unescapedPart hpoint)
  have hnil : (written.splitOn '.').map (unescapedPart [quote]) ≠ [] :=
    fun h => List.splitOnP_ne_nil _ _ (List.map_eq_nil_iff.mp h)
  unfold unescapedName
  rw [List.isEmpty_cons, String.toList_ofList, Text.splitAt_eq_splitOnP]
  simp only [Bool.false_eq_true, if_false, String.ofList_inj]
  constructor
  · rintro rfl
    exact (List.splitOn_intercalate '.' hparts hnil).symm
  · intro h
    have hjoined : ['.'].intercalate (name.splitOn '.') = name := List.intercalate_splitOn '.'
    rwa [← h] at hjoined

/-- A quoted name comes back without its quotes exactly if it has whole pieces. -/
theorem unescapedName_enclosed_iff {quote : Char} (hquote : quote ≠ '.') (name : String) :
    unescapedName [quote] (String.ofList (Render.enclosed quote name.toList)) = name ↔
      HasWholePieces quote name := by
  have hpieces := map_unescapedPart_iff hquote name.toList [quote] (.inr rfl)
  rw [← HasWholePieces, ← unescapedName_eq_iff, String.ofList_toList] at hpieces
  exact hpieces

example : ¬HasWholePieces '"' "a.b" ∧ HasWholePieces '"' "a\".\"b" := by decide +kernel

/-- A name of characters that mean nothing in it, as letters, digits and underscores are: it holds no point, no
quote and no blank. -/
def IsPlainName (quote : Char) (name : String) : Prop :=
  ∀ c ∈ name.toList, c ≠ '.' ∧ c ≠ quote ∧ Text.isBlank c = false

/-- A plain name holds neither a point nor the quote. -/
theorem IsPlainName.not_mem {quote : Char} {name : String} (h : IsPlainName quote name) :
    '.' ∉ name.toList ∧ quote ∉ name.toList :=
  ⟨fun hc => (h _ hc).1 rfl, fun hc => (h _ hc).2.1 rfl⟩

/-- A plain name without quotes stays. -/
theorem unescapedName_of_isPlainName {quote : Char} {name : String} (h : IsPlainName quote name) :
    unescapedName [quote] name = name := by
  obtain ⟨hpoint, hquote⟩ := h.not_mem
  have hpart : unescapedPart [quote] name.toList = name.toList := by
    refine unescapedPart_of_not ?_
    rintro ⟨inner, hinner⟩
    rw [hinner] at hquote
    exact hquote List.mem_cons_self
  have hname : unescapedName [quote] (String.ofList name.toList) = String.ofList name.toList := by
    rw [unescapedName_eq_iff, splitOn_of_not_mem hpoint, List.map_singleton, hpart]
  rwa [String.ofList_toList] at hname

end SqlInsert
