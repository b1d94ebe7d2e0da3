import SqlInsert.Proofs.PlainText
/-!
# Escaped texts

The escape puts a backslash before every tag and doubles those that stand there already, so that a tag in an
escaped text stands behind an odd number of them and is plain text. No tag comes about that was none before, since
the content of a tag holds no bracket. So every escaped text is shown, with the styles before it still open behind
it, and a text without tags is left as it is.
-/

namespace SqlInsert.Console

open Reading

/-- A text that is shown as it is once it is escaped. A backslash at its end can be doubled. -/
def EscapedKeeps (text : String) : Prop :=
  ∃ slashes, (slashes = [] ∨ slashes = ['\\'] ∧ text.toList.getLast? = some '\\') ∧
    shownMarkup (escapeMarkup text.toList) = .ok (text.toList ++ slashes)

/-! ## The escape step by step -/

/-- There is nothing to escape in an empty text. -/
theorem escapeTags_nil (fuel : Nat) : escapeTags fuel [] = [] := by
  cases fuel <;> rfl

/-- A character that starts neither a tag nor the backslashes before one stays. -/
theorem escapeTags_plain (fuel : Nat) {c : Char} {rest : List Char} (h : tagAt? (c :: rest) = none) :
    escapeTags (fuel + 1) (c :: rest) = c :: escapeTags fuel rest := by
  rw [escapeTags, h]

/-- A tag gets a backslash, and the backslashes before it are doubled. -/
theorem escapeTags_tag (fuel : Nat) {c : Char} {rest : List Char} {found : TagMatch}
    (h : tagAt? (c :: rest) = some found) :
    escapeTags (fuel + 1) (c :: rest) =
      List.replicate (2 * found.backslashes + 1) '\\' ++
        ('[' :: found.content ++ ']' :: escapeTags fuel found.rest) := by
  rw [escapeTags, h]

/-- At most a backslash is put behind an escaped text, if there is one at its end. -/
theorem exists_escapeMarkup_eq (text : List Char) :
    ∃ slashes, (slashes = [] ∨ slashes = ['\\'] ∧ (escapeTags text.length text).getLast? = some '\\') ∧
      escapeMarkup text = escapeTags text.length text ++ slashes := by
  unfold escapeMarkup
  simp only
  split
  · exact ⟨[], .inl rfl, (List.append_nil _).symm⟩
  · rename_i hend
    refine ⟨['\\'], .inr ⟨rfl, ?_⟩, rfl⟩
    rw [← List.head?_reverse, hend]
    rfl
  · exact ⟨[], .inl rfl, (List.append_nil _).symm⟩

/-! ## Tags in an escaped text -/

/-- A tag is the same whatever follows it. -/
theorem tagContent?_of_tag {text content after : List Char} (h : tagContent? text = some (content, after))
    (other : List Char) : tagContent? ('[' :: content ++ ']' :: other) = some (content, other) := by
  have hclose : ']' ∈ '[' :: content ++ [']'] := List.mem_append_right _ List.mem_cons_self
  have hsplit : ∀ rest, '[' :: content ++ ']' :: rest = ('[' :: content ++ [']']) ++ rest :=
    fun rest => by rw [List.append_assoc, List.singleton_append]
  rw [(tagContent?_eq_some h).1, hsplit, tagContent?_append_of_close hclose] at h
  obtain ⟨⟨inner, behind⟩, hinner, hsame⟩ := Option.map_eq_some_iff.mp h
  obtain ⟨rfl, hbehind⟩ := Prod.mk.inj hsame
  have hnothing : behind = [] := List.append_left_eq_self.mp hbehind
  rw [hsplit, tagContent?_append_of_close hclose, hinner, hnothing]
  rfl

/-- A tag is found behind as many backslashes as are put before it. -/
theorem tagAt?_of_tag {text : List Char} {found : TagMatch} (h : tagAt? text = some found) (count : Nat)
    (other : List Char) :
    tagAt? (List.replicate count '\\' ++ ('[' :: found.content ++ ']' :: other)) =
      some ⟨count, found.content, other⟩ := by
  obtain ⟨before, tail, rfl, htail⟩ := exists_eq_backslashes_append text
  rw [tagAt?_backslashes_append before htail] at h
  obtain ⟨⟨content, rest⟩, hcontent, rfl⟩ := Option.map_eq_some_iff.mp h
  have hhead : ('[' :: content ++ ']' :: other).head? ≠ some '\\' := fun hsame => by cases hsame
  rw [tagAt?_backslashes_append count hhead, tagContent?_of_tag hcontent]
  rfl

/-- A backslash in front is one more before the tag, if there is a tag. -/
theorem tagAt?_backslash (text : List Char) :
    tagAt? ('\\' :: text) =
      (tagAt? text).map fun found => ⟨found.backslashes + 1, found.content, found.rest⟩ := by
  obtain ⟨count, tail, rfl, htail⟩ := exists_eq_backslashes_append text
  rw [← List.cons_append, ← List.replicate_succ, tagAt?_backslashes_append (count + 1) htail,
    tagAt?_backslashes_append count htail, Option.map_map]
  rfl

/-- A text that starts with no backslash has the tag that opens at its front. -/
theorem tagAt?_of_ne {c : Char} (h : c ≠ '\\') (rest : List Char) :
    tagAt? (c :: rest) = (tagContent? (c :: rest)).map fun found => ⟨0, found.1, found.2⟩ :=
  tagAt?_backslashes_append 0 (fun hsame => h (Option.some.inj hsame))

/-- Without a closing bracket no tag ends. -/
theorem tagEnd?_eq_none_of_not_mem {text : List Char} (h : ']' ∉ text) : tagEnd? text = none := by
  cases hfound : tagEnd? text with
  | none => rfl
  | some found =>
    rw [(tagEnd?_eq_some hfound).1] at h
    exact absurd (List.mem_append_right _ List.mem_cons_self) h

/-- A bracket opened behind backslashes ends the search for the close of an earlier one. -/
theorem tagEnd?_backslashes_bracket (count : Nat) (rest : List Char) :
    tagEnd? (List.replicate count '\\' ++ '[' :: rest) = none := by
  induction count with
  | zero => rfl
  | succ count ih =>
    rw [List.replicate_succ, List.cons_append, tagEnd?, if_neg (by decide), if_neg (by decide), ih]
    rfl

section

variable {slashes : List Char} (hslashes : ∀ c ∈ slashes, c = '\\')
include hslashes

/-- Where no tag ends in a text, none does in its escaped form. -/
theorem tagEnd?_escapeTags {fuel : Nat} {text : List Char} (hfuel : text.length ≤ fuel) (h : tagEnd? text = none) :
    tagEnd? (escapeTags fuel text ++ slashes) = none := by
  have hnothing : tagEnd? slashes = none :=
    tagEnd?_eq_none_of_not_mem fun hmem => absurd (hslashes _ hmem) (by decide)
  induction fuel generalizing text with
  | zero =>
    rw [List.eq_nil_of_length_eq_zero (Nat.eq_zero_of_le_zero hfuel)]
    exact hnothing
  | succ fuel ih =>
    cases text with
    | nil => exact hnothing
    | cons c rest =>
      cases htag : tagAt? (c :: rest) with
      | some found =>
        rw [escapeTags_tag fuel htag, List.append_assoc]
        exact tagEnd?_backslashes_bracket _ _
      | none =>
        rw [escapeTags_plain fuel htag, List.cons_append]
        rw [tagEnd?] at h ⊢
        split_ifs at h ⊢
        · rfl
        · rw [Option.map_eq_none_iff] at h ⊢
          exact ih (Nat.le_of_succ_le_succ hfuel) h

/-- A bracket that opens no tag opens none in front of the escaped form either. -/
theorem tagContent?_bracket_escapeTags {fuel : Nat} {rest : List Char} (hfuel : rest.length ≤ fuel)
    (h : tagContent? ('[' :: rest) = none) : tagContent? ('[' :: (escapeTags fuel rest ++ slashes)) = none := by
  have hother : ∀ {c : Char} (others : List Char), startsTag c = false → tagContent? ('[' :: c :: others) = none :=
    fun others hstart => by rw [tagContent?, if_neg (by rw [hstart]; exact Bool.false_ne_true)]
  cases rest with
  | nil =>
    rw [escapeTags_nil, List.nil_append]
    cases slashes with
    | nil => rfl
    | cons c others => exact hother others (by rw [hslashes c List.mem_cons_self]; rfl)
  | cons first more =>
    cases fuel with
    | zero => cases hfuel
    | succ fuel =>
      cases htag : tagAt? (first :: more) with
      | some found =>
        -- Backslashes come to stand behind the bracket.
        rw [escapeTags_tag fuel htag, List.replicate_succ]
        exact hother _ rfl
      | none =>
        rw [escapeTags_plain fuel htag, List.cons_append]
        cases hstart : startsTag first with
        | false => exact hother _ hstart
        | true =>
          rw [tagContent?, if_pos hstart, Option.map_eq_none_iff] at h ⊢
          exact tagEnd?_escapeTags hslashes (Nat.le_of_succ_le_succ hfuel) h

/-- A text with no tag at its front has none there in its escaped form. -/
theorem tagAt?_escapeTags {fuel : Nat} {text : List Char} (hfuel : text.length ≤ fuel) (h : tagAt? text = none) :
    tagAt? (escapeTags fuel text ++ slashes) = none := by
  induction text generalizing fuel with
  | nil =>
    rw [escapeTags_nil, List.nil_append]
    exact tagAt?_eq_none fun hmem => absurd (hslashes _ hmem) (by decide)
  | cons c rest ih =>
    cases fuel with
    | zero => cases hfuel
    | succ fuel =>
      have hrest : rest.length ≤ fuel := Nat.le_of_succ_le_succ hfuel
      rw [escapeTags_plain fuel h, List.cons_append]
      by_cases hslash : c = '\\'
      · subst hslash
        rw [tagAt?_backslash, Option.map_eq_none_iff] at h ⊢
        exact ih hrest h
      · rw [tagAt?_of_ne hslash, Option.map_eq_none_iff] at h ⊢
        by_cases hopen : c = '['
        · subst hopen
          exact tagContent?_bracket_escapeTags hslashes hrest h
        · exact tagContent?_of_ne hopen _

end

/-! ## Escaped texts are shown -/

/-- A tag behind an odd number of backslashes is plain text. -/
theorem exists_readTag_odd (opened : List String) (pairs : Nat) (content : List Char) :
    ∃ shown, readTag opened (2 * pairs + 1) content = some (shown, opened) := by
  obtain ⟨slashes, hslashes, -⟩ := exists_readPieces_backslashes opened ((2 * pairs + 1) / 2)
  unfold readTag tagPieces
  simp only
  rw [if_pos (Nat.mul_add_mod 2 pairs 1), readPieces_append, hslashes]
  exact ⟨_, rfl⟩

/-- An escaped text is shown, with the styles open behind it that are open before it. -/
theorem exists_readFrom_escapeTags {fuel : Nat} {text slashes : List Char} (hslashes : ∀ c ∈ slashes, c = '\\')
    (hfuel : text.length ≤ fuel) (opened : List String) (reversed : List Char) :
    ∃ shown, readFrom opened reversed (escapeTags fuel text ++ slashes) = some (shown, opened) := by
  -- The plain characters collected before the position vary, since a tag takes them away.
  have hend : ∀ reversed, ∃ shown, readFrom opened reversed slashes = some (shown, opened) := fun reversed =>
    ⟨_, readFrom_of_no_tag opened reversed fun suffix hsuffix =>
      tagAt?_eq_none fun hmem => absurd (hslashes _ (hsuffix.mem hmem)) (by decide)⟩
  induction fuel generalizing text reversed with
  | zero =>
    rw [List.eq_nil_of_length_eq_zero (Nat.eq_zero_of_le_zero hfuel)]
    exact hend reversed
  | succ fuel ih =>
    cases text with
    | nil => exact hend reversed
    | cons c rest =>
      cases htag : tagAt? (c :: rest) with
      | none =>
        have hplain := tagAt?_escapeTags hslashes hfuel htag
        rw [escapeTags_plain fuel htag, List.cons_append] at hplain ⊢
        rw [readFrom_plain opened reversed hplain]
        exact ih (Nat.le_of_succ_le_succ hfuel) (c :: reversed)
      | some found =>
        have hshorter := Nat.le_of_lt_succ ((length_rest_lt htag).trans_le hfuel)
        obtain ⟨inner, hinner⟩ := exists_readTag_odd opened found.backslashes found.content
        obtain ⟨behind, hbehind⟩ := ih hshorter []
        rw [escapeTags_tag fuel htag, List.append_assoc, List.append_assoc, @List.cons_append _ ']',
          readFrom_tag opened reversed (tagAt?_of_tag htag _ _)]
        simp only [followedBy, Option.bind_some, hinner, hbehind]
        exact ⟨_, rfl⟩

/-- An escaped text is shown. -/
theorem exists_shownMarkup_escapeMarkup (text : List Char) : ∃ chars, shownMarkup (escapeMarkup text) = .ok chars := by
  obtain ⟨slashes, hslashes, hescaped⟩ := exists_escapeMarkup_eq text
  have hall : ∀ c ∈ slashes, c = '\\' := by
    rcases hslashes with rfl | ⟨rfl, _⟩
    · exact List.forall_mem_nil _
    · exact List.forall_mem_singleton.mpr rfl
  obtain ⟨shown, hshown⟩ := exists_readFrom_escapeTags hall (Nat.le_refl text.length) [] []
  rw [hescaped]
  exact ⟨shown, shownMarkup_eq_ok_iff.mpr ⟨[], hshown⟩⟩

/-! ## Escaping what is shown as it is -/

/-- A text without tags is its own escaped form. -/
theorem escapeTags_of_no_tag {text : List Char} (h : ∀ suffix, suffix <:+ text → tagAt? suffix = none) (fuel : Nat) :
    escapeTags fuel text = text := by
  induction text generalizing fuel with
  | nil => exact escapeTags_nil fuel
  | cons c rest ih =>
    cases fuel with
    | zero => rfl
    | succ fuel =>
      rw [escapeTags_plain fuel (h _ (List.suffix_refl _)),
        ih (fun suffix hsuffix => h suffix (hsuffix.trans (List.suffix_cons c rest))) fuel]

/-- A backslash is shown as it is where no bracket follows. -/
theorem asIs_backslash : AsIs ['\\'] := by
  refine ⟨fun suffix hsuffix => ?_, rfl, ?_, List.forall_mem_singleton.mpr rfl⟩
  · rcases List.suffix_cons_iff.mp hsuffix with rfl | hnil
    · rfl
    · rw [List.suffix_nil.mp hnil]
      rfl
  · rw [replaceEmoji, if_neg (by decide), replaceEmoji]

/-- A text that is shown as it is is shown so behind the escape. -/
theorem AsIs.escapedKeeps {text : String} (h : AsIs text.toList) : EscapedKeeps text := by
  obtain ⟨slashes, hslashes, hescaped⟩ := exists_escapeMarkup_eq text.toList
  rw [escapeTags_of_no_tag fun suffix hsuffix => h.tagAt?_eq_none hsuffix] at hslashes hescaped
  refine ⟨slashes, hslashes, ?_⟩
  rw [hescaped, shownMarkup_eq_self_iff]
  rcases hslashes with rfl | ⟨rfl, _⟩
  · rwa [List.append_nil]
  · exact h.append asIs_backslash (fun hopen => by cases hopen) rfl rfl

end SqlInsert.Console
