import Mathlib
import SqlInsert.Console.Markup
import SqlInsert.Proofs.Outcome
/-!
# Reading text with tags

What a text with tags shows does not depend on where it stands: plain characters are collected up to the
next tag, and a tag only changes which styles are open. So a text in front of a tag is read by itself, and
a tag at the front of a text leaves the rest to be read with other styles open.
-/

namespace SqlInsert.Console

/-! ## Tags -/

/-- A tag ends at the first bracket, which is a closing one. -/
theorem tagEnd?_eq_some {text content after : List Char} (h : tagEnd? text = some (content, after)) :
    text = content ++ ']' :: after ∧ ∀ c ∈ content, c ≠ '[' ∧ c ≠ ']' := by
  induction text generalizing content with
  | nil => cases h
  | cons c rest ih =>
    rw [tagEnd?] at h
    split_ifs at h with hclose hopen
    · cases h
      exact ⟨by rw [hclose]; rfl, List.forall_mem_nil _⟩
    · obtain ⟨⟨inner, behind⟩, hinner, hsame⟩ := Option.map_eq_some_iff.mp h
      cases hsame
      obtain ⟨htext, hplain⟩ := ih hinner
      exact ⟨by rw [htext]; rfl, List.forall_mem_cons.mpr ⟨⟨hopen, hclose⟩, hplain⟩⟩

/-- Text without brackets is the content of the tag that closes behind it. -/
theorem tagEnd?_append_close {content : List Char} (h : ∀ c ∈ content, c ≠ '[' ∧ c ≠ ']') (after : List Char) :
    tagEnd? (content ++ ']' :: after) = some (content, after) := by
  induction content with
  | nil => rfl
  | cons c rest ih =>
    obtain ⟨⟨hopen, hclose⟩, hrest⟩ := List.forall_mem_cons.mp h
    rw [List.cons_append, tagEnd?, if_neg hclose, if_neg hopen, ih hrest]
    rfl

/-- Where no tag ends behind a text, the tags in it end as they do without what follows. -/
theorem tagEnd?_append {tail : List Char} (h : tagEnd? tail = none) (text : List Char) :
    tagEnd? (text ++ tail) = (tagEnd? text).map fun found => (found.1, found.2 ++ tail) := by
  induction text with
  | nil => exact h
  | cons c rest ih =>
    rw [List.cons_append, tagEnd?, tagEnd?, ih]
    split_ifs
    · rfl
    · rfl
    · cases tagEnd? rest <;> rfl

/-- Only an opening bracket opens a tag. -/
theorem tagContent?_of_ne {c : Char} (h : c ≠ '[') (rest : List Char) : tagContent? (c :: rest) = none := by
  unfold tagContent?
  split
  · rename_i hsame
    exact absurd (List.cons.inj hsame).1 h
  · rfl

/-- A character that starts a tag is none that does not. -/
theorem ne_of_startsTag {c other : Char} (h : startsTag c = true) (hother : startsTag other = false) : c ≠ other := by
  rintro rfl
  rw [h] at hother
  cases hother

/-- A tag is its content between brackets, and the content holds none. -/
theorem tagContent?_eq_some {text content after : List Char} (h : tagContent? text = some (content, after)) :
    text = '[' :: content ++ ']' :: after ∧ ∀ c ∈ content, c ≠ '[' ∧ c ≠ ']' := by
  unfold tagContent? at h
  split at h
  · rename_i first rest
    split_ifs at h with hfirst
    obtain ⟨⟨inner, behind⟩, hinner, hsame⟩ := Option.map_eq_some_iff.mp h
    cases hsame
    obtain ⟨hrest, hplain⟩ := tagEnd?_eq_some hinner
    have hbrackets : first ≠ '[' ∧ first ≠ ']' := ⟨ne_of_startsTag hfirst rfl, ne_of_startsTag hfirst rfl⟩
    exact ⟨by rw [hrest]; rfl, List.forall_mem_cons.mpr ⟨hbrackets, hplain⟩⟩
  · cases h

/-- Text that ends no tag changes none that it stands behind. -/
theorem tagContent?_append {tail text : List Char} (h : tagEnd? tail = none) (htext : text ≠ []) :
    tagContent? (text ++ tail) = (tagContent? text).map fun found => (found.1, found.2 ++ tail) := by
  cases text with
  | nil => exact absurd rfl htext
  | cons c rest =>
    by_cases hopen : c = '['
    · subst hopen
      cases rest with
      | nil =>
        -- A single bracket at the end is no tag, since none of its characters would end it.
        cases tail with
        | nil => rfl
        | cons first more =>
          simp only [List.cons_append, List.nil_append, tagContent?]
          split_ifs with hfirst
          · have hbracket : first ≠ ']' ∧ first ≠ '[' := ⟨ne_of_startsTag hfirst rfl, ne_of_startsTag hfirst rfl⟩
            rw [tagEnd?, if_neg hbracket.1, if_neg hbracket.2, Option.map_eq_none_iff] at h
            rw [h]
            rfl
          · rfl
      | cons first more =>
        simp only [List.cons_append, tagContent?, tagEnd?_append h]
        split_ifs
        · cases tagEnd? more <;> rfl
        · rfl
    · rw [List.cons_append, tagContent?_of_ne hopen, tagContent?_of_ne hopen]
      rfl

/-- Where a tag can close, what stands behind the text only gets longer. -/
theorem tagEnd?_append_of_close {text : List Char} (h : ']' ∈ text) (tail : List Char) :
    tagEnd? (text ++ tail) = (tagEnd? text).map fun found => (found.1, found.2 ++ tail) := by
  induction text with
  | nil => cases h
  | cons c rest ih =>
    rw [List.cons_append, tagEnd?, tagEnd?]
    split_ifs with hclose
    · rfl
    · rfl
    · rw [ih ((List.mem_cons.mp h).resolve_left (Ne.symm hclose))]
      cases tagEnd? rest <;> rfl

/-- What follows a closing bracket does not change the tag before it. -/
theorem tagContent?_append_of_close {text : List Char} (h : ']' ∈ text) (tail : List Char) :
    tagContent? (text ++ tail) = (tagContent? text).map fun found => (found.1, found.2 ++ tail) := by
  match text, h with
  | c :: rest, h =>
    by_cases hopen : c = '['
    · subst hopen
      cases rest with
      | nil => exact absurd h (by decide)
      | cons first more =>
        simp only [List.cons_append, tagContent?]
        split_ifs with hfirst
        · have hne : ']' ≠ first := Ne.symm (ne_of_startsTag hfirst rfl)
          have hclose := (List.mem_cons.mp ((List.mem_cons.mp h).resolve_left (by decide))).resolve_left hne
          rw [tagEnd?_append_of_close hclose]
          cases tagEnd? more <;> rfl
        · rfl
    · rw [List.cons_append, tagContent?_of_ne hopen, tagContent?_of_ne hopen]
      rfl

/-- A text that is no tag with something behind it is none by itself. -/
theorem tagContent?_of_append {text tail : List Char} (h : tagContent? (text ++ tail) = none) :
    tagContent? text = none := by
  cases hfound : tagContent? text with
  | none => rfl
  | some found =>
    have hclose : ']' ∈ text := by
      rw [(tagContent?_eq_some hfound).1]
      exact List.mem_append_right _ List.mem_cons_self
    rw [tagContent?_append_of_close hclose, hfound] at h
    cases h

/-- Text without brackets that starts a tag is one between brackets. -/
theorem tagContent?_cons {content : List Char} {first : Char} (hfirst : startsTag first = true)
    (h : ∀ c ∈ content, c ≠ '[' ∧ c ≠ ']') (after : List Char) :
    tagContent? ('[' :: first :: content ++ ']' :: after) = some (first :: content, after) := by
  simp only [List.cons_append, tagContent?, if_pos hfirst, tagEnd?_append_close h]
  rfl

/-- Every text is a run of backslashes and a rest that starts with none. -/
theorem exists_eq_backslashes_append (text : List Char) :
    ∃ count tail, text = List.replicate count '\\' ++ tail ∧ tail.head? ≠ some '\\' := by
  induction text with
  | nil => exact ⟨0, [], rfl, by simp⟩
  | cons c rest ih =>
    by_cases hc : c = '\\'
    · obtain ⟨count, tail, rfl, htail⟩ := ih
      exact ⟨count + 1, tail, by rw [hc]; rfl, htail⟩
    · exact ⟨0, c :: rest, rfl, fun h => hc (Option.some.inj h)⟩

/-- The run of backslashes ends before the rest. -/
theorem takeWhile_backslashes_append (count : Nat) {tail : List Char} (h : tail.head? ≠ some '\\') :
    (List.replicate count '\\' ++ tail).takeWhile (· == '\\') = List.replicate count '\\' := by
  rw [List.takeWhile_append_of_pos fun c hc => beq_iff_eq.mpr (List.mem_replicate.mp hc).2]
  cases tail with
  | nil => simp
  | cons c rest =>
    have hc : (c == '\\') = false := beq_eq_false_iff_ne.mpr fun hsame => h (congrArg some hsame)
    rw [List.takeWhile_cons, hc]
    simp

/-- A tag is found behind the backslashes at the front of a text. -/
theorem tagAt?_backslashes_append (count : Nat) {tail : List Char} (h : tail.head? ≠ some '\\') :
    tagAt? (List.replicate count '\\' ++ tail) =
      (tagContent? tail).map fun found => ⟨count, found.1, found.2⟩ := by
  simp only [tagAt?, takeWhile_backslashes_append count h, List.drop_left]
  rw [List.length_replicate]

/-- A text none of whose ends opens a tag holds no tag. -/
theorem tagAt?_of_suffixes {text : List Char} (h : ∀ suffix, suffix <:+ text → tagContent? suffix = none) :
    tagAt? text = none := by
  obtain ⟨count, tail, rfl, htail⟩ := exists_eq_backslashes_append text
  rw [tagAt?_backslashes_append count htail, h _ (List.suffix_append _ _)]
  rfl

/-- A tag at the very start is found there, with no backslash in front. -/
theorem tagAt?_bracket {content : List Char} {first : Char} (hfirst : startsTag first = true)
    (h : ∀ c ∈ content, c ≠ '[' ∧ c ≠ ']') (after : List Char) :
    tagAt? ('[' :: first :: content ++ ']' :: after) = some ⟨0, first :: content, after⟩ := by
  have hplain := @tagAt?_backslashes_append 0 ('[' :: first :: content ++ ']' :: after) (by simp)
  rw [List.replicate_zero, List.nil_append, tagContent?_cons hfirst h] at hplain
  exact hplain

/-- The text at whose front a tag was found. -/
theorem tagAt?_eq_some {text : List Char} {found : TagMatch} (h : tagAt? text = some found) :
    text = List.replicate found.backslashes '\\' ++ ('[' :: found.content ++ ']' :: found.rest) := by
  obtain ⟨count, tail, rfl, htail⟩ := exists_eq_backslashes_append text
  rw [tagAt?_backslashes_append count htail] at h
  obtain ⟨⟨content, rest⟩, hcontent, rfl⟩ := Option.map_eq_some_iff.mp h
  rw [(tagContent?_eq_some hcontent).1]

/-- Where no tag ends behind a text that does not end in a backslash, the tag at its front is found as it is
without what follows. -/
theorem tagAt?_append {tail text : List Char} (h : tagEnd? tail = none) (htext : text ≠ [])
    (hlast : text.getLast? ≠ some '\\') :
    tagAt? (text ++ tail) = (tagAt? text).map fun found => ⟨found.backslashes, found.content, found.rest ++ tail⟩ := by
  obtain ⟨count, inner, rfl, hinner⟩ := exists_eq_backslashes_append text
  have hne : inner ≠ [] := by
    rintro rfl
    rw [List.append_nil] at htext hlast
    have hcount : count ≠ 0 := fun hzero => htext (by rw [hzero]; rfl)
    rw [List.getLast?_replicate, if_neg hcount] at hlast
    exact hlast rfl
  have hhead : (inner ++ tail).head? ≠ some '\\' := by
    rw [List.head?_append_of_ne_nil _ hne]
    exact hinner
  rw [List.append_assoc, tagAt?_backslashes_append count hhead, tagAt?_backslashes_append count hinner,
    tagContent?_append h hne]
  cases tagContent? inner <;> rfl

/-! ## Reading pieces -/

/-- What is shown, and the styles that are open behind it; nothing where a tag closes what is not open. -/
abbrev Reading := Option (List Char × List String)

/-- What is shown of two texts in a row, the second with the styles that are open behind the first. -/
def Reading.followedBy (first : Reading) (second : List String → Reading) : Reading :=
  first.bind fun shown => (second shown.2).map fun behind => (shown.1 ++ behind.1, behind.2)

namespace Reading

/-- A reading that fails is not followed. -/
theorem followedBy_none (second : List String → Reading) : followedBy none second = none := rfl

/-- A reading that shows nothing hands its styles on. -/
theorem nil_followedBy (opened : List String) (second : List String → Reading) :
    followedBy (some ([], opened)) second = second opened := by
  cases h : second opened <;> simp [followedBy, h]

/-- A reading followed by nothing is itself. -/
theorem followedBy_nil (first : Reading) : first.followedBy (fun styles => some ([], styles)) = first := by
  cases first <;> simp [followedBy]

/-- Readings follow one another in any grouping. -/
theorem followedBy_assoc (first : Reading) (second third : List String → Reading) :
    (first.followedBy second).followedBy third =
      first.followedBy fun styles => (second styles).followedBy third := by
  cases first with
  | none => rfl
  | some shown =>
    cases hsecond : second shown.2 with
    | none => simp [followedBy, hsecond]
    | some mid => cases hthird : third mid.2 <;> simp [followedBy, hsecond, hthird]

/-- Two readings in sequence show the first text and then the second, over the styles between them. -/
theorem followedBy_eq_some {first : Reading} {second : List String → Reading} {shown : List Char}
    {styles : List String} (h : first.followedBy second = some (shown, styles)) :
    ∃ before mid after, first = some (before, mid) ∧ second mid = some (after, styles) ∧ shown = before ++ after := by
  obtain ⟨⟨before, mid⟩, hfirst, hrest⟩ := Option.bind_eq_some_iff.mp h
  obtain ⟨⟨after, behind⟩, hsecond, hsame⟩ := Option.map_eq_some_iff.mp hrest
  cases hsame
  exact ⟨before, mid, after, hfirst, hsecond, rfl⟩

end Reading

open Reading

/-- The styles that are open behind a tag; nothing where it closes what is not open. -/
def stylesBehind? (opened : List String) (content : List Char) : Option (List String) :=
  match tagName content with
  | '/' :: name =>
    if Text.trim (String.ofList name) = "" then
      match opened with
      | [] => none
      | _ :: others => some others
    else closeStyle? (styleName (String.ofList name)) opened
  | name => some (styleName (String.ofList name) :: opened)

/-- What pieces show. -/
def readPieces (opened : List String) : List Piece → Reading
  | [] => some ([], opened)
  | .plain text :: rest => followedBy (some (shownChars (unescapeBrackets text), opened)) (readPieces · rest)
  | .tag _ content :: rest => (stylesBehind? opened content).bind (readPieces · rest)

/-- Plain text is shown in front of what the pieces behind it show. -/
theorem showPieces_plain (opened : List String) (text : List Char) (rest : List Piece) :
    showPieces opened (.plain text :: rest) = (showPieces opened rest).map (shownChars (unescapeBrackets text) ++ ·) :=
  rfl

/-- A tag is passed if it closes only what is open. -/
theorem showPieces_tag (opened : List String) (position : Nat) (content : List Char) (rest : List Piece) :
    (∃ styles, stylesBehind? opened content = some styles ∧
      showPieces opened (.tag position content :: rest) = showPieces styles rest) ∨
    stylesBehind? opened content = none ∧
      ∃ error, showPieces opened (.tag position content :: rest) = .error error := by
  rw [showPieces.eq_def, stylesBehind?.eq_def]
  simp only
  generalize tagName content = name
  cases name with
  | nil => exact .inl ⟨_, rfl, rfl⟩
  | cons c name =>
    by_cases hc : c = '/'
    · subst hc
      simp only
      split_ifs
      · cases opened with
        | nil => exact .inr ⟨rfl, _, rfl⟩
        | cons last others => exact .inl ⟨others, rfl, rfl⟩
      · cases closeStyle? (styleName (String.ofList name)) opened with
        | none => exact .inr ⟨rfl, _, rfl⟩
        | some others => exact .inl ⟨others, rfl, rfl⟩
    · refine .inl ⟨styleName (String.ofList (c :: name)) :: opened, ?_, ?_⟩ <;>
      · split
        · rename_i hname
          exact absurd (List.cons.inj hname).1 hc
        · rfl

/-- Pieces are shown exactly if they close only what is open. -/
theorem showPieces_eq_ok_iff {opened : List String} {pieces : List Piece} {shown : List Char} :
    showPieces opened pieces = .ok shown ↔ ∃ styles, readPieces opened pieces = some (shown, styles) := by
  -- The styles that are open vary with the pieces in front.
  induction pieces generalizing opened shown with
  | nil =>
    constructor
    · intro h
      cases h
      exact ⟨opened, rfl⟩
    · rintro ⟨styles, h⟩
      cases h
      rfl
  | cons piece rest ih =>
    cases piece with
    | plain text =>
      rw [showPieces_plain, readPieces]
      constructor
      · intro h
        cases hrest : showPieces opened rest with
        | error error =>
          rw [hrest] at h
          cases h
        | ok others =>
          rw [hrest] at h
          cases h
          obtain ⟨styles, hstyles⟩ := ih.mp hrest
          exact ⟨styles, by rw [followedBy, Option.bind_some, hstyles]; rfl⟩
      · rintro ⟨styles, h⟩
        obtain ⟨_, _, others, hplain, hrest, rfl⟩ := followedBy_eq_some h
        cases hplain
        rw [ih.mpr ⟨styles, hrest⟩]
        rfl
    | tag position content =>
      rw [readPieces]
      rcases showPieces_tag opened position content rest with ⟨styles, hstyles, hshow⟩ | ⟨hstyles, error, hshow⟩
      · rw [hshow, hstyles]
        exact ih
      · rw [hshow, hstyles]
        simp

/-- Pieces are read in sequence, over the styles that stay open. -/
theorem readPieces_append (opened : List String) (first second : List Piece) :
    readPieces opened (first ++ second) = (readPieces opened first).followedBy (readPieces · second) := by
  induction first generalizing opened with
  | nil => exact (nil_followedBy opened fun styles => readPieces styles second).symm
  | cons piece rest ih =>
    cases piece with
    | plain text => simp only [List.cons_append, readPieces, ih, followedBy_assoc]
    | tag position content =>
      simp only [List.cons_append, readPieces, ih]
      cases stylesBehind? opened content <;> rfl

/-- Plain characters, kept in reverse, as they are shown. -/
def plainShown (reversed : List Char) : List Char :=
  shownChars (unescapeBrackets reversed.reverse)

/-- An empty run of plain text shows nothing. -/
theorem plainShown_nil : plainShown [] = [] := by
  rw [plainShown, shownChars, List.reverse_nil, unescapeBrackets, replaceEmoji]
  rfl

/-- The plain text collected so far is read before the pieces behind it. -/
theorem readPieces_plainBefore (opened : List String) (reversed : List Char) (pieces : List Piece) :
    readPieces opened (plainBefore reversed pieces) =
      followedBy (some (plainShown reversed, opened)) (readPieces · pieces) := by
  cases reversed with
  | nil =>
    rw [plainShown_nil, nil_followedBy]
    rfl
  | cons c rest => rfl

/-- What the backslashes before a tag and the tag itself show. -/
def readTag (opened : List String) (backslashes : Nat) (content : List Char) : Reading :=
  readPieces opened (tagPieces 0 ⟨backslashes, content, []⟩)

/-- A position tells only where a tag is that closes what is not open. -/
theorem readPieces_tagPieces (opened : List String) (position : Nat) (found : TagMatch) :
    readPieces opened (tagPieces position found) = readTag opened found.backslashes found.content := by
  unfold readTag tagPieces
  simp only
  split_ifs
  · rfl
  · rfl
  · rfl
  · rfl

/-- What a text shows behind plain characters that are kept in reverse. -/
def readFrom (opened : List String) (reversed text : List Char) : Reading :=
  readPieces opened (piecesFrom text.length 0 reversed text)

/-- A tag that was found shortens the text, which the reading counts on to end. -/
theorem length_rest_lt {text : List Char} {found : TagMatch} (h : tagAt? text = some found) :
    found.rest.length < text.length := by
  rw [tagAt?_eq_some h]
  simp only [List.length_append, List.length_cons]
  omega

/-- What pieces show depends neither on the position nor on how much fuel is left over. -/
theorem readPieces_piecesFrom_congr {first second : Nat} (position position' : Nat) {opened : List String}
    {reversed text : List Char} (hfirst : text.length ≤ first) (hsecond : text.length ≤ second) :
    readPieces opened (piecesFrom first position reversed text) =
      readPieces opened (piecesFrom second position' reversed text) := by
  induction first generalizing second position position' opened reversed text with
  | zero =>
    rw [List.eq_nil_of_length_eq_zero (Nat.eq_zero_of_le_zero hfirst)]
    cases second <;> rfl
  | succ first ih =>
    cases text with
    | nil => cases second <;> rfl
    | cons c rest =>
      have hfuel : second ≠ 0 := Nat.ne_of_gt (Nat.lt_of_lt_of_le (Nat.zero_lt_succ _) hsecond)
      obtain ⟨second, rfl⟩ := Nat.exists_eq_add_one_of_ne_zero hfuel
      rw [piecesFrom, piecesFrom]
      cases htag : tagAt? (c :: rest) with
      | none => exact ih _ _ (Nat.le_of_succ_le_succ hfirst) (Nat.le_of_succ_le_succ hsecond)
      | some found =>
        have hshorter := length_rest_lt htag
        have hsame := fun opened => @ih second
          (position + found.backslashes + found.content.length + 2)
          (position' + found.backslashes + found.content.length + 2) opened [] found.rest
          (by omega) (by omega)
        simp only [readPieces_plainBefore, readPieces_append, readPieces_tagPieces, hsame]

/-- At the end of a text the plain run collected so far is shown. -/
theorem readFrom_nil (opened : List String) (reversed : List Char) :
    readFrom opened reversed [] = some (plainShown reversed, opened) := by
  rw [readFrom, List.length_nil, piecesFrom, readPieces_plainBefore]
  exact followedBy_nil _

/-- A character that starts no tag is plain. -/
theorem readFrom_plain (opened : List String) (reversed : List Char) {c : Char} {rest : List Char}
    (h : tagAt? (c :: rest) = none) : readFrom opened reversed (c :: rest) = readFrom opened (c :: reversed) rest := by
  rw [readFrom, List.length_cons, piecesFrom, h]
  exact readPieces_piecesFrom_congr _ _ (Nat.le_refl _) (Nat.le_refl _)

/-- A tag ends the plain characters before it. -/
theorem readFrom_tag (opened : List String) (reversed : List Char) {text : List Char} {found : TagMatch}
    (h : tagAt? text = some found) :
    readFrom opened reversed text = followedBy (some (plainShown reversed, opened)) fun styles =>
      (readTag styles found.backslashes found.content).followedBy (readFrom · [] found.rest) := by
  cases text with
  | nil => cases h
  | cons c rest =>
    have hshorter := Nat.le_of_lt_succ (length_rest_lt h)
    have hrest := fun opened => @readPieces_piecesFrom_congr rest.length found.rest.length
      (0 + found.backslashes + found.content.length + 2) 0 opened [] found.rest hshorter (Nat.le_refl _)
    rw [readFrom, List.length_cons, piecesFrom, h]
    simp only [readPieces_plainBefore, readPieces_append, readPieces_tagPieces, hrest]
    rfl

/-- Without an opening bracket there is no tag. -/
theorem tagAt?_eq_none {text : List Char} (h : '[' ∉ text) : tagAt? text = none := by
  cases htag : tagAt? text with
  | none => rfl
  | some found =>
    rw [tagAt?_eq_some htag] at h
    exact absurd (List.mem_append_right _ List.mem_cons_self) h

/-- Without an opening bracket there is nothing to unescape. -/
theorem unescapeBrackets_of_not_mem {text : List Char} (h : '[' ∉ text) : unescapeBrackets text = text := by
  fun_induction unescapeBrackets text with
  | case1 rest ih => exact absurd (List.mem_cons_of_mem _ List.mem_cons_self) h
  | case2 c rest _ ih => rw [ih fun hmem => h (List.mem_cons_of_mem _ hmem)]
  | case3 => rfl

/-- A text without tags is plain. -/
theorem readFrom_of_no_tag (opened : List String) (reversed : List Char) {text : List Char}
    (h : ∀ suffix, suffix <:+ text → tagAt? suffix = none) :
    readFrom opened reversed text = some (plainShown (text.reverse ++ reversed), opened) := by
  induction text generalizing reversed with
  | nil => exact readFrom_nil opened reversed
  | cons c rest ih =>
    rw [readFrom_plain opened reversed (h _ (List.suffix_refl _)),
      ih _ fun suffix hsuffix => h suffix (hsuffix.trans (List.suffix_cons c rest)), List.reverse_cons,
      List.append_assoc]
    rfl

/-- What a text shows where no style is open before it. -/
theorem shownMarkup_eq_ok_iff {text shown : List Char} :
    shownMarkup text = .ok shown ↔ ∃ styles, readFrom [] [] text = some (shown, styles) := by
  unfold shownMarkup
  split_ifs with h
  · rw [showPieces_eq_ok_iff]
    rfl
  · have hplain : '[' ∉ text := fun hmem => h (List.contains_iff_mem.mpr hmem)
    rw [readFrom_of_no_tag [] [] fun suffix hsuffix => tagAt?_eq_none fun hmem => hplain (hsuffix.mem hmem),
      List.append_nil, plainShown, List.reverse_reverse, unescapeBrackets_of_not_mem hplain]
    simp [eq_comm]

/-! ## Texts in front of tags -/

/-- A text that ends in no backslash has no end that does. -/
theorem getLast?_ne_of_append {before after : List Char} (h : (before ++ after).getLast? ≠ some '\\') :
    after.getLast? ≠ some '\\' := by
  cases after with
  | nil => simp
  | cons c rest => rwa [List.getLast?_append_of_ne_nil _ (List.cons_ne_nil c rest)] at h

/-- A text is read by itself up to a tag, unless a backslash at its end belongs to the tag. -/
theorem readFrom_append {tail : List Char} {found : TagMatch} (htail : tagAt? tail = some found)
    (hend : tagEnd? tail = none) (opened : List String) (reversed : List Char) {text : List Char}
    (hlast : text.getLast? ≠ some '\\') :
    readFrom opened reversed (text ++ tail) = (readFrom opened reversed text).followedBy (readFrom · [] tail) := by
  induction hlength : text.length using Nat.strongRecOn generalizing opened reversed text with
  | ind length ih =>
    cases text with
    | nil =>
      have hfirst := readFrom_tag opened reversed htail
      have hsecond := fun styles => readFrom_tag styles [] htail
      simp only [plainShown_nil, nil_followedBy] at hsecond
      rw [List.nil_append, readFrom_nil, hfirst]
      simp only [hsecond]
    | cons c rest =>
      have hat := tagAt?_append hend (List.cons_ne_nil c rest) hlast
      cases htag : tagAt? (c :: rest) with
      | none =>
        rw [htag, Option.map_none] at hat
        rw [List.cons_append] at hat ⊢
        rw [readFrom_plain opened reversed hat, readFrom_plain opened reversed htag]
        have hrest : rest.getLast? ≠ some '\\' := @getLast?_ne_of_append [c] rest hlast
        exact ih rest.length (by rw [← hlength]; exact Nat.lt_succ_self _) opened (c :: reversed) hrest rfl
      | some inner =>
        rw [htag, Option.map_some] at hat
        have hrest : inner.rest.getLast? ≠ some '\\' := by
          have htext : c :: rest =
              List.replicate inner.backslashes '\\' ++ '[' :: inner.content ++ [']'] ++ inner.rest := by
            rw [tagAt?_eq_some htag]
            simp
          rw [htext] at hlast
          exact getLast?_ne_of_append hlast
        have hbehind := fun styles => ih inner.rest.length (hlength ▸ length_rest_lt htag) styles [] hrest rfl
        rw [readFrom_tag opened reversed hat, readFrom_tag opened reversed htag]
        simp only [hbehind, followedBy_assoc]

/-- A tag at the front of a text changes the open styles and shows nothing. -/
theorem readFrom_bracket (opened : List String) {first : Char} {content : List Char} (hfirst : startsTag first = true)
    (h : ∀ c ∈ content, c ≠ '[' ∧ c ≠ ']') (rest : List Char) :
    readFrom opened [] ('[' :: first :: content ++ ']' :: rest) =
      (stylesBehind? opened (first :: content)).bind (readFrom · [] rest) := by
  rw [readFrom_tag opened [] (tagAt?_bracket hfirst h rest), plainShown_nil, nil_followedBy]
  cases hstyles : stylesBehind? opened (first :: content) with
  | none => simp [readTag, tagPieces, readPieces, hstyles, followedBy_none]
  | some styles => simp [readTag, tagPieces, readPieces, hstyles, nil_followedBy]

/-- A small letter, as the names of styles are made of. -/
def isStyleLetter (c : Char) : Bool :=
  'a' ≤ c && c ≤ 'z'

/-- The name of a style that a tag opens and closes. -/
structure IsStyleWord (style : List Char) : Prop where
  letters : style.all isStyleLetter = true
  named : Text.trim (String.ofList style) ≠ ""

/-- A character of a style word is none outside the letters of styles. -/
theorem IsStyleWord.ne {style : List Char} (h : IsStyleWord style) {c : Char} (hc : c ∈ style) {other : Char}
    (hother : isStyleLetter other = false) : c ≠ other := by
  rintro rfl
  rw [List.all_eq_true.mp h.letters c hc] at hother
  cases hother

/-- A style word starts with a letter that starts a tag. -/
theorem IsStyleWord.exists_eq_cons {style : List Char} (h : IsStyleWord style) :
    ∃ first rest, style = first :: rest ∧ startsTag first = true := by
  cases style with
  | nil => exact absurd (by decide) h.named
  | cons first rest =>
    have hletter := List.all_eq_true.mp h.letters first List.mem_cons_self
    refine ⟨first, rest, rfl, ?_⟩
    rw [startsTag, ← isStyleLetter, hletter]
    rfl

/-- A style word holds no bracket. -/
theorem IsStyleWord.no_brackets {style : List Char} (h : IsStyleWord style) : ∀ c ∈ style, c ≠ '[' ∧ c ≠ ']' :=
  fun _ hc => ⟨h.ne hc rfl, h.ne hc rfl⟩

/-- A style word is its own tag name. -/
theorem IsStyleWord.tagName_eq {style : List Char} (h : IsStyleWord style) : tagName style = style :=
  List.takeWhile_eq_self_iff.mpr fun _ hc => decide_eq_true (h.ne hc rfl)

/-- Behind the tag of a style word its style is open. -/
theorem IsStyleWord.stylesBehind?_open {style : List Char} (h : IsStyleWord style) (opened : List String) :
    stylesBehind? opened style = some (styleName (String.ofList style) :: opened) := by
  unfold stylesBehind?
  rw [h.tagName_eq]
  split
  · rename_i hslash
    exact absurd rfl (h.ne List.mem_cons_self rfl)
  · rfl

/-- Behind the closing tag of the style opened last the styles are as before it. -/
theorem IsStyleWord.stylesBehind?_close {style : List Char} (h : IsStyleWord style) (opened : List String) :
    stylesBehind? (styleName (String.ofList style) :: opened) ('/' :: style) = some opened := by
  have hname : tagName ('/' :: style) = '/' :: style := by
    rw [tagName, List.takeWhile_cons, ← tagName, h.tagName_eq]
    rfl
  unfold stylesBehind?
  rw [hname]
  simp [h.named, closeStyle?]

end SqlInsert.Console
