import SqlInsert.Proofs.Markup
/-!
# Texts that are shown as they are

A text with tags is shown unchanged exactly if nothing in it is a tag, a backslash before a bracket, the
name of an emoji or a control character. The characters that mark these never become more when a text is
shown, and one is missing wherever something was changed: so a text is unchanged if none is missing.
-/

namespace SqlInsert.Console

open Reading

/-- A text that is shown as it is: it holds no tag, no backslash before an opening bracket, no name of an emoji
between colons, and no control character that is taken out. -/
structure AsIs (text : List Char) : Prop where
  no_tag : ∀ suffix, suffix <:+ text → tagContent? suffix = none
  no_escape : unescapeBrackets text = text
  no_emoji : replaceEmoji text = text
  no_control : ∀ c ∈ text, isControl c = false

/-- A character that may be taken out of what is shown, or start what is. -/
def isSpecial (c : Char) : Bool :=
  c = '[' || c = '\\' || c = ':' || isControl c

/-- The number of such characters in a text. What is shown of a text has fewer of them, unless it is the text
itself. -/
def weight (text : List Char) : Nat :=
  text.countP isSpecial

/-- The weight of a text is the sum of the weights of its parts. -/
theorem weight_append (first second : List Char) : weight (first ++ second) = weight first + weight second :=
  List.countP_append

/-- A special character weighs one. -/
theorem weight_cons_of_special {c : Char} (h : isSpecial c = true) (text : List Char) :
    weight (c :: text) = weight text + 1 :=
  List.countP_cons_of_pos h

/-- The weight of a text is that of its first character and of the rest. -/
theorem weight_cons (c : Char) (text : List Char) : weight (c :: text) = weight [c] + weight text :=
  weight_append [c] text

/-- Turning a text around keeps its weight. -/
theorem weight_reverse (text : List Char) : weight text.reverse = weight text :=
  List.countP_reverse

/-- No emoji of the whole table holds a special character. -/
theorem weight_findEmoji? {name emoji : List Char} (h : findEmoji? name = some emoji) : weight emoji = 0 := by
  have hnames : ∀ entry ∈ emojiNames, weight entry.2 = 0 := by decide +kernel
  obtain ⟨before, after, hentry, _⟩ := List.lookup_eq_some_iff.mp h
  exact hnames (_, emoji) (by rw [hentry]; exact List.mem_append_right _ List.mem_cons_self)

/-- No emoji has weight, with its variant chosen or not. -/
theorem weight_emojiOf? {body emoji : List Char} (h : emojiOf? body = some emoji) : weight emoji = 0 := by
  have hforms : ∀ form ∈ emojiForms, weight form.2 = 0 := by decide
  unfold emojiOf? at h
  split at h
  · rename_i suffix mark hform
    obtain ⟨plain, hplain, rfl⟩ := Option.map_eq_some_iff.mp h
    rw [weight_append, weight_findEmoji? hplain, hforms _ (List.mem_of_find?_eq_some hform)]
  · exact weight_findEmoji? h

/-- The body of a name reaches to the next colon. -/
theorem untilColon?_eq_some {text body after : List Char} (h : untilColon? text = some (body, after)) :
    text = body ++ ':' :: after := by
  induction text generalizing body with
  | nil => cases h
  | cons c rest ih =>
    rw [untilColon?] at h
    split_ifs at h with hcolon
    · cases h
      rw [hcolon]
      rfl
    · obtain ⟨⟨inner, behind⟩, hinner, hsame⟩ := Option.map_eq_some_iff.mp h
      cases hsame
      rw [ih hinner]
      rfl

/-- An emoji takes the place of two colons. -/
theorem weight_replaceEmoji (text : List Char) :
    weight (replaceEmoji text) ≤ weight text ∧
      (weight (replaceEmoji text) = weight text → replaceEmoji text = text) := by
  fun_induction replaceEmoji text with
  | case1 => exact ⟨Nat.le_refl _, fun _ => rfl⟩
  | case2 rest body after hbody _ ih =>
    have hrest := untilColon?_eq_some hbody
    have hcolon : isSpecial ':' = true := rfl
    have hweight : weight (':' :: rest) = weight body + weight after + 2 := by
      rw [hrest, weight_cons_of_special hcolon, weight_append, weight_cons_of_special hcolon]
      omega
    rw [weight_append, hweight]
    cases hemoji : emojiOf? body with
    | some emoji =>
      have hnone := weight_emojiOf? hemoji
      rw [Option.getD_some]
      constructor <;> omega
    | none =>
      have hbody : weight (':' :: body ++ [':']) = weight body + 2 := by
        rw [weight_append, weight_cons_of_special hcolon, weight_cons_of_special hcolon]
        rfl
      rw [Option.getD_none, hbody]
      refine ⟨by omega, fun h => ?_⟩
      rw [ih.2 (by omega), hrest]
      simp
  | case3 rest hnone ih =>
    have hcolon : isSpecial ':' = true := rfl
    rw [weight_cons_of_special hcolon, weight_cons_of_special hcolon]
    exact ⟨Nat.succ_le_succ ih.1, fun h => by rw [ih.2 (Nat.succ_inj.mp h)]⟩
  | case4 c rest hcolon ih =>
    rw [weight_cons, weight_cons c rest]
    exact ⟨Nat.add_le_add_left ih.1 _, fun h => by rw [ih.2 (Nat.add_left_cancel h)]⟩

/-- A backslash is lost before a bracket. -/
theorem weight_unescapeBrackets (text : List Char) :
    weight (unescapeBrackets text) ≤ weight text ∧
      (weight (unescapeBrackets text) = weight text → unescapeBrackets text = text) := by
  fun_induction unescapeBrackets text with
  | case1 rest ih =>
    have hweight : weight ('\\' :: '[' :: rest) = weight ('[' :: rest) + 1 := weight_cons_of_special rfl _
    have hopen := weight_cons '[' rest
    have hshown := weight_cons '[' (unescapeBrackets rest)
    constructor <;> omega
  | case2 c rest _ ih =>
    rw [weight_cons, weight_cons c rest]
    exact ⟨Nat.add_le_add_left ih.1 _, fun h => by rw [ih.2 (Nat.add_left_cancel h)]⟩
  | case3 => exact ⟨Nat.le_refl _, fun _ => rfl⟩

/-- Dropping control characters adds no weight, and keeps it only where it drops nothing. -/
theorem weight_filter (text : List Char) :
    weight (text.filter (!isControl ·)) ≤ weight text ∧
      (weight (text.filter (!isControl ·)) = weight text → text.filter (!isControl ·) = text) := by
  induction text with
  | nil => exact ⟨Nat.le_refl _, fun _ => rfl⟩
  | cons c rest ih =>
    rw [List.filter_cons]
    cases hcontrol : isControl c with
    | true =>
      have hspecial : isSpecial c = true := by rw [isSpecial, hcontrol, Bool.or_true]
      rw [weight_cons_of_special hspecial]
      simp only [Bool.not_true, Bool.false_eq_true, if_false]
      constructor <;> omega
    | false =>
      simp only [Bool.not_false, if_true]
      rw [weight_cons, weight_cons c rest]
      exact ⟨Nat.add_le_add_left ih.1 _, fun h => by rw [ih.2 (Nat.add_left_cancel h)]⟩

/-- Plain text is shown with fewer special characters unless nothing in it is changed. -/
theorem weight_plainShown (reversed : List Char) :
    weight (plainShown reversed) ≤ weight reversed ∧
      (weight (plainShown reversed) = weight reversed →
        unescapeBrackets reversed.reverse = reversed.reverse ∧ replaceEmoji reversed.reverse = reversed.reverse ∧
          ∀ c ∈ reversed.reverse, isControl c = false) := by
  rw [plainShown, shownChars, ← weight_reverse reversed]
  generalize reversed.reverse = text
  obtain ⟨hescape, hescaped⟩ := weight_unescapeBrackets text
  obtain ⟨hemoji, hreplaced⟩ := weight_replaceEmoji (unescapeBrackets text)
  obtain ⟨hcontrol, hfiltered⟩ := weight_filter (replaceEmoji (unescapeBrackets text))
  refine ⟨by omega, fun h => ?_⟩
  have hplain := hescaped (by omega)
  rw [hplain] at hreplaced hfiltered hemoji hcontrol h
  have hnames := hreplaced (by omega)
  rw [hnames] at hfiltered hcontrol h
  have hkept := List.filter_eq_self.mp (hfiltered h)
  exact ⟨hplain, hnames, fun c hc => (Bool.not_eq_true' _).mp (hkept c hc)⟩

/-- Nothing that is shown of plain text weighs more than the text. -/
theorem weight_shownChars_unescapeBrackets (text : List Char) :
    weight (shownChars (unescapeBrackets text)) ≤ weight text := by
  have h := (weight_plainShown text.reverse).1
  rwa [plainShown, List.reverse_reverse, weight_reverse] at h

/-- Each backslash weighs one. -/
theorem weight_replicate_backslash (count : Nat) : weight (List.replicate count '\\') = count := by
  rw [weight, List.countP_replicate]
  rfl

/-- Half of the backslashes before a tag are shown. -/
theorem exists_readPieces_backslashes (opened : List String) (pairs : Nat) :
    ∃ shown, readPieces opened (if pairs = 0 then [] else [.plain (List.replicate pairs '\\')]) = some (shown, opened) ∧
      weight shown ≤ pairs := by
  split_ifs
  · exact ⟨[], rfl, Nat.zero_le _⟩
  · refine ⟨_, rfl, ?_⟩
    have hweight := weight_shownChars_unescapeBrackets (List.replicate pairs '\\')
    rw [weight_replicate_backslash] at hweight
    rw [List.append_nil]
    exact hweight

/-- A tag takes its bracket out of the text, or the backslash before it. -/
theorem weight_readTag {opened styles : List String} {backslashes : Nat} {content shown : List Char}
    (h : readTag opened backslashes content = some (shown, styles)) :
    weight shown < backslashes + 1 + weight content := by
  obtain ⟨slashes, hslashes, hpairs⟩ := exists_readPieces_backslashes opened (backslashes / 2)
  unfold readTag tagPieces at h
  simp only at h
  by_cases hodd : backslashes % 2 = 1
  · have hplain := weight_shownChars_unescapeBrackets ('[' :: content ++ [']'])
    have hbrackets : weight ('[' :: content ++ [']']) = weight content + 1 := by
      rw [weight_append, weight_cons_of_special rfl]
      rfl
    rw [if_pos hodd, readPieces_append, hslashes] at h
    obtain ⟨_, _, _, hfirst, hsecond, rfl⟩ := followedBy_eq_some h
    cases hfirst
    simp only [readPieces, followedBy_nil, Option.some.injEq, Prod.mk.injEq] at hsecond
    rw [← hsecond.1]
    rw [weight_append]
    omega
  · rw [if_neg hodd, readPieces_append, hslashes] at h
    obtain ⟨_, _, _, hfirst, hsecond, rfl⟩ := followedBy_eq_some h
    obtain ⟨_, _, hnothing⟩ := Option.bind_eq_some_iff.mp hsecond
    cases hfirst
    cases hnothing
    rw [List.append_nil]
    omega

/-- What is shown of a text has fewer special characters than the text, unless there is no tag in it. -/
theorem weight_readFrom {opened styles : List String} {reversed text shown : List Char}
    (h : readFrom opened reversed text = some (shown, styles)) :
    weight shown ≤ weight reversed + weight text ∧
      (weight shown = weight reversed + weight text → ∀ suffix, suffix <:+ text → tagAt? suffix = none) := by
  -- A tag is worth at least its opening bracket, so the weight can be kept only where no tag is found.
  induction hlength : text.length using Nat.strongRecOn generalizing opened reversed text shown with
  | ind length ih =>
    cases htag : tagAt? text with
    | some found =>
      have hweight : weight text = found.backslashes + 1 + weight found.content + weight found.rest := by
        rw [tagAt?_eq_some htag, weight_append, weight_append, weight_replicate_backslash,
          weight_cons_of_special rfl, weight_cons ']']
        have hclose : weight [']'] = 0 := rfl
        omega
      rw [readFrom_tag opened reversed htag] at h
      obtain ⟨_, _, _, hplain, hbehind, rfl⟩ := followedBy_eq_some h
      cases hplain
      obtain ⟨_, _, _, hinner, hrest, rfl⟩ := followedBy_eq_some hbehind
      have hbefore := (weight_plainShown reversed).1
      have hless := weight_readTag hinner
      have hafter := (ih _ (hlength ▸ length_rest_lt htag) hrest rfl).1
      have hnothing : weight [] = 0 := rfl
      rw [weight_append, weight_append]
      exact ⟨by omega, fun hsame => by omega⟩
    | none =>
      cases text with
      | nil =>
        rw [readFrom_nil] at h
        cases h
        refine ⟨(weight_plainShown reversed).1, fun _ suffix hsuffix => ?_⟩
        rw [List.suffix_nil.mp hsuffix]
        rfl
      | cons c rest =>
        rw [readFrom_plain opened reversed htag] at h
        have hshorter : rest.length < length := by
          rw [← hlength]
          exact Nat.lt_succ_self _
        obtain ⟨hle, hall⟩ := ih _ hshorter h rfl
        have hc := weight_cons c rest
        have hreversed := weight_cons c reversed
        refine ⟨by omega, fun hsame suffix hsuffix => ?_⟩
        rcases List.suffix_cons_iff.mp hsuffix with rfl | hrest
        · exact htag
        · exact hall (by omega) suffix hrest

/-- A text that holds no tag opens none at its start. -/
theorem tagContent?_eq_none_of_tagAt? {text : List Char} (h : tagAt? text = none) : tagContent? text = none := by
  by_cases hhead : text.head? = some '\\'
  · cases text with
    | nil => rfl
    | cons c rest =>
      have hc : c = '\\' := Option.some.inj hhead
      exact tagContent?_of_ne (by rw [hc]; decide) rest
  · have hat := tagAt?_backslashes_append 0 hhead
    rw [List.replicate_zero, List.nil_append, h] at hat
    exact Option.map_eq_none_iff.mp hat.symm

/-- A text shown as it is holds no tag at any of its ends. -/
theorem AsIs.tagAt?_eq_none {text suffix : List Char} (h : AsIs text) (hsuffix : suffix <:+ text) :
    tagAt? suffix = none :=
  tagAt?_of_suffixes fun part hpart => h.no_tag part (hpart.trans hsuffix)

/-- A text that is shown as it is, whatever styles are open before it. -/
theorem AsIs.readFrom_eq {text : List Char} (h : AsIs text) (opened : List String) :
    readFrom opened [] text = some (text, opened) := by
  rw [readFrom_of_no_tag opened [] fun suffix hsuffix => h.tagAt?_eq_none hsuffix, List.append_nil, plainShown,
    List.reverse_reverse, h.no_escape, shownChars, h.no_emoji,
    List.filter_eq_self.mpr fun c hc => by rw [h.no_control c hc]; rfl]

/-- A text that is shown with all of its special characters is shown as it is. -/
theorem asIs_of_weight {opened styles : List String} {text shown : List Char}
    (h : readFrom opened [] text = some (shown, styles)) (hweight : weight shown = weight text) : AsIs text := by
  have hnothing : weight [] = 0 := rfl
  have htags := (weight_readFrom h).2 (by omega)
  rw [readFrom_of_no_tag opened [] htags, List.append_nil] at h
  cases h
  rw [← weight_reverse text] at hweight
  obtain ⟨hescape, hemoji, hcontrol⟩ := (weight_plainShown text.reverse).2 hweight
  rw [List.reverse_reverse] at hescape hemoji hcontrol
  exact ⟨fun suffix hsuffix => tagContent?_eq_none_of_tagAt? (htags suffix hsuffix), hescape, hemoji, hcontrol⟩

/-- A text is shown unchanged exactly if there is nothing in it that markup takes for its own. -/
theorem shownMarkup_eq_self_iff {text : List Char} : shownMarkup text = .ok text ↔ AsIs text := by
  rw [shownMarkup_eq_ok_iff]
  constructor
  · rintro ⟨styles, h⟩
    exact asIs_of_weight h rfl
  · exact fun h => ⟨[], h.readFrom_eq []⟩

/-! ## Characters at the ends of a text -/

/-- A character that is not special is none of the special ones. -/
theorem ne_of_not_special {c other : Char} (h : isSpecial c = false) (hother : isSpecial other = true) : c ≠ other := by
  rintro rfl
  rw [h] at hother
  cases hother

/-- A character is taken out of what is shown only if it is special. -/
theorem isControl_of_not_special {c : Char} (h : isSpecial c = false) : isControl c = false := by
  rw [isSpecial, Bool.or_eq_false_iff] at h
  exact h.2

/-- A backslash is kept unless a bracket follows. -/
theorem unescapeBrackets_cons {c : Char} {text : List Char} (h : c = '\\' → text.head? ≠ some '[') :
    unescapeBrackets (c :: text) = c :: unescapeBrackets text := by
  rw [unescapeBrackets.eq_def]
  split
  · rename_i hescape
    obtain ⟨hslash, rfl⟩ := List.cons.inj hescape
    exact absurd rfl (h hslash)
  · rename_i hsame
    cases hsame
    rfl
  · rename_i hnil
    cases hnil

/-- Where nothing is escaped in a text, nothing is in its end. -/
theorem unescapeBrackets_of_cons {c : Char} {text : List Char} (h : unescapeBrackets (c :: text) = c :: text) :
    (c = '\\' → text.head? ≠ some '[') ∧ unescapeBrackets text = text := by
  have hkept : c = '\\' → text.head? ≠ some '[' := by
    rintro rfl hopen
    cases text with
    | nil => cases hopen
    | cons first rest =>
      cases Option.some.inj hopen
      rw [unescapeBrackets] at h
      cases (List.cons.inj h).1
  rw [unescapeBrackets_cons hkept] at h
  exact ⟨hkept, (List.cons.inj h).2⟩

/-- An end of a text with nothing to unescape has nothing to unescape. -/
theorem unescapeBrackets_of_suffix {text suffix : List Char} (h : unescapeBrackets text = text)
    (hsuffix : suffix <:+ text) : unescapeBrackets suffix = suffix := by
  induction text with
  | nil => rw [List.suffix_nil.mp hsuffix]; rfl
  | cons c rest ih =>
    rcases List.suffix_cons_iff.mp hsuffix with rfl | hrest
    · exact h
    · exact ih (unescapeBrackets_of_cons h).2 hrest

/-- A text before anything but an opening bracket is read by itself. -/
theorem unescapeBrackets_append {tail : List Char} (h : tail.head? ≠ some '[') (text : List Char) :
    unescapeBrackets (text ++ tail) = unescapeBrackets text ++ unescapeBrackets tail := by
  fun_induction unescapeBrackets text with
  | case1 others ih =>
    rw [List.cons_append, List.cons_append, unescapeBrackets, ih]
    rfl
  | case2 first others hfirst ih =>
    have hkept : first = '\\' → (others ++ tail).head? ≠ some '[' := by
      intro hsame
      cases others with
      | nil => exact h
      | cons second more =>
        intro hbracket
        exact hfirst more hsame (by rw [Option.some.inj hbracket])
    rw [List.cons_append, unescapeBrackets_cons hkept, ih]
    rfl
  | case3 => rfl

/-- A beginning of a text with nothing to unescape has nothing to unescape, unless a bracket opens behind it. -/
theorem unescapeBrackets_of_append {text tail : List Char} (hopen : tail.head? ≠ some '[')
    (h : unescapeBrackets (text ++ tail) = text ++ tail) : unescapeBrackets text = text := by
  have htail := unescapeBrackets_of_suffix h (List.suffix_append _ _)
  rw [unescapeBrackets_append hopen, htail] at h
  exact List.append_cancel_right h

/-- A text before one that completes no name of an emoji is read by itself. -/
theorem untilColon?_append {tail : List Char} (h : untilColon? tail = none) (text : List Char) :
    untilColon? (text ++ tail) = (untilColon? text).map fun found => (found.1, found.2 ++ tail) := by
  induction text with
  | nil => exact h
  | cons first text ih =>
    rw [List.cons_append, untilColon?, untilColon?, ih]
    split_ifs
    · rfl
    · rfl
    · cases untilColon? text <;> rfl

/-- Text without a colon changes no name of an emoji it stands behind. -/
theorem replaceEmoji_append {tail : List Char} (h : untilColon? tail = none) (text : List Char) :
    replaceEmoji (text ++ tail) = replaceEmoji text ++ replaceEmoji tail := by
  fun_induction replaceEmoji text with
  | case1 => rfl
  | case2 text body after hbody _ ih =>
    have hlonger := untilColon?_append h text
    rw [hbody] at hlonger
    rw [List.cons_append, replaceEmoji, if_pos rfl]
    split
    · rename_i found
      cases hlonger.symm.trans found
      rw [ih, List.append_assoc]
    · rename_i found
      cases hlonger.symm.trans found
  | case3 text hnone ih =>
    have hlonger := untilColon?_append h text
    rw [hnone] at hlonger
    rw [List.cons_append, replaceEmoji, if_pos rfl]
    split
    · rename_i found
      cases hlonger.symm.trans found
    · rw [ih]
      rfl
  | case4 first text hcolon ih =>
    rw [List.cons_append, replaceEmoji, if_neg hcolon, ih]
    rfl

/-- A character in front of a text changes nothing, unless it is special. -/
theorem asIs_cons_iff {c : Char} (hspecial : isSpecial c = false) {text : List Char} :
    AsIs (c :: text) ↔ AsIs text := by
  have hopen : c ≠ '[' := ne_of_not_special hspecial rfl
  have hslash : c ≠ '\\' := ne_of_not_special hspecial rfl
  have hcolon : c ≠ ':' := ne_of_not_special hspecial rfl
  have hescape := @unescapeBrackets_cons c text fun hsame => absurd hsame hslash
  have hemoji : replaceEmoji (c :: text) = c :: replaceEmoji text := by rw [replaceEmoji, if_neg hcolon]
  constructor
  · intro h
    exact ⟨fun suffix hsuffix => h.no_tag suffix (hsuffix.trans (List.suffix_cons c text)),
      (List.cons.inj (hescape.symm.trans h.no_escape)).2, (List.cons.inj (hemoji.symm.trans h.no_emoji)).2,
      fun other hother => h.no_control other (List.mem_cons_of_mem _ hother)⟩
  · intro h
    refine ⟨fun suffix hsuffix => ?_, by rw [hescape, h.no_escape], by rw [hemoji, h.no_emoji],
      List.forall_mem_cons.mpr ⟨isControl_of_not_special hspecial, h.no_control⟩⟩
    rcases List.suffix_cons_iff.mp hsuffix with rfl | hrest
    · exact tagContent?_of_ne hopen text
    · exact h.no_tag suffix hrest

/-- The empty text is shown as it is. -/
theorem asIs_nil : AsIs [] :=
  ⟨fun _ hsuffix => by rw [List.suffix_nil.mp hsuffix]; rfl, rfl, by rw [replaceEmoji], List.forall_mem_nil _⟩

/-- A text without special characters is shown as it is. -/
theorem asIs_of_not_special {text : List Char} (h : text.any isSpecial = false) : AsIs text := by
  induction text with
  | nil => exact asIs_nil
  | cons c rest ih =>
    rw [List.any_cons, Bool.or_eq_false_iff] at h
    obtain ⟨hc, hrest⟩ := h
    exact (asIs_cons_iff hc).mpr (ih hrest)

/-- Both parts of a text are shown as they are if the whole is, where neither an escape nor the name of an emoji goes
from one over to the other. -/
theorem AsIs.of_append {text tail : List Char} (h : AsIs (text ++ tail)) (hopen : tail.head? ≠ some '[')
    (hcolon : untilColon? tail = none) : AsIs text ∧ AsIs tail := by
  have htail : tail <:+ text ++ tail := List.suffix_append text tail
  have hemoji := congrArg weight (replaceEmoji_append hcolon text)
  rw [h.no_emoji, weight_append, weight_append] at hemoji
  obtain ⟨htext, hsame⟩ := weight_replaceEmoji text
  obtain ⟨hbehind, hsame'⟩ := weight_replaceEmoji tail
  constructor
  · refine ⟨fun suffix hsuffix => ?_, unescapeBrackets_of_append hopen h.no_escape, hsame (by omega),
      fun c hc => h.no_control c (List.mem_append_left _ hc)⟩
    exact tagContent?_of_append (h.no_tag (suffix ++ tail) (List.suffix_append_self_iff.mpr hsuffix))
  · exact ⟨fun suffix hsuffix => h.no_tag suffix (hsuffix.trans htail), unescapeBrackets_of_suffix h.no_escape htail,
      hsame' (by omega), fun c hc => h.no_control c (htail.mem hc)⟩

/-- Two texts that are shown as they are are shown so in a row, where neither a tag nor an escape nor the name of an
emoji goes from one over to the other. -/
theorem AsIs.append {text tail : List Char} (h : AsIs text) (htail : AsIs tail) (hopen : tail.head? ≠ some '[')
    (hcolon : untilColon? tail = none) (hend : tagEnd? tail = none) : AsIs (text ++ tail) := by
  refine ⟨fun suffix hsuffix => ?_, by rw [unescapeBrackets_append hopen, h.no_escape, htail.no_escape],
    by rw [replaceEmoji_append hcolon, h.no_emoji, htail.no_emoji],
    List.forall_mem_append.mpr ⟨h.no_control, htail.no_control⟩⟩
  rcases List.suffix_or_suffix_of_suffix hsuffix (List.suffix_append text tail) with hwithin | ⟨start, rfl⟩
  · exact htail.no_tag suffix hwithin
  · by_cases hstart : start = []
    · rw [hstart]
      exact htail.no_tag tail (List.suffix_refl _)
    · rw [tagContent?_append hend hstart, h.no_tag start (List.suffix_append_self_iff.mp hsuffix)]
      rfl

/-- A character behind a text changes nothing, unless it is special or ends a tag. -/
theorem asIs_concat_iff {c : Char} (hclose : c ≠ ']') (hspecial : isSpecial c = false) {text : List Char} :
    AsIs (text ++ [c]) ↔ AsIs text := by
  have hopen : c ≠ '[' := ne_of_not_special hspecial rfl
  have hcolon : c ≠ ':' := ne_of_not_special hspecial rfl
  have hhead : [c].head? ≠ some '[' := fun hsame => hopen (Option.some.inj hsame)
  have hname : untilColon? [c] = none := by
    simp only [untilColon?, if_neg hcolon]
    split_ifs <;> rfl
  have hend : tagEnd? [c] = none := by
    rw [tagEnd?, if_neg hclose, if_neg hopen]
    rfl
  exact ⟨fun h => (h.of_append hhead hname).1,
    fun h => h.append ((asIs_cons_iff hspecial).mpr asIs_nil) hhead hname hend⟩

/-- Names in a row are shown as they are if the row is. -/
theorem AsIs.of_intercalate {parts : List (List Char)} (h : AsIs ([',', ' '].intercalate parts)) :
    ∀ part ∈ parts, AsIs part := by
  induction parts with
  | nil => exact List.forall_mem_nil _
  | cons part rest ih =>
    cases rest with
    | nil =>
      rw [List.intercalate_singleton] at h
      exact List.forall_mem_singleton.mpr h
    | cons next others =>
      rw [List.intercalate_cons_cons, List.append_assoc] at h
      obtain ⟨hpart, hothers⟩ := h.of_append (fun hopen => by cases hopen) rfl
      exact List.forall_mem_cons.mpr ⟨hpart, ih ((asIs_cons_iff rfl).mp ((asIs_cons_iff rfl).mp hothers))⟩

end SqlInsert.Console
