import SqlInsert.Proofs.PlainText
/-!
# Data among styled labels

A report writes labels between tags and data behind them. The tags of the labels close each other, so
what is shown of the whole is right exactly if every piece of data is shown as it is: a piece that is not
loses a special character, and no other piece can make up for it.
-/

namespace SqlInsert.Console

open Reading

/-- A text between an opening and a closing tag, and what follows. -/
def styled (style label rest : List Char) : List Char :=
  '[' :: style ++ ']' :: (label ++ ('[' :: '/' :: style ++ ']' :: rest))

/-- What follows a styled text belongs to its rest. -/
theorem styled_append (style label rest more : List Char) :
    styled style label rest ++ more = styled style label (rest ++ more) := by
  simp only [styled, List.append_assoc, List.cons_append]

/-- A styled text starts with a tag. -/
theorem exists_tagAt?_styled {style : List Char} (hstyle : IsStyleWord style) (label rest : List Char) :
    ∃ found, tagAt? (styled style label rest) = some found := by
  obtain ⟨first, letters, hcons, hfirst⟩ := hstyle.exists_eq_cons
  have hletters : ∀ c ∈ letters, c ≠ '[' ∧ c ≠ ']' := fun c hc =>
    hstyle.no_brackets c (hcons ▸ List.mem_cons_of_mem _ hc)
  rw [styled, hcons]
  exact ⟨_, tagAt?_bracket hfirst hletters _⟩

/-- A styled text is shown without its tags, and what follows is read by itself. -/
theorem readFrom_styled {style label : List Char} (hstyle : IsStyleWord style) (hlabel : AsIs label)
    (hlast : label.getLast? ≠ some '\\') (opened : List String) (rest : List Char) :
    readFrom opened [] (styled style label rest) = followedBy (some (label, opened)) (readFrom · [] rest) := by
  obtain ⟨first, letters, hcons, hfirst⟩ := hstyle.exists_eq_cons
  have hbrackets := hstyle.no_brackets
  have hopen := hstyle.stylesBehind?_open opened
  have hclose := hstyle.stylesBehind?_close opened
  have hletters : ∀ c ∈ letters, c ≠ '[' ∧ c ≠ ']' := fun c hc => hbrackets c (hcons ▸ List.mem_cons_of_mem _ hc)
  have hslash : startsTag '/' = true := rfl
  have htail : tagEnd? ('[' :: '/' :: style ++ ']' :: rest) = none := rfl
  -- The opening tag, the label and the closing tag are read in this order, and the styles are then as before.
  rw [styled, hcons, readFrom_bracket opened hfirst hletters, ← hcons, hopen, Option.bind_some,
    readFrom_append (tagAt?_bracket hslash hbrackets rest) htail _ _ hlast, hlabel.readFrom_eq, followedBy, followedBy,
    Option.bind_some, Option.bind_some, readFrom_bracket _ hslash hbrackets, hclose, Option.bind_some]

/-- A text with tags shows a plain text exactly under a condition, whatever styles are open before it; what it
shows never has more special characters than that. -/
structure ShownIff (markup plain : List Char) (condition : Prop) : Prop where
  lighter : ∀ opened shown styles, readFrom opened [] markup = some (shown, styles) → weight shown ≤ weight plain
  shown : condition → ∀ opened, readFrom opened [] markup = some (plain, opened)
  only : ∀ opened shown styles, readFrom opened [] markup = some (shown, styles) → weight shown = weight plain →
    condition

/-- Data is shown if it is shown as it is. -/
theorem ShownIff.data (text : List Char) : ShownIff text text (AsIs text) where
  lighter opened shown styles h := by
    have hnothing : weight [] = 0 := rfl
    have hweight := (weight_readFrom h).1
    omega
  shown h opened := h.readFrom_eq opened
  only _ _ _ h hweight := asIs_of_weight h hweight

/-- A condition may be replaced by an equivalent one. -/
theorem ShownIff.congr {markup plain : List Char} {condition other : Prop} (h : ShownIff markup plain condition)
    (hsame : condition ↔ other) : ShownIff markup plain other :=
  propext hsame ▸ h

/-- Data in front of a tag. -/
theorem ShownIff.preceded {data tail plain : List Char} {condition : Prop} {found : TagMatch}
    (h : ShownIff tail plain condition) (htag : tagAt? tail = some found) (hend : tagEnd? tail = none)
    (hlast : data.getLast? ≠ some '\\') : ShownIff (data ++ tail) (data ++ plain) (AsIs data ∧ condition) where
  -- The tag behind the data stands for itself, so the data are read alone and the weights add up.
  lighter opened shown styles hread := by
    rw [readFrom_append htag hend _ _ hlast] at hread
    obtain ⟨before, mid, after, hdata, htail, rfl⟩ := followedBy_eq_some hread
    have hbefore := (ShownIff.data data).lighter _ _ _ hdata
    have hafter := h.lighter _ _ _ htail
    rw [weight_append, weight_append]
    omega
  shown hboth opened := by
    rw [readFrom_append htag hend _ _ hlast, hboth.1.readFrom_eq, followedBy, Option.bind_some, h.shown hboth.2]
    rfl
  only opened shown styles hread hweight := by
    rw [readFrom_append htag hend _ _ hlast] at hread
    obtain ⟨before, mid, after, hdata, htail, rfl⟩ := followedBy_eq_some hread
    have hbefore := (ShownIff.data data).lighter _ _ _ hdata
    have hafter := h.lighter _ _ _ htail
    rw [weight_append, weight_append] at hweight
    exact ⟨(ShownIff.data data).only _ _ _ hdata (by omega), h.only _ _ _ htail (by omega)⟩

/-- A label in front of a text. -/
theorem ShownIff.labelled {style label rest plain : List Char} {condition : Prop} (h : ShownIff rest plain condition)
    (hstyle : IsStyleWord style) (hlabel : AsIs label) (hlast : label.getLast? ≠ some '\\') :
    ShownIff (styled style label rest) (label ++ plain) condition where
  lighter opened shown styles hread := by
    rw [readFrom_styled hstyle hlabel hlast] at hread
    obtain ⟨before, mid, after, hbefore, hrest, rfl⟩ := followedBy_eq_some hread
    cases hbefore
    rw [weight_append, weight_append]
    exact Nat.add_le_add_left (h.lighter _ _ _ hrest) _
  shown hcondition opened := by
    rw [readFrom_styled hstyle hlabel hlast, followedBy, Option.bind_some, h.shown hcondition]
    rfl
  only opened shown styles hread hweight := by
    rw [readFrom_styled hstyle hlabel hlast] at hread
    obtain ⟨before, mid, after, hbefore, hrest, rfl⟩ := followedBy_eq_some hread
    cases hbefore
    rw [weight_append, weight_append] at hweight
    exact h.only _ _ _ hrest (Nat.add_left_cancel hweight)

/-- A name and a colon, as labels have it. -/
theorem asIs_concat_colon {name : List Char} (h : name.any isSpecial = false) : AsIs (name ++ [':']) := by
  induction name with
  | nil =>
    have hemoji : replaceEmoji [':'] = [':'] := by
      rw [replaceEmoji, if_pos rfl]
      split
      · rename_i hfound
        cases hfound
      · rw [replaceEmoji]
    refine ⟨fun suffix hsuffix => tagContent?_eq_none_of_tagAt? (tagAt?_eq_none fun hmem => ?_), rfl, hemoji, ?_⟩
    · exact absurd (hsuffix.mem hmem) (by decide)
    · exact List.forall_mem_singleton.mpr rfl
  | cons c rest ih =>
    rw [List.any_cons, Bool.or_eq_false_iff] at h
    obtain ⟨hc, hrest⟩ := h
    exact (asIs_cons_iff hc).mpr (ih hrest)

/-- A label and a line of data in front of another label. -/
theorem ShownIff.line {style name label rest plain : List Char} {condition : Prop}
    (h : ShownIff (styled style label rest) plain condition) (hstyle : IsStyleWord style)
    (hname : name.any isSpecial = false) (text : List Char) :
    ShownIff (styled style (name ++ [':']) (' ' :: text ++ ['\n'] ++ styled style label rest))
      (name ++ [':'] ++ (' ' :: text ++ ['\n'] ++ plain)) (AsIs text ∧ condition) := by
  obtain ⟨found, htag⟩ := exists_tagAt?_styled hstyle label rest
  have hline : (' ' :: text ++ ['\n']).getLast? ≠ some '\\' := by
    rw [List.getLast?_concat]
    decide
  have hlabel : (name ++ [':']).getLast? ≠ some '\\' := by
    rw [List.getLast?_concat]
    decide
  have hdata : AsIs (' ' :: text ++ ['\n']) ↔ AsIs text := by
    rw [asIs_concat_iff (by decide) rfl, asIs_cons_iff rfl]
  exact ((h.preceded htag rfl hline).congr (and_congr_left' hdata)).labelled hstyle (asIs_concat_colon hname) hlabel

/-- Markup read from its start shows the plain text exactly under the condition. -/
theorem ShownIff.shownMarkup_eq_ok_iff {markup plain : List Char} {condition : Prop}
    (h : ShownIff markup plain condition) : shownMarkup markup = .ok plain ↔ condition := by
  rw [Console.shownMarkup_eq_ok_iff]
  constructor
  · rintro ⟨styles, hread⟩
    exact h.only _ _ _ hread rfl
  · exact fun hcondition => ⟨[], h.shown hcondition []⟩

end SqlInsert.Console
