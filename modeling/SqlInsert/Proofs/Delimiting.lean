import SqlInsert.Proofs.Digits
import SqlInsert.Proofs.Unquoting
import SqlInsert.Text.Lines
/-!
# Texts that are told apart from what follows

Texts joined by a separator can be told from the whole if each of them is told apart from a separator behind
it. A text between quotes is told apart from anything, since a quote in it is escaped, and a name between quotes
from all but a further quote, since a quote in it is written twice.
-/

namespace SqlInsert

/-! ## Joined texts -/

namespace Text

/-- What can stand behind one of several texts in a row: nothing, or a separator and the other texts. -/
def IsBehind (between rest : List Char) : Prop :=
  rest = [] ∨ between <+: rest

/-- What stands behind the first of several texts in a row. -/
def behind (between : List Char) : List (List Char) → List Char
  | [] => []
  | part :: parts => between ++ between.intercalate (part :: parts)

/-- The parts written each behind the separator stand behind it. -/
theorem isBehind_behind (between : List Char) (parts : List (List Char)) : IsBehind between (behind between parts) := by
  cases parts with
  | nil => exact .inl rfl
  | cons part parts => exact .inr (List.prefix_append _ _)

/-- Parts with a separator between them are the first and the others each behind the separator. -/
theorem intercalate_cons_eq (between part : List Char) (parts : List (List Char)) :
    between.intercalate (part :: parts) = part ++ behind between parts := by
  cases parts with
  | nil => rw [List.intercalate_singleton, behind, List.append_nil]
  | cons next parts => rw [List.intercalate_cons_cons, behind, List.append_assoc]

/-- The first of the parts behind a separator comes first. -/
theorem behind_cons (between part : List Char) (parts : List (List Char)) :
    behind between (part :: parts) = between ++ (part ++ behind between parts) := by
  rw [← intercalate_cons_eq]
  rfl

/-- Items can be told from their texts in a row, one by one, if each text is there and tells its item when nothing
or a separator stands behind it. -/
theorem forall₂_of_intercalate_eq {α : Type} {between : List Char} {chars : α → List Char} {relation : α → α → Prop}
    (hbetween : between ≠ []) {items items' : List α} (hitems : ∀ item ∈ items, chars item ≠ [])
    (hitems' : ∀ item ∈ items', chars item ≠ [])
    (htold : ∀ item ∈ items, ∀ item' ∈ items', ∀ rest rest', IsBehind between rest → IsBehind between rest' →
      chars item ++ rest = chars item' ++ rest' → relation item item' ∧ rest = rest')
    (h : between.intercalate (items.map chars) = between.intercalate (items'.map chars)) :
    List.Forall₂ relation items items' := by
  induction items generalizing items' with
  | nil =>
    cases items' with
    | nil => exact .nil
    | cons item' items' =>
      rw [List.map_cons, intercalate_cons_eq] at h
      exact absurd (List.append_eq_nil_iff.mp h.symm).1 (hitems' item' List.mem_cons_self)
  | cons item items ih =>
    cases items' with
    | nil =>
      rw [List.map_cons, intercalate_cons_eq] at h
      exact absurd (List.append_eq_nil_iff.mp h).1 (hitems item List.mem_cons_self)
    | cons item' items' =>
      rw [List.map_cons, List.map_cons, intercalate_cons_eq, intercalate_cons_eq] at h
      obtain ⟨hitem, hrest⟩ := htold item List.mem_cons_self item' List.mem_cons_self _ _
        (isBehind_behind _ _) (isBehind_behind _ _) h
      refine .cons hitem (ih (fun other hother => hitems other (List.mem_cons_of_mem _ hother))
        (fun other hother => hitems' other (List.mem_cons_of_mem _ hother))
        (fun other hother other' hother' =>
          htold other (List.mem_cons_of_mem _ hother) other' (List.mem_cons_of_mem _ hother')) ?_)
      -- Either both rows end here, or the same separator stands in front of both of the rests.
      cases items with
      | nil =>
        cases items' with
        | nil => rfl
        | cons next' items' => exact absurd (List.append_eq_nil_iff.mp hrest.symm).1 hbetween
      | cons next items =>
        cases items' with
        | nil => exact absurd (List.append_eq_nil_iff.mp hrest).1 hbetween
        | cons next' items' => exact List.append_cancel_left hrest

end Text

/-! ## Names between quotes -/

namespace Render

/-- The first quote that stands alone ends a text whose quotes are doubled. -/
theorem doubled_append_injective {quote : Char} {text text' rest rest' : List Char}
    (hrest : rest.head? ≠ some quote) (hrest' : rest'.head? ≠ some quote)
    (h : doubled quote text ++ quote :: rest = doubled quote text' ++ quote :: rest') :
    text = text' ∧ rest = rest' := by
  -- A quote that ends the text is followed by no other, while one inside of it is.
  induction text generalizing text' with
  | nil =>
    cases text' with
    | nil => exact ⟨rfl, (List.cons.inj h).2⟩
    | cons c' text' =>
      rw [doubled_cons] at h
      by_cases hc : c' = quote
      · rw [if_pos hc, hc] at h
        exact absurd (congrArg List.head? (List.cons.inj h).2) hrest
      · rw [if_neg hc] at h
        exact absurd (List.cons.inj h).1.symm hc
  | cons c text ih =>
    cases text' with
    | nil =>
      rw [doubled_cons] at h
      by_cases hc : c = quote
      · rw [if_pos hc, hc] at h
        exact absurd (congrArg List.head? (List.cons.inj h).2).symm hrest'
      · rw [if_neg hc] at h
        exact absurd (List.cons.inj h).1 hc
    | cons c' text' =>
      have hhead : c = c' := by
        have hfirst := congrArg List.head? h
        simpa only [List.head?_append, head?_doubled, List.head?_cons, Option.some_or, Option.some.injEq] using hfirst
      subst hhead
      rw [doubled_cons, doubled_cons, List.append_assoc, List.append_assoc] at h
      obtain ⟨rfl, hbehind⟩ := ih (List.append_cancel_left h)
      exact ⟨rfl, hbehind⟩

/-- A text between quotes that are doubled in it is told apart from what follows, unless that is a further
quote. -/
theorem enclosed_append_injective {quote : Char} {text text' rest rest' : List Char}
    (hrest : rest.head? ≠ some quote) (hrest' : rest'.head? ≠ some quote)
    (h : enclosed quote text ++ rest = enclosed quote text' ++ rest') : text = text' ∧ rest = rest' := by
  simp only [enclosed, List.cons_append, List.append_assoc, List.nil_append, List.cons.injEq, true_and] at h
  exact doubled_append_injective hrest hrest' h

end Render

/-! ## Texts between quotes with escapes -/

namespace Text

/-- The number that hexadecimal digits spell. -/
def hexNumber (digits : List Char) : Nat :=
  Number.ofDigits 16 (digits.map fun c => (Number.digitValue? 16 c).getD 0)

/-- One more digit multiplies the number by sixteen and adds the digit. -/
theorem hexNumber_concat (digits : List Char) (c : Char) :
    hexNumber (digits ++ [c]) = hexNumber digits * 16 + (Number.digitValue? 16 c).getD 0 := by
  simp [hexNumber, Number.ofDigits]

/-- The hexadecimal digits of a number are read as the number. -/
theorem hexNumber_toDigits (n : Nat) : hexNumber (Nat.toDigits 16 n) = n := by
  have hdigit : ∀ digit < 16, (Number.digitValue? 16 (Nat.digitChar digit)).getD 0 = digit := by decide
  induction n using Nat.strongRecOn with
  | ind n ih =>
    rw [Nat.toDigits_eq_if (by decide)]
    split
    · rename_i hsmall
      exact (hexNumber_concat [] _).trans (by simpa [hexNumber, Number.ofDigits] using hdigit n hsmall)
    · rw [hexNumber_concat, ih (n / 16) (by omega), hdigit (n % 16) (by omega)]
      omega

/-- Zeros in front do not change a number. -/
theorem hexNumber_hexDigits (width n : Nat) : hexNumber (hexDigits width n) = n := by
  have hzeros : ∀ count digits, hexNumber (List.replicate count '0' ++ digits) = hexNumber digits := by
    intro count digits
    induction count with
    | zero => rfl
    | succ count ih => exact ih
  exact (hzeros _ _).trans (hexNumber_toDigits n)

/-- Padded digits have the width they are padded to. -/
theorem length_hexDigits {width n : Nat} (hwidth : 0 < width) (h : n < 16 ^ width) :
    (hexDigits width n).length = width := by
  have hlength := (Nat.length_toDigits_le_iff (by decide) hwidth).mpr h
  unfold hexDigits
  rw [List.length_append, List.length_replicate]
  omega

/-- A number in hexadecimal digits that fill a width is told apart from what follows it. -/
theorem hexDigits_append_injective {width m n : Nat} {rest rest' : List Char} (hwidth : 0 < width)
    (hm : m < 16 ^ width) (hn : n < 16 ^ width) (h : hexDigits width m ++ rest = hexDigits width n ++ rest') :
    m = n ∧ rest = rest' := by
  have hlength : (hexDigits width m).length = (hexDigits width n).length := by
    rw [length_hexDigits hwidth hm, length_hexDigits hwidth hn]
  obtain ⟨hdigits, hrest⟩ := List.append_inj h hlength
  have hnumber := congrArg hexNumber hdigits
  rw [hexNumber_hexDigits, hexNumber_hexDigits] at hnumber
  exact ⟨hnumber, hrest⟩

/-- What stands behind the backslash of an escaped character: a mark, and for some marks digits. -/
inductive IsEscape (quote : Char) : Char → Char → List Char → Prop
  | itself {c : Char} (h : c = quote ∨ c = '\\') : IsEscape quote c c []
  | lineFeed : IsEscape quote '\n' 'n' []
  | carriageReturn : IsEscape quote '\r' 'r' []
  | tab : IsEscape quote '\t' 't' []
  | twoDigits {c : Char} (h : c.toNat < 16 ^ 2) : IsEscape quote c 'x' (hexDigits 2 c.toNat)
  | fourDigits {c : Char} (h : c.toNat < 16 ^ 4) : IsEscape quote c 'u' (hexDigits 4 c.toNat)
  | eightDigits {c : Char} (h : c.toNat < 16 ^ 8) : IsEscape quote c 'U' (hexDigits 8 c.toNat)

/-- A code point is written with two, four or eight digits. -/
theorem exists_isEscape_pointEscape (quote c : Char) :
    ∃ mark digits, IsEscape quote c mark digits ∧ pointEscape c = '\\' :: mark :: digits := by
  unfold pointEscape
  split_ifs with hshort hmedium
  · exact ⟨_, _, .twoDigits hshort, rfl⟩
  · exact ⟨_, _, .fourDigits hmedium, rfl⟩
  · exact ⟨_, _, .eightDigits c.val.toNat_lt, rfl⟩

/-- A character is written as it is or escaped. -/
theorem escapeChar_cases (quote c : Char) :
    escapeChar quote c = [c] ∧ c ≠ quote ∧ c ≠ '\\' ∨
      ∃ mark digits, IsEscape quote c mark digits ∧ escapeChar quote c = '\\' :: mark :: digits := by
  unfold escapeChar
  split_ifs with hself hfeed hreturn htab hprintable
  · exact .inr ⟨_, _, .itself hself, rfl⟩
  · subst hfeed
    exact .inr ⟨_, _, .lineFeed, rfl⟩
  · subst hreturn
    exact .inr ⟨_, _, .carriageReturn, rfl⟩
  · subst htab
    exact .inr ⟨_, _, .tab, rfl⟩
  · exact .inl ⟨rfl, not_or.mp hself⟩
  · exact .inr (exists_isEscape_pointEscape quote c)

/-- The two characters that enclose a text. -/
def IsQuote (quote : Char) : Prop := quote = '\'' ∨ quote = '"'

/-- The mark chosen to enclose a text is one of the two quotes. -/
theorem isQuote_enclosingQuote (text : List Char) : IsQuote (enclosingQuote text) := by
  unfold enclosingQuote
  split
  · exact .inr rfl
  · exact .inl rfl

/-- The mark of an escape, and the digits behind it, tell the character. -/
theorem IsEscape.unique {quote c c' mark : Char} {digits digits' rest rest' : List Char} (hquote : IsQuote quote)
    (h : IsEscape quote c mark digits) (h' : IsEscape quote c' mark digits')
    (hrest : digits ++ rest = digits' ++ rest') : c = c' ∧ rest = rest' := by
  -- No mark stands for two sorts of escapes: the enclosing quote and the backslash are none of the letters.
  have hletters : ∀ letter ∈ ['n', 'r', 't', 'x', 'u', 'U'], ¬(letter = quote ∨ letter = '\\') := by
    rcases hquote with rfl | rfl <;> simp
  cases h with
  | itself hself =>
    cases h' with
    | itself => exact ⟨rfl, hrest⟩
    | _ => exact absurd hself (hletters _ (by decide))
  | lineFeed =>
    cases h' with
    | itself hself => exact absurd hself (hletters _ (by decide))
    | lineFeed => exact ⟨rfl, hrest⟩
  | carriageReturn =>
    cases h' with
    | itself hself => exact absurd hself (hletters _ (by decide))
    | carriageReturn => exact ⟨rfl, hrest⟩
  | tab =>
    cases h' with
    | itself hself => exact absurd hself (hletters _ (by decide))
    | tab => exact ⟨rfl, hrest⟩
  | twoDigits hc =>
    cases h' with
    | itself hself => exact absurd hself (hletters _ (by decide))
    | twoDigits hc' => exact (hexDigits_append_injective (by decide) hc hc' hrest).imp_left Char.toNat_inj.mp
  | fourDigits hc =>
    cases h' with
    | itself hself => exact absurd hself (hletters _ (by decide))
    | fourDigits hc' => exact (hexDigits_append_injective (by decide) hc hc' hrest).imp_left Char.toNat_inj.mp
  | eightDigits hc =>
    cases h' with
    | itself hself => exact absurd hself (hletters _ (by decide))
    | eightDigits hc' => exact (hexDigits_append_injective (by decide) hc hc' hrest).imp_left Char.toNat_inj.mp

/-- A character between quotes is told apart from what follows it. -/
theorem escapeChar_append_injective {quote c c' : Char} {rest rest' : List Char} (hquote : IsQuote quote)
    (h : escapeChar quote c ++ rest = escapeChar quote c' ++ rest') : c = c' ∧ rest = rest' := by
  rcases escapeChar_cases quote c with ⟨hplain, _, hbackslash⟩ | ⟨mark, digits, hescape, hchars⟩ <;>
    rcases escapeChar_cases quote c' with ⟨hplain', _, hbackslash'⟩ | ⟨mark', digits', hescape', hchars'⟩
  · rw [hplain, hplain'] at h
    exact List.cons.inj h
  · rw [hplain, hchars'] at h
    exact absurd (List.cons.inj h).1 hbackslash
  · rw [hchars, hplain'] at h
    exact absurd (List.cons.inj h).1.symm hbackslash'
  · rw [hchars, hchars'] at h
    obtain ⟨rfl, hbehind⟩ := List.cons.inj (List.cons.inj h).2
    exact hescape.unique hquote hescape' hbehind

/-- No character between quotes starts as the quote that ends them. -/
theorem escapeChar_append_ne {quote : Char} (c : Char) {rest rest' : List Char} (hquote : IsQuote quote) :
    escapeChar quote c ++ rest ≠ quote :: rest' := by
  intro h
  rcases escapeChar_cases quote c with ⟨hplain, hne, _⟩ | ⟨mark, digits, _, hchars⟩
  · rw [hplain] at h
    exact hne (List.cons.inj h).1
  · rw [hchars] at h
    have hbackslash : '\\' = quote := (List.cons.inj h).1
    rcases hquote with rfl | rfl <;> cases hbackslash

/-- The first quote that is not escaped ends a text between quotes. -/
theorem escaped_append_injective {quote : Char} {text text' rest rest' : List Char} (hquote : IsQuote quote)
    (h : text.flatMap (escapeChar quote) ++ quote :: rest = text'.flatMap (escapeChar quote) ++ quote :: rest') :
    text = text' ∧ rest = rest' := by
  induction text generalizing text' with
  | nil =>
    cases text' with
    | nil => exact ⟨rfl, (List.cons.inj h).2⟩
    | cons c' text' =>
      rw [List.flatMap_cons, List.append_assoc] at h
      exact absurd h.symm (escapeChar_append_ne c' hquote)
  | cons c text ih =>
    cases text' with
    | nil =>
      rw [List.flatMap_cons, List.append_assoc] at h
      exact absurd h (escapeChar_append_ne c hquote)
    | cons c' text' =>
      rw [List.flatMap_cons, List.flatMap_cons, List.append_assoc, List.append_assoc] at h
      obtain ⟨rfl, hbehind⟩ := escapeChar_append_injective hquote h
      obtain ⟨rfl, hrest⟩ := ih hbehind
      exact ⟨rfl, hrest⟩

/-- The quoted form of a text is told apart from what follows it, and tells the text. -/
theorem quotedChars_append_injective {text text' rest rest' : List Char}
    (h : quotedChars text ++ rest = quotedChars text' ++ rest') : text = text' ∧ rest = rest' := by
  have hquote := isQuote_enclosingQuote text
  simp only [quotedChars, List.cons_append, List.append_assoc, List.nil_append, List.cons.injEq] at h
  rw [← h.1] at h
  exact escaped_append_injective hquote h.2

end Text

end SqlInsert
