import SqlInsert.Insert.Recognition
import SqlInsert.Json.Reading
import SqlInsert.Proofs.Digits
import SqlInsert.Proofs.JsonWriting
/-!
# Reading back what was written

A value that is written, on one line or indented, is read back as it was. Each part is read up to what
cannot continue it, so it is read the same with a gap in front and with a comma or a closing bracket
behind. What is written of a recognition therefore tells all of it, with its names and texts unchanged.
-/

namespace SqlInsert

namespace Json

/-! ## Gaps -/

/-- A run of characters that may stand between parts. -/
def IsGap (gap : List Char) : Prop :=
  ∀ c ∈ gap, isGap c = true

/-- Whatever an indent puts between two items is a gap. -/
theorem isGap_lineBreak (indent : Option Nat) (depth : Nat) : IsGap (lineBreak indent depth) := by
  intro c hc
  cases indent with
  | none => cases hc
  | some width =>
    rcases List.mem_cons.mp hc with rfl | hblank
    · rfl
    · rw [(List.mem_replicate.mp hblank).2]
      rfl

/-- A comma and a gap stand between two parts. -/
theorem exists_separator_eq (indent : Option Nat) (depth : Nat) :
    ∃ gap, separator indent depth = ',' :: gap ∧ IsGap gap := by
  cases indent with
  | none => exact ⟨[' '], rfl, fun c hc => by rw [List.mem_singleton.mp hc]; rfl⟩
  | some width => exact ⟨_, rfl, isGap_lineBreak (some width) depth⟩

/-- A gap is skipped whole. -/
theorem skipGap_append {gap : List Char} (h : IsGap gap) (rest : List Char) :
    skipGap (gap ++ rest) = skipGap rest :=
  List.dropWhile_append_of_pos h

/-- Nothing is skipped before a character that is no gap. -/
theorem skipGap_cons {c : Char} (h : isGap c = false) (rest : List Char) :
    skipGap (c :: rest) = c :: rest := by
  rw [skipGap, List.dropWhile_cons, h]
  rfl

/-! ## Strings -/

/-- The four digits of a control character give its number back. -/
theorem codeUnit?_hexDigits {n : Nat} (h : n < 0x20) (rest : List Char) :
    codeUnit? (Text.hexDigits 4 n ++ rest) = some (n, rest) := by
  have hvalues : ∀ n < 0x20,
      (Text.hexDigits 4 n).map hexValue? = [some 0, some 0, some (n / 16), some (n % 16)] := by decide
  have hvalue := hvalues n h
  simp only [List.map_eq_cons_iff, List.map_eq_nil_iff] at hvalue
  obtain ⟨first, _, hdigits, hfirst, second, _, rfl, hsecond, third, _, rfl, hthird, fourth, _, rfl, hfourth, rfl⟩ :=
    hvalue
  rw [hdigits]
  simp only [List.cons_append, List.nil_append, codeUnit?, hfirst, hsecond, hthird, hfourth,
    Option.bind_eq_bind, Option.bind_some, Option.pure_def]
  congr 2
  omega

/-- An escaped character is read as the character. -/
theorem character?_escapeChar (c : Char) (rest : List Char) :
    character? (escapeChar c ++ rest) = some (c, rest) := by
  have hback : Char.ofNat c.toNat = c := Char.ofNat_toNat c
  unfold escapeChar
  split
  case h_8 =>
    split_ifs with hcontrol
    · have hnumber : numbered? (Text.hexDigits 4 c.toNat ++ rest) = some (c, rest) := by
        simp only [numbered?, codeUnit?_hexDigits hcontrol]
        simp only [Option.bind_eq_bind, Option.bind_some]
        rw [if_neg (by omega), if_neg (by omega), hback]
        rfl
      exact hnumber
    · have hquote : c ≠ '"' := by rintro rfl; contradiction
      have hbackslash : c ≠ '\\' := by rintro rfl; contradiction
      simp [character?, hquote, hbackslash]
      omega
  all_goals
    rename_i hc
    rw [← hback, hc]
    rfl
/-- A quote never starts an escaped character. -/
theorem head?_escapeChar_append_ne (c : Char) (rest : List Char) :
    (escapeChar c ++ rest).head? ≠ some '"' := by
  intro h
  have hread := character?_escapeChar c rest
  obtain ⟨tail, htail⟩ := List.head?_eq_some_iff.mp h
  rw [htail] at hread
  simp [character?] at hread

/-- The escaped characters of a string are read up to its closing quote. -/
theorem charactersFrom?_flatMap (content rest : List Char) {fuel : Nat} (h : content.length < fuel) :
    charactersFrom? fuel (content.flatMap escapeChar ++ '"' :: rest) = some (content, rest) := by
  induction content generalizing fuel with
  | nil =>
    obtain ⟨fuel, rfl⟩ := Nat.exists_eq_add_one_of_ne_zero (Nat.ne_of_gt h)
    rfl
  | cons c content ih =>
    obtain ⟨fuel, rfl⟩ := Nat.exists_eq_add_one_of_ne_zero (Nat.ne_of_gt (Nat.lt_trans (Nat.zero_lt_succ _) h))
    rw [List.flatMap_cons, List.append_assoc, charactersFrom?, if_neg (head?_escapeChar_append_ne c _),
      character?_escapeChar]
    simp only [Option.bind_eq_bind, Option.bind_some, ih (Nat.lt_of_succ_lt_succ h)]
    rfl

/-- Escaping makes no text shorter, which bounds the steps of reading it. -/
theorem length_le_length_flatMap_escapeChar (content : List Char) :
    content.length ≤ (content.flatMap escapeChar).length := by
  induction content with
  | nil => exact Nat.le_refl 0
  | cons c content ih =>
    have hone : escapeChar c ≠ [] := by
      intro hnil
      have hread := character?_escapeChar c []
      rw [hnil] at hread
      cases hread
    have hpos := List.length_pos_of_ne_nil hone
    rw [List.flatMap_cons, List.length_append, List.length_cons]
    omega

/-- A string is read back. -/
theorem string?_stringChars (value : String) (rest : List Char) :
    string? (stringChars value ++ rest) = some (value, rest) := by
  have hlength := length_le_length_flatMap_escapeChar value.toList
  simp only [stringChars, List.cons_append, List.append_assoc, List.nil_append, string?]
  rw [charactersFrom?_flatMap]
  · simp
  · simp only [List.length_append, List.length_cons]
    omega

/-! ## Integers -/

/-- What follows a number and is not read as a part of it. -/
def EndsNumber (rest : List Char) : Prop :=
  ∀ c ∈ rest.head?, c.isDigit = false ∧ continuesNumber c = false

/-- Only zero is written with a zero in front. -/
theorem toDigits_eq_zero_of_head? {n : Nat} (h : (Nat.toDigits 10 n).head? = some '0') :
    Nat.toDigits 10 n = ['0'] := by
  induction n using Nat.strongRecOn with
  | ind n ih =>
    by_cases hsmall : n < 10
    · rw [Nat.toDigits_of_lt_base hsmall] at h ⊢
      rw [Option.some.inj h]
    · have hbase : 10 ≤ n := Nat.le_of_not_lt hsmall
      rw [Nat.toDigits_of_base_le (by decide) hbase, List.head?_append_of_ne_nil _ Nat.toDigits_ne_nil] at h
      have hzero := ih (n / 10) (by omega) h
      have hread := congrArg (fun digits => Nat.ofDigitChars 10 digits 0) hzero
      simp only [Nat.ofDigitChars_ten_toDigits] at hread
      have : Nat.ofDigitChars 10 ['0'] 0 = 0 := rfl
      omega

/-- An integer is read back where its digits end. -/
theorem integer?_integerText (n : Int) {rest : List Char} (h : EndsNumber rest) :
    integer? ((Number.integerText n).toList ++ rest) = some (n, rest) := by
  have hdigits : ∀ c ∈ Nat.toDigits 10 n.natAbs, c.isDigit = true :=
    fun c hc => Nat.isDigit_of_mem_toDigits (by decide) (by decide) hc
  have hend : ∀ c ∈ rest.head?, c.isDigit = false := fun c hc => (h c hc).1
  have hread : ¬(Nat.toDigits 10 n.natAbs = [] ∨
      ((Nat.toDigits 10 n.natAbs).head? = some '0' ∧ Nat.toDigits 10 n.natAbs ≠ ['0']) ∨
      rest.head?.any continuesNumber = true) := by
    rintro (hnil | ⟨hzero, hmore⟩ | hstop)
    · exact Nat.toDigits_ne_nil hnil
    · exact hmore (toDigits_eq_zero_of_head? hzero)
    · obtain ⟨c, hc, hcontinues⟩ := (Option.any_eq_true ..).mp hstop
      rw [(h c hc).2] at hcontinues
      cases hcontinues
  have hplus : (Nat.toDigits 10 n.natAbs ++ rest).head? ≠ some '-' := by
    rw [List.head?_append_of_ne_nil _ Nat.toDigits_ne_nil]
    intro hminus
    exact absurd (hdigits '-' (List.mem_of_head? hminus)) (by decide)
  rw [Number.integerText, String.toList_ofList]
  by_cases hn : n < 0
  · simp only [if_pos hn, integer?, List.cons_append, List.nil_append, List.head?_cons, ↓reduceIte, List.tail_cons,
      Text.takeWhile_append_of_head? hdigits hend, Text.dropWhile_append_of_head? hdigits hend, if_neg hread,
      Nat.ofDigitChars_ten_toDigits]
    congr 2
    omega
  · simp only [if_neg hn, integer?, List.nil_append, if_neg hplus,
      Text.takeWhile_append_of_head? hdigits hend, Text.dropWhile_append_of_head? hdigits hend, if_neg hread,
      Nat.ofDigitChars_ten_toDigits]
    congr 2
    omega
/-! ## Lists and objects -/

/-- A part is read back from its characters, with a gap in front and anything behind that does not go on with
it. -/
structure ReadsBack {α : Type} (part? : List Char → Option (α × List Char)) (part : α) (chars : List Char) :
    Prop where
  starts : ∃ c rest, chars = c :: rest ∧ isGap c = false ∧ c ≠ ']' ∧ c ≠ '\x7d'
  reads : ∀ gap rest, IsGap gap → EndsNumber rest → part? (gap ++ chars ++ rest) = some (part, rest)

/-- The closing bracket of a list or an object. -/
def IsClose (close : Char) : Prop :=
  close = ']' ∨ close = '\x7d'

/-- No closing mark is a gap. -/
theorem IsClose.isGap_eq_false {close : Char} (h : IsClose close) : isGap close = false := by
  rcases h with rfl | rfl <;> rfl

/-- A number ends at a comma or a closing bracket, and also where there is a gap before it. -/
theorem endsNumber_gap_append {gap : List Char} (hgap : IsGap gap) {c : Char} (hc : c = ',' ∨ IsClose c)
    (rest : List Char) : EndsNumber (gap ++ c :: rest) := by
  intro other hother
  cases gap with
  | nil =>
    rw [← Option.mem_some.mp hother]
    rcases hc with rfl | rfl | rfl <;> decide
  | cons blank gap =>
    rw [← Option.mem_some.mp hother]
    have hblank := hgap blank List.mem_cons_self
    simp only [isGap, Bool.or_eq_true, decide_eq_true_eq] at hblank
    rcases hblank with ((rfl | rfl) | rfl) | rfl <;> decide

section

variable {α : Type} {part? : List Char → Option (α × List Char)} {close : Char}

/-- Parts with commas between them are read back one by one. -/
theorem partsFrom?_intercalate (hclose : IsClose close) {between tail : List Char} (hbetween : IsGap between)
    (htail : IsGap tail) {parts : List α} {written : List (List Char)}
    (hparts : List.Forall₂ (ReadsBack part?) parts written) (hne : parts ≠ []) {gap : List Char}
    (hgap : IsGap gap) (rest : List Char) (fuel : Nat) (hfuel : ((',' :: between).intercalate written).length ≤ fuel) :
    partsFrom? part? close fuel (gap ++ (',' :: between).intercalate written ++ (tail ++ close :: rest)) =
      some (parts, rest) := by
  induction hparts generalizing gap fuel with
  | nil => exact absurd rfl hne
  | @cons part chars parts written hpart hparts ih =>
    obtain ⟨c, more, hchars, -⟩ := hpart.starts
    have hlength : 0 < chars.length := by rw [hchars]; exact Nat.zero_lt_succ _
    cases hparts with
    | nil =>
      rw [List.intercalate_singleton] at hfuel ⊢
      obtain ⟨fuel, rfl⟩ := Nat.exists_eq_add_one_of_ne_zero (Nat.ne_of_gt (Nat.lt_of_lt_of_le hlength hfuel))
      have hread := hpart.reads gap (tail ++ close :: rest) hgap (endsNumber_gap_append htail (.inr hclose) rest)
      simp only [partsFrom?, hread, Option.bind_eq_bind, Option.bind_some, skipGap_append htail,
        skipGap_cons hclose.isGap_eq_false, ↓reduceIte]
      rfl
    | @cons next nextChars parts written hnext hparts =>
      rw [List.intercalate_cons_cons] at hfuel ⊢
      simp only [List.length_append, List.length_cons] at hfuel
      obtain ⟨fuel, rfl⟩ := Nat.exists_eq_add_one_of_ne_zero (show fuel ≠ 0 by omega)
      have hread := hpart.reads gap _ hgap (endsNumber_gap_append (List.forall_mem_nil _) (.inl rfl)
        (between ++ (',' :: between).intercalate (nextChars :: written) ++ (tail ++ close :: rest)))
      have hshorter : ((',' :: between).intercalate (nextChars :: written)).length ≤ fuel := by omega
      have hothers := ih (List.cons_ne_nil _ _) hbetween fuel hshorter
      have hcomma : ',' ≠ close := by rcases hclose with rfl | rfl <;> decide
      simp only [List.append_assoc, List.nil_append, List.cons_append] at hread hothers ⊢
      simp only [partsFrom?, hread, Option.bind_eq_bind, Option.bind_some, skipGap_cons (show isGap ',' = false from rfl),
        if_neg hcomma, ↓reduceIte, hothers]
      rfl

/-- Parts with a separator between them start with the first part. -/
theorem exists_intercalate_cons_eq (between chars : List Char) (written : List (List Char)) :
    ∃ rest, between.intercalate (chars :: written) = chars ++ rest := by
  cases written with
  | nil => exact ⟨[], by rw [List.intercalate_singleton, List.append_nil]⟩
  | cons next written => exact ⟨_, by rw [List.intercalate_cons_cons, List.append_assoc]⟩

/-- The parts of a list or an object are read back from between the brackets. -/
theorem parts?_enclose (hclose : IsClose close) (indent : Option Nat) (depth : Nat) (first : Char)
    {parts : List α} {written : List (List Char)} (hparts : List.Forall₂ (ReadsBack part?) parts written)
    (rest : List Char) :
    ∃ inner, enclose indent depth first close written = first :: inner ∧
      parts? part? close (inner ++ rest) = some (parts, rest) := by
  cases hparts with
  | nil =>
    refine ⟨[close], rfl, ?_⟩
    simp only [parts?, List.cons_append, List.nil_append, skipGap_cons hclose.isGap_eq_false, List.head?_cons,
      ↓reduceIte, List.tail_cons]
  | @cons part chars parts written hpart hparts =>
    obtain ⟨between, hseparator, hbetween⟩ := exists_separator_eq indent (depth + 1)
    have hread := partsFrom?_intercalate hclose hbetween (isGap_lineBreak indent depth)
      (List.Forall₂.cons hpart hparts) (List.cons_ne_nil _ _) (isGap_lineBreak indent (depth + 1)) rest
    obtain ⟨c, more, hchars, hc, hbracket, hbrace⟩ := hpart.starts
    obtain ⟨others, hothers⟩ := exists_intercalate_cons_eq (',' :: between) chars written
    have hopen : (skipGap (lineBreak indent (depth + 1) ++ (',' :: between).intercalate (chars :: written) ++
        (lineBreak indent depth ++ close :: rest))).head? ≠ some close := by
      rw [List.append_assoc, skipGap_append (isGap_lineBreak indent (depth + 1)), hothers, hchars,
        List.cons_append, List.cons_append, skipGap_cons hc, List.head?_cons]
      rintro ⟨rfl⟩
      exact hclose.elim hbracket hbrace
    refine ⟨lineBreak indent (depth + 1) ++ (',' :: between).intercalate (chars :: written) ++
      lineBreak indent depth ++ [close], by rw [← hseparator]; rfl, ?_⟩
    rw [List.append_assoc, List.append_assoc, List.singleton_append, parts?, if_neg hopen, hread]
    simp only [List.length_append]
    omega

/-- A member is read back when its value is. -/
theorem readsBack_named? {value : α} {chars : List Char} (h : ReadsBack part? value chars) (name : String) :
    ReadsBack (named? part?) (name, value) (namedChars name chars) := by
  refine ⟨⟨'"', _, rfl, rfl, by decide, by decide⟩, fun gap rest hgap hrest => ?_⟩
  have hvalue := h.reads [' '] rest (fun c hc => by rw [List.mem_singleton.mp hc]; rfl) hrest
  have hquote : ∀ tail, skipGap (stringChars name ++ tail) = stringChars name ++ tail := fun tail => rfl
  simp only [namedChars, List.append_assoc, List.cons_append, named?, skipGap_append hgap, hquote,
    string?_stringChars, Option.bind_eq_bind, Option.bind_some, skipGap_cons (show isGap ':' = false from rfl)]
  simp only [List.cons_append, List.nil_append] at hvalue
  rw [hvalue]
  rfl

end

/-! ## Values -/

/-- Each part is no longer than the whole. -/
theorem length_le_length_intercalate (between : List Char) {part : List Char} {parts : List (List Char)}
    (h : part ∈ parts) : part.length ≤ (between.intercalate parts).length := by
  induction parts with
  | nil => cases h
  | cons first rest ih =>
    obtain ⟨others, hothers⟩ := exists_intercalate_cons_eq between first rest
    rcases List.mem_cons.mp h with rfl | hrest
    · rw [hothers, List.length_append]
      exact Nat.le_add_right _ _
    · have hle := ih hrest
      cases rest with
      | nil => cases hrest
      | cons next rest =>
        rw [List.intercalate_cons_cons, List.length_append]
        exact Nat.le_trans hle (Nat.le_add_left _ _)

/-- A part is shorter than the list or the object that it stands in. -/
theorem length_lt_length_enclose (indent : Option Nat) (depth : Nat) (first last : Char) {part : List Char}
    {parts : List (List Char)} (h : part ∈ parts) :
    part.length < (enclose indent depth first last parts).length := by
  cases parts with
  | nil => cases h
  | cons head rest =>
    have hle := length_le_length_intercalate (separator indent (depth + 1)) h
    have hlength : (enclose indent depth first last (head :: rest)).length =
        (lineBreak indent (depth + 1)).length + ((separator indent (depth + 1)).intercalate (head :: rest)).length +
          (lineBreak indent depth).length + 2 := by
      simp only [enclose, List.cons_append, List.length_cons, List.length_append, List.length_nil]
    omega

/-- An integer starts with a sign or a digit. -/
theorem exists_integerText_eq_cons (n : Int) :
    ∃ c rest, (Number.integerText n).toList = c :: rest ∧ (c = '-' ∨ c.isDigit = true) := by
  rw [Number.integerText, String.toList_ofList]
  split_ifs
  · exact ⟨'-', _, rfl, .inl rfl⟩
  · obtain ⟨c, rest, hdigits⟩ := List.exists_cons_of_ne_nil (Nat.toDigits_ne_nil (n := n.natAbs) (b := 10))
    exact ⟨c, rest, hdigits, .inr (Nat.isDigit_of_mem_toDigits (b := 10) (by decide) (by decide)
      (hdigits ▸ List.mem_cons_self))⟩

/-- What a character that starts an integer is told apart from. -/
theorem startsInteger_ne {c : Char} (h : c = '-' ∨ c.isDigit = true) :
    isGap c = false ∧ c ≠ '"' ∧ c ≠ '[' ∧ c ≠ ']' ∧ c ≠ '\x7b' ∧ c ≠ '\x7d' := by
  have hne : ∀ other : Char, other ≠ '-' → other.isDigit = false → c ≠ other := by
    rintro other hminus hdigit rfl
    rcases h with rfl | h
    · exact hminus rfl
    · rw [hdigit] at h
      cases h
  have hgap : isGap c = false := by
    simp only [isGap, Bool.or_eq_false_iff, decide_eq_false_iff_not]
    exact ⟨⟨⟨hne _ (by decide) rfl, hne _ (by decide) rfl⟩, hne _ (by decide) rfl⟩, hne _ (by decide) rfl⟩
  exact ⟨hgap, hne _ (by decide) rfl, hne _ (by decide) rfl, hne _ (by decide) rfl, hne _ (by decide) rfl,
    hne _ (by decide) rfl⟩

/-- An integer is written as its decimal digits, at any indent and depth. -/
theorem charsAt_int_eq_ok {indent : Option Nat} {depth : Nat} {n : Int} {chars : List Char}
    (h : charsAt indent depth (.int n) = .ok chars) : (Number.integerText n).toList = chars := by
  rw [charsAt, Number.writeInteger] at h
  cases hlong : Number.isOverlong n <;> rw [hlong] at h <;> cases h
  rfl

/-- What is enclosed starts with the opening mark. -/
theorem exists_enclose_eq_cons (indent : Option Nat) (depth : Nat) (first last : Char) (parts : List (List Char)) :
    ∃ rest, enclose indent depth first last parts = first :: rest := by
  cases parts with
  | nil => exact ⟨_, rfl⟩
  | cons part parts => exact ⟨_, rfl⟩

/-- A value starts with a character that is no gap and closes nothing. -/
theorem exists_charsAt_eq_cons {indent : Option Nat} {depth : Nat} {value : Json} {chars : List Char}
    (h : charsAt indent depth value = .ok chars) :
    ∃ c rest, chars = c :: rest ∧ isGap c = false ∧ c ≠ ']' ∧ c ≠ '\x7d' := by
  cases value with
  | null =>
    cases h
    exact ⟨'n', _, rfl, by decide⟩
  | bool value =>
    cases h
    cases value
    · exact ⟨'f', _, rfl, by decide⟩
    · exact ⟨'t', _, rfl, by decide⟩
  | int n =>
    obtain ⟨c, rest, htext, hc⟩ := exists_integerText_eq_cons n
    obtain ⟨hgap, -, -, hbracket, -, hbrace⟩ := startsInteger_ne hc
    exact ⟨c, rest, (charsAt_int_eq_ok h).symm.trans htext, hgap, hbracket, hbrace⟩
  | text value =>
    cases h
    exact ⟨'"', _, rfl, by decide⟩
  | list items =>
    obtain ⟨parts, -, rfl⟩ := charsAt_list_eq_ok_iff.mp h
    obtain ⟨rest, hrest⟩ := exists_enclose_eq_cons indent depth '[' ']' parts
    exact ⟨'[', rest, hrest, by decide⟩
  | object members =>
    obtain ⟨parts, -, rfl⟩ := charsAt_object_eq_ok_iff.mp h
    obtain ⟨rest, hrest⟩ := exists_enclose_eq_cons indent depth '\x7b' '\x7d' parts
    exact ⟨'\x7b', rest, hrest, by decide⟩

/-- A value is read back where brackets may be nested as deep as its text is long. -/
theorem readsBack_value? {indent : Option Nat} {level depth : Nat} {value : Json} {chars : List Char}
    (h : charsAt indent level value = .ok chars) (hdepth : chars.length ≤ depth) :
    ReadsBack (value? depth) value chars := by
  -- Every part of a list or an object is shorter than the whole, so the bound goes down with the nesting.
  induction depth generalizing level value chars with
  | zero =>
    obtain ⟨c, more, rfl, -⟩ := exists_charsAt_eq_cons h
    cases hdepth
  | succ depth ih =>
    refine ⟨exists_charsAt_eq_cons h, fun gap rest hgap hrest => ?_⟩
    -- A gap in front is skipped by the first step, so the cases below start with the value itself.
    have hskip : value? (depth + 1) (gap ++ chars ++ rest) = value? (depth + 1) (chars ++ rest) := by
      rw [List.append_assoc]
      simp only [value?, skipGap_append hgap]
    rw [hskip]
    cases value with
    | null =>
      cases h
      rfl
    | bool value =>
      cases h
      cases value <;> rfl
    | int n =>
      have hread := integer?_integerText n hrest
      obtain ⟨c, more, htext, hc⟩ := exists_integerText_eq_cons n
      obtain ⟨hgap, hquote, hbracket, -, hbrace, -⟩ := startsInteger_ne hc
      rw [← charsAt_int_eq_ok h]
      rw [htext, List.cons_append] at hread ⊢
      simp only [value?, skipGap_cons hgap, if_neg hquote, if_neg hbracket, if_neg hbrace, if_pos hc, hread]
      rfl
    | text value =>
      cases h
      have hread := string?_stringChars value rest
      rw [stringChars, List.cons_append, List.cons_append] at hread ⊢
      simp only [value?, skipGap_cons (show isGap '"' = false from rfl), ↓reduceIte, hread]
      rfl
    | list items =>
      obtain ⟨parts, hparts, rfl⟩ := charsAt_list_eq_ok_iff.mp h
      have hshorter : ∀ part ∈ parts, part.length ≤ depth := fun part hpart =>
        Nat.le_of_lt_succ (Nat.lt_of_lt_of_le (length_lt_length_enclose indent level '[' ']' hpart) hdepth)
      have hback : List.Forall₂ (ReadsBack (value? depth)) items parts :=
        ((List.forall₂_and_left _ _).mpr ⟨hshorter, hparts.flip⟩).flip.imp
          fun item part hpart => ih hpart.2 hpart.1
      obtain ⟨inner, hinner, hread⟩ := parts?_enclose (.inl rfl) indent level '[' hback rest
      rw [hinner, List.cons_append]
      simp only [value?, skipGap_cons (show isGap '[' = false from rfl), Char.reduceEq, ↓reduceIte, hread]
      rfl
    | object members =>
      obtain ⟨parts, hparts, rfl⟩ := charsAt_object_eq_ok_iff.mp h
      have hshorter : ∀ part ∈ parts, part.length ≤ depth := fun part hpart =>
        Nat.le_of_lt_succ (Nat.lt_of_lt_of_le (length_lt_length_enclose indent level '\x7b' '\x7d' hpart) hdepth)
      have hback : List.Forall₂ (ReadsBack (named? (value? depth))) members parts := by
        refine ((List.forall₂_and_left _ _).mpr ⟨hshorter, hparts.flip⟩).flip.imp ?_
        rintro member part ⟨hlength, chars, hwritten, rfl⟩
        have hvalue : chars.length ≤ (namedChars member.1 chars).length := by
          simp only [namedChars, List.length_append, List.length_cons]
          omega
        exact readsBack_named? (ih hwritten (Nat.le_trans hvalue hlength)) member.1
      obtain ⟨inner, hinner, hread⟩ := parts?_enclose (.inr rfl) indent level '\x7b' hback rest
      rw [hinner, List.cons_append]
      simp only [value?, skipGap_cons (show isGap '\x7b' = false from rfl), Char.reduceEq, ↓reduceIte, hread]
      rfl

/-- A written value is read back as it was. -/
theorem read?_write {indent : Option Nat} {value : Json} {text : String} (h : value.write indent = .ok text) :
    read? text = some value := by
  obtain ⟨chars, hchars, rfl⟩ := write_eq_ok_iff.mp h
  have hread := (readsBack_value? hchars (Nat.le_refl _)).reads [] [] (List.forall_mem_nil _)
    (fun c hc => by cases hc)
  rw [List.nil_append, List.append_nil] at hread
  rw [read?, String.toList_ofList, hread]
  rfl

end Json

namespace Recognition

/-- A recognition whose integers are short enough is written with every indentation, and each of these texts
is read back as what is told of the recognition. Written on one line it has no line break, whatever its
texts hold. -/
theorem json_reads_back (result : Recognition)
    (h : ∀ n ∈ result.json.integers, Number.isOverlong n = false) :
    (∀ indent, ∃ text, result.json.write indent = .ok text ∧ Json.read? text = some result.json) ∧
      (∀ indent indent' text text', result.json.write indent = .ok text →
        result.json.write indent' = .ok text' → Json.read? text = Json.read? text') ∧
      ∀ text, result.json.write none = .ok text → '\n' ∉ text.toList := by
  refine ⟨fun indent => ?_, fun indent indent' text text' htext htext' => ?_, fun text => ?_⟩
  · obtain ⟨text, htext⟩ := Json.exists_write_iff.mpr h
    exact ⟨text, htext, Json.read?_write htext⟩
  · rw [Json.read?_write htext, Json.read?_write htext']
  · exact Json.newline_not_mem_write

/-- A line break, a quotation mark and a letter beyond ASCII are told unchanged. -/
theorem json_reads_back_line_break :
    let result : Recognition := {
      sql := "insert into t values (\"ü\n\", -12, :n)", dialect := "mysql", sqlType := insertType,
      tableName := some "t", tableAlias := none, columns := some [],
      rows := [[.literal (.text "ü\n"), .literal (.int (-12)), .placeholder 0 (some "n")], []],
      keyPositions := [1], duplicateKeyUpdate := none, errors := [] }
    (∀ n ∈ result.json.integers, Number.isOverlong n = false) ∧
      ∃ text, result.json.write none = .ok text ∧ Json.read? text = some result.json ∧ '\n' ∉ text.toList := by
  intro result
  have hshort : ∀ n ∈ result.json.integers, Number.isOverlong n = false := by decide +kernel
  obtain ⟨hback, -, hline⟩ := json_reads_back result hshort
  obtain ⟨text, htext, hread⟩ := hback none
  exact ⟨hshort, text, htext, hread, hline text htext⟩

end Recognition

end SqlInsert
