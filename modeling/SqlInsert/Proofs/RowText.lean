import SqlInsert.Console.Report
import SqlInsert.Proofs.Delimiting
import SqlInsert.Proofs.Magnitude
import SqlInsert.Proofs.NumberText
import SqlInsert.Proofs.ValueIdentity
import SqlInsert.Value.Equality
/-!
# What the displayed text of a row tells

The compact report shows a row as the short forms of its values with commas between them. The first character of
a short form tells its look: a text stands between quotes, and the forms without quotes hold no comma. So a row can
be read back value by value. Only a number in another form, which is equal, and a bind parameter of the same name
look like a value without being it.
-/

namespace SqlInsert

/-! ## Characters of numbers, dates and times -/

namespace Number.Decimal

/-- Whether a decimal number is a number. -/
def isNumber : Decimal → Bool
  | .nan _ _ _ => false
  | _ => true

variable {number : Decimal}

/-- A number is written without a comma. -/
theorem comma_not_mem_chars (h : number.isNumber = true) : ',' ∉ number.chars := by
  cases number with
  | finite negative coefficient exponent =>
    obtain ⟨text, htext, _⟩ := exists_text_eq coefficient exponent
    have hbody : (finite negative coefficient exponent).body = text.chars := String.ofList_injective htext
    rw [chars_eq, hbody, List.mem_append, not_or]
    refine ⟨by split <;> decide, fun hcomma => ?_⟩
    rcases NumberText.mem_chars hcomma with hdigit | hmark
    · cases hdigit
    · exact absurd hmark (by decide)
  | infinity negative => cases negative <;> decide
  | nan negative signaling payload => cases h

/-- A number starts with a digit, a minus sign, or the letter of an infinity. -/
theorem exists_chars_eq_cons (h : number.isNumber = true) :
    ∃ c rest, number.chars = c :: rest ∧ (c.isDigit = true ∨ c = '-' ∨ c = 'I') := by
  rw [chars_eq]
  cases number.isNegative with
  | true => exact ⟨_, _, rfl, .inr (.inl rfl)⟩
  | false =>
    cases number with
    | finite negative coefficient exponent =>
      obtain ⟨digit, rest, hbody, hdigit⟩ := exists_body_eq_cons negative coefficient exponent
      exact ⟨digit, rest, hbody, .inl hdigit⟩
    | infinity negative => exact ⟨_, _, rfl, .inr (.inr rfl)⟩
    | nan negative signaling payload => cases h

/-- The decimal made of an integer tells the integer. -/
theorem ofInt_injective {m n : Int} (h : ofInt m = ofInt n) : m = n := by
  simp only [ofInt, finite.injEq, decide_eq_decide] at h
  omega

/-- An integer is written like the decimal number that it is. -/
theorem chars_ofInt (n : Int) : String.ofList (ofInt n).chars = integerText n := by
  have hone : 0 < (Nat.toDigits 10 n.natAbs).length := List.length_pos_of_ne_nil Nat.toDigits_ne_nil
  have hadjusted : -6 ≤ adjustedExponent n.natAbs 0 := by
    unfold adjustedExponent digitCount coefficientDigits
    omega
  simp only [ofInt, chars, integerText, hadjusted, and_true, Int.le_refl, if_true, plainDigits, coefficientDigits,
    decide_eq_true_eq]

/-- Every number denotes what it denotes itself. -/
theorem denotesSame_self (h : number.isNumber = true) : number.denotesSame number = true := by
  cases number with
  | finite negative coefficient exponent =>
    simp only [denotesSame, or_self, beq_self_eq_true, Int.le_refl, if_true, Int.sub_self, Bool.true_and]
    split
    · rfl
    · simp [scalesTo]
  | infinity negative => exact beq_self_eq_true _
  | nan negative signaling payload => cases h

end Number.Decimal

namespace Constant

/-- Whether a constant can be compared: it is a number if it is a decimal number. -/
def isComparable : Constant → Bool
  | .decimal value => value.isNumber
  | _ => true

variable {constant : Constant} {mark : Char} {chars : List Char}

/-- A number as a constant is written without a comma. -/
theorem HasChars.comma_not_mem (h : constant.HasChars mark chars) (hnumber : constant.isComparable = true)
    (hmark : mark ≠ ',') : ',' ∉ chars := by
  have hfield : ¬Calendar.IsFieldChar ',' := by
    rintro (hdigit | hfield)
    · cases hdigit
    · exact absurd hfield (by decide)
  cases h with
  | decimal value => exact Number.Decimal.comma_not_mem_chars hnumber
  | date value => exact fun hcomma => hfield (value.isFieldChar_of_mem_chars _ hcomma)
  | time value =>
    intro hcomma
    rcases List.mem_append.mp hcomma with hclock | hzone
    · exact hfield (value.clock.isFieldChar_of_mem_chars _ hclock)
    · exact hfield (Calendar.isFieldChar_of_mem_zoneChars _ _ hzone)
  | dateTime value =>
    intro hcomma
    rcases List.mem_append.mp hcomma with hmoment | hzone
    · rcases List.mem_append.mp hmoment with hdate | hbehind
      · exact hfield (value.date.isFieldChar_of_mem_chars _ hdate)
      · rcases List.mem_cons.mp hbehind with hsame | hclock
        · exact hmark hsame.symm
        · exact hfield (value.clock.isFieldChar_of_mem_chars _ hclock)
    · exact hfield (Calendar.isFieldChar_of_mem_zoneChars _ _ hzone)

/-- A number as a constant starts with a digit, a sign or the letter of infinity. -/
theorem HasChars.exists_eq_cons (h : constant.HasChars mark chars) (hnumber : constant.isComparable = true) :
    ∃ c rest, chars = c :: rest ∧ (c.isDigit = true ∨ c = '-' ∨ c = 'I') := by
  have hfirst : ∀ {mark chars}, Text.EndsFirstDigits mark chars →
      ∃ c rest, chars = c :: rest ∧ (c.isDigit = true ∨ c = '-' ∨ c = 'I') := by
    rintro mark chars ⟨_, digits, rest, hne, hdigits, rfl⟩
    obtain ⟨digit, others, rfl⟩ := List.exists_cons_of_ne_nil hne
    exact ⟨digit, _, rfl, .inl (hdigits digit List.mem_cons_self)⟩
  cases h with
  | decimal value => exact value.exists_chars_eq_cons hnumber
  | date value => exact hfirst (List.append_nil value.chars ▸ value.endsFirstDigits_chars_append [])
  | time value => exact hfirst value.endsFirstDigits_chars
  | dateTime value => exact hfirst (value.endsFirstDigits_chars mark)

/-- An integer as the decimal number that it is. -/
def figure : Constant → Constant
  | .int value => .decimal (.ofInt value)
  | constant => constant

/-- The figure of a constant can be compared exactly where the constant can. -/
theorem isComparable_figure (constant : Constant) : constant.figure.isComparable = constant.isComparable := by
  cases constant <;> rfl

/-- An integer that is displayed is displayed like that number. -/
theorem display_int {n : Int} (h : Number.isOverlong n = false) :
    (int n).display = (decimal (.ofInt n)).display := by
  simp only [display, Number.writeInteger, h, Bool.false_eq_true, if_false]
  rw [Number.Decimal.text, Number.Decimal.chars_ofInt]

/-- A constant that can be told is displayed as its figure. -/
theorem display_figure (h : ∀ n ∈ constant.integers, Number.isOverlong n = false) :
    constant.display = constant.figure.display := by
  cases constant with
  | int value => exact display_int (h value (List.mem_singleton.mpr rfl))
  | _ => rfl

/-- In a short form a blank stands between a date and a time. -/
theorem HasChars.display_eq (h : constant.HasChars ' ' chars) : constant.display = .ok (String.ofList chars) := by
  cases h <;> rfl

/-- A constant is a text, a truth value, or a number, a date or a time. -/
theorem text_or_flag_or_hasChars (constant : Constant) :
    (∃ content, constant = .text content) ∨ (∃ value, constant = .flag value) ∨
      ∃ chars, constant.figure.HasChars ' ' chars := by
  cases constant with
  | text content => exact .inl ⟨content, rfl⟩
  | flag value => exact .inr (.inl ⟨value, rfl⟩)
  | int value => exact .inr (.inr ⟨_, .decimal (.ofInt value)⟩)
  | decimal value => exact .inr (.inr ⟨_, .decimal value⟩)
  | date value => exact .inr (.inr ⟨_, .date value⟩)
  | time value => exact .inr (.inr ⟨_, .time value⟩)
  | dateTime value => exact .inr (.inr ⟨_, .dateTime value⟩)

/-- Numbers of one quantity are equal, in whatever form. -/
theorem equals_of_quantity {first second : Constant} {number : Number.Decimal} (h : first.quantity? = some number)
    (h' : second.quantity? = some number) (hnumber : number.isNumber = true)
    (hfirst : first.isComparable = true) (hsecond : second.isComparable = true) :
    first.equals second = .ok true := by
  have hsignaling : ∀ {constant : Constant}, constant.isComparable = true → constant.isSignaling = false := by
    intro constant hcomparable
    cases constant with
    | decimal value => cases value <;> first | rfl | cases hcomparable
    | _ => rfl
  unfold equals
  simp only [h, h', hsignaling hfirst, hsignaling hsecond, Bool.or_self, Bool.false_eq_true, if_false,
    Number.Decimal.denotesSame_self hnumber]

/-- A constant that can be compared equals itself. -/
theorem equals_self (h : constant.isComparable = true) : constant.equals constant = .ok true := by
  cases constant with
  | int value => exact equals_of_quantity rfl rfl rfl h h
  | flag value => exact equals_of_quantity rfl rfl rfl h h
  | decimal value => exact equals_of_quantity rfl rfl h h h
  | text value => simp [equals, quantity?]
  | date value => simp [equals, quantity?]
  | time value =>
    have hself : value.denotesSame value = true := by
      unfold Calendar.Time.denotesSame
      cases value.offset <;> simp
    simp [equals, quantity?, hself]
  | dateTime value =>
    have hself : value.denotesSame value = true := by
      unfold Calendar.DateTime.denotesSame
      cases value.offset <;> simp
    simp [equals, quantity?, hself]

end Constant

/-! ## Short forms -/

/-- The looks of short forms, which the first character tells. -/
inductive Look
  | quoted
  | truth
  | nothing
  | position
  | name
  | figure

/-- The look that starts with a character. -/
def lookOf (c : Char) : Look :=
  if c = '\'' ∨ c = '"' then .quoted
  else if c = 'T' ∨ c = 'F' then .truth
  else if c = 'N' then .nothing
  else if c = '?' then .position
  else if c = ':' then .name
  else .figure

/-- What starts with a digit looks like a figure. -/
theorem lookOf_of_isDigit {c : Char} (h : c.isDigit = true) : lookOf c = .figure := by
  have hne : ∀ mark : Char, mark.isDigit = false → c ≠ mark := by
    rintro mark hmark rfl
    rw [h] at hmark
    cases hmark
  unfold lookOf
  rw [if_neg (not_or.mpr ⟨hne _ rfl, hne _ rfl⟩), if_neg (not_or.mpr ⟨hne _ rfl, hne _ rfl⟩), if_neg (hne _ rfl),
    if_neg (hne _ rfl), if_neg (hne _ rfl)]

namespace Value

/-- A value that is not an expression. It is a constant that can be compared, an explicit null, or a bind parameter
whose name, if it has one, holds no comma. -/
inductive IsPlain : Value → Prop
  | literal {constant : Constant} (comparable : constant.isComparable = true) : IsPlain (.literal constant)
  | null : IsPlain .null
  | position (index : Int) : IsPlain (.placeholder index none)
  | name (index : Int) {name : String} (free : ',' ∉ name.toList) : IsPlain (.placeholder index (some name))

/-- A value with the look and the characters of its short form. -/
inductive Shows : Look → Value → List Char → Prop
  | quoted (content : String) : Shows .quoted (.literal (.text content)) (Text.quotedChars content.toList)
  | truth (flag : Bool) : Shows .truth (.literal (.flag flag)) (if flag then "True" else "False").toList
  | nothing : Shows .nothing .null "NULL".toList
  | position (index : Int) : Shows .position (.placeholder index none) ('?' :: (Number.Decimal.ofInt index).chars)
  | name (index : Int) {name : String} (free : ',' ∉ name.toList) :
      Shows .name (.placeholder index (some name)) (':' :: name.toList)
  | figure {constant : Constant} {chars : List Char} (told : constant.figure.HasChars ' ' chars)
      (comparable : constant.figure.isComparable = true)
      (short : ∀ n ∈ constant.integers, Number.isOverlong n = false) : Shows .figure (.literal constant) chars

/-- The short form of a plain value. -/
theorem IsPlain.exists_shows {value : Value} {text : String} (h : value.IsPlain) (htext : value.display = .ok text) :
    ∃ look, Shows look value text.toList := by
  have hshort := exists_display_iff.mp ⟨text, htext⟩
  cases h with
  | @literal constant hcomparable =>
    have hdisplay : constant.display = .ok text := htext
    rcases constant.text_or_flag_or_hasChars with ⟨content, rfl⟩ | ⟨flag, rfl⟩ | ⟨chars, htold⟩
    · cases hdisplay
      rw [Text.quoted, String.toList_ofList]
      exact ⟨_, .quoted content⟩
    · cases hdisplay
      exact ⟨_, .truth flag⟩
    · rw [Constant.display_figure hshort, htold.display_eq] at hdisplay
      cases hdisplay
      rw [String.toList_ofList]
      exact ⟨_, .figure htold (constant.isComparable_figure.trans hcomparable) hshort⟩
  | null =>
    cases htext
    exact ⟨_, .nothing⟩
  | position index =>
    have hindex : Number.isOverlong index = false := hshort index (List.mem_singleton.mpr rfl)
    rw [display, Number.writeInteger, hindex] at htext
    cases htext
    have hchars : ("?" ++ Number.integerText index).toList = '?' :: (Number.Decimal.ofInt index).chars := by
      rw [← Number.Decimal.chars_ofInt]
      simp
    rw [hchars]
    exact ⟨_, .position index⟩
  | @name index name hfree =>
    cases htext
    rw [String.toList_append]
    exact ⟨_, .name index hfree⟩

/-- The first character of a short form tells its look. -/
theorem Shows.exists_eq_cons {look : Look} {value : Value} {chars : List Char} (h : Shows look value chars) :
    ∃ c rest, chars = c :: rest ∧ lookOf c = look := by
  cases h with
  | quoted content => exact ⟨_, _, rfl, if_pos (Text.isQuote_enclosingQuote content.toList)⟩
  | truth flag => cases flag <;> exact ⟨_, _, rfl, rfl⟩
  | nothing => exact ⟨_, _, rfl, rfl⟩
  | position index => exact ⟨_, _, rfl, rfl⟩
  | name index hfree => exact ⟨_, _, rfl, rfl⟩
  | figure htold hcomparable _ =>
    obtain ⟨c, rest, hchars, hfirst⟩ := htold.exists_eq_cons hcomparable
    refine ⟨c, rest, hchars, ?_⟩
    rcases hfirst with hdigit | rfl | rfl
    · exact lookOf_of_isDigit hdigit
    · rfl
    · rfl

/-- A short form without quotes holds no comma. -/
theorem Shows.comma_not_mem {look : Look} {value : Value} {chars : List Char} (h : Shows look value chars)
    (hlook : look ≠ .quoted) : ',' ∉ chars := by
  cases h with
  | quoted content => exact absurd rfl hlook
  | truth flag => cases flag <;> decide
  | nothing => decide
  | position index =>
    rw [List.mem_cons, not_or]
    exact ⟨by decide, Number.Decimal.comma_not_mem_chars rfl⟩
  | name index hfree =>
    rw [List.mem_cons, not_or]
    exact ⟨by decide, hfree⟩
  | figure htold hcomparable _ => exact htold.comma_not_mem hcomparable (by decide)

/-! ## Values that look alike -/

/-- Two values have one short form: they are the same, or one number as an integer and as a decimal number, or bind
parameters of one name. -/
inductive LooksLike : Value → Value → Prop
  | same (value : Value) : LooksLike value value
  | integer {n : Int} (short : Number.isOverlong n = false) :
      LooksLike (.literal (.int n)) (.literal (.decimal (.ofInt n)))
  | decimal {n : Int} (short : Number.isOverlong n = false) :
      LooksLike (.literal (.decimal (.ofInt n))) (.literal (.int n))
  | name (index index' : Int) (name : String) :
      LooksLike (.placeholder index (some name)) (.placeholder index' (some name))

/-- Values that look alike are displayed alike. -/
theorem LooksLike.display_eq {value value' : Value} (h : value.LooksLike value') : value.display = value'.display := by
  cases h with
  | same => rfl
  | integer hshort => exact Constant.display_int hshort
  | decimal hshort => exact (Constant.display_int hshort).symm
  | name => rfl

/-- Constants with one figure look alike where both can be told. -/
theorem looksLike_of_figure_eq {constant constant' : Constant} (h : constant.figure = constant'.figure)
    (hshort : ∀ n ∈ constant.integers, Number.isOverlong n = false)
    (hshort' : ∀ n ∈ constant'.integers, Number.isOverlong n = false) :
    LooksLike (.literal constant) (.literal constant') := by
  cases constant with
  | int n =>
    cases constant' with
    | int m =>
      rw [Number.Decimal.ofInt_injective (Constant.decimal.inj h)]
      exact .same _
    | decimal value =>
      cases h
      exact .integer (hshort n (List.mem_singleton.mpr rfl))
    | _ => cases h
  | decimal value =>
    cases constant' with
    | int m =>
      cases h
      exact .decimal (hshort' m (List.mem_singleton.mpr rfl))
    | decimal value' =>
      cases h
      exact .same _
    | _ => cases h
  | _ =>
    cases constant' <;> cases h
    exact .same _

/-- Values of one look with the same characters look alike. -/
theorem Shows.looksLike {look : Look} {value value' : Value} {chars : List Char} (h : Shows look value chars)
    (h' : Shows look value' chars) : value.LooksLike value' := by
  generalize hchars : chars = chars' at h'
  cases h with
  | quoted content =>
    cases h' with
    | quoted content' =>
      have hsame := Text.quotedChars_append_injective (congrArg (· ++ []) hchars)
      rw [String.toList_inj.mp hsame.1]
      exact .same _
  | truth flag =>
    cases h' with
    | truth flag' =>
      cases flag <;> cases flag'
      · exact .same _
      · cases hchars
      · cases hchars
      · exact .same _
  | nothing =>
    cases h' with
    | nothing => exact .same _
  | position index =>
    cases h' with
    | position index' =>
      rw [Number.Decimal.ofInt_injective (Number.Decimal.chars_injective (List.cons.inj hchars).2)]
      exact .same _
  | name index =>
    cases h' with
    | name index' =>
      rw [String.toList_inj.mp (List.cons.inj hchars).2]
      exact .name _ _ _
  | figure htold _ hshort =>
    cases h' with
    | figure htold' _ hshort' => exact looksLike_of_figure_eq (htold.unique htold' hchars) hshort hshort'

/-- Short forms of one look are told apart from a comma behind them. -/
theorem Shows.chars_append_injective {look : Look} {value value' : Value} {chars chars' rest rest' : List Char}
    (h : Shows look value chars) (h' : Shows look value' chars') (hrest : Text.IsBehind [',', ' '] rest)
    (hrest' : Text.IsBehind [',', ' '] rest') (heq : chars ++ rest = chars' ++ rest') :
    chars = chars' ∧ rest = rest' := by
  -- A quoted text ends by its own quote, whatever it holds; the other forms hold no comma.
  by_cases hquoted : look = .quoted
  · subst hquoted
    cases h with
    | quoted content =>
      cases h' with
      | quoted content' =>
        obtain ⟨hcontent, hbehind⟩ := Text.quotedChars_append_injective heq
        rw [hcontent]
        exact ⟨rfl, hbehind⟩
  · have hfree : ∀ {value : Value} {chars : List Char}, Shows look value chars → ∀ c ∈ chars, (c != ',') = true := by
      intro value chars hshows c hc
      rw [bne_iff_ne]
      rintro rfl
      exact hshows.comma_not_mem hquoted hc
    have hcomma : ∀ {rest : List Char}, Text.IsBehind [',', ' '] rest → ∀ c ∈ rest.head?, (c != ',') = false := by
      rintro rest (rfl | ⟨others, rfl⟩) c hc
      · cases hc
      · cases hc
        rfl
    exact Text.run_append_injective (hfree h) (hfree h') (hcomma hrest) (hcomma hrest') heq

/-- A short form is told apart from a comma behind it, and tells what the value looks like. -/
theorem Shows.append_injective {look look' : Look} {value value' : Value} {chars chars' rest rest' : List Char}
    (h : Shows look value chars) (h' : Shows look' value' chars') (hrest : Text.IsBehind [',', ' '] rest)
    (hrest' : Text.IsBehind [',', ' '] rest') (heq : chars ++ rest = chars' ++ rest') :
    value.LooksLike value' ∧ rest = rest' := by
  -- The first character tells the form.
  have hlook : look = look' := by
    obtain ⟨c, others, rfl, rfl⟩ := h.exists_eq_cons
    obtain ⟨c', others', rfl, rfl⟩ := h'.exists_eq_cons
    rw [(List.cons.inj heq).1]
  subst hlook
  obtain ⟨rfl, hbehind⟩ := h.chars_append_injective h' hrest hrest' heq
  exact ⟨h.looksLike h', hbehind⟩

/-- Two bind parameters have one name. -/
def SharesName (first second : Value) : Prop :=
  ∃ index index' name, first = .placeholder index (some name) ∧ second = .placeholder index' (some name)

/-- Plain values that look alike are equal, or bind parameters of one name. -/
theorem LooksLike.equals_or_sharesName {value value' : Value} (h : value.LooksLike value') (hplain : value.IsPlain) :
    value.equals value' = .ok true ∨ value.SharesName value' := by
  cases h with
  | same =>
    left
    cases hplain with
    | literal hcomparable => exact Constant.equals_self hcomparable
    | null => rfl
    | position index => simp [equals]
    | name index => simp [equals]
  | @integer n =>
    have hequal : (Constant.int n).equals (.decimal (.ofInt n)) = .ok true :=
      Constant.equals_of_quantity rfl rfl rfl rfl rfl
    exact .inl hequal
  | @decimal n =>
    have hequal : (Constant.decimal (.ofInt n)).equals (.int n) = .ok true :=
      Constant.equals_of_quantity rfl rfl rfl rfl rfl
    exact .inl hequal
  | name index index' name => exact .inr ⟨index, index', name, rfl, rfl⟩

/-- The characters of a short form; none where there is none. -/
def shownChars (value : Value) : List Char :=
  match value.display with
  | .ok text => text.toList
  | .error _ => []

end Value

/-! ## Rows -/

namespace Console

/-- The text of a row between its parentheses. -/
def rowText (row : Row) : Except ReportError String :=
  (displayRow row).map (", ".intercalate ·)

/-- The line about a row holds that text between parentheses. -/
theorem compactRow_eq (columns : Nat) (row : Row) :
    compactRow columns row = rowText row >>= fun text => plainBlock columns ("  (" ++ text ++ ")") := by
  unfold compactRow rowText
  cases displayRow row <;> rfl

/-- A row has a text exactly if all integers that it shows are short enough. -/
theorem exists_rowText_iff {row : Row} :
    (∃ text, rowText row = .ok text) ↔ ∀ value ∈ row, ∀ n ∈ value.shownIntegers, Number.isOverlong n = false := by
  unfold rowText displayRow
  rw [exists_map_eq_ok_iff]
  simp only [mapError_eq_ok_iff, exists_mapM_iff, Value.exists_display_iff]

/-- A text of a row is put together from the short forms of its values. -/
theorem toList_of_rowText {row : Row} {text : String} (h : rowText row = .ok text) :
    text.toList = [',', ' '].intercalate (row.map Value.shownChars) := by
  unfold rowText displayRow at h
  cases hmap : row.mapM Value.display with
  | error error =>
    rw [hmap] at h
    cases h
  | ok texts =>
    rw [hmap] at h
    cases h
    have hshown : texts.map String.toList = row.map Value.shownChars := by
      rw [← List.forall₂_eq_eq_eq, List.forall₂_map_left_iff, List.forall₂_map_right_iff]
      refine (mapM_eq_ok_iff.mp hmap).flip.imp fun text value hvalue => ?_
      rw [Value.shownChars, hvalue]
    rw [String.toList_intercalate, hshown]
    rfl

/-- Rows whose values look alike have one text. -/
theorem rowText_congr {first second : Row} (h : List.Forall₂ Value.LooksLike first second) :
    rowText first = rowText second := by
  have hshown : first.mapM Value.display = second.mapM Value.display := by
    induction h with
    | nil => rfl
    | cons hvalue _ ih => rw [List.mapM_cons, List.mapM_cons, hvalue.display_eq, ih]
  unfold rowText displayRow
  rw [hshown]

/-- Every value of a row with a text shows its characters. -/
theorem exists_shows_of_rowText {row : Row} {text : String} (hplain : ∀ value ∈ row, value.IsPlain)
    (h : rowText row = .ok text) : ∀ value ∈ row, ∃ look, Value.Shows look value value.shownChars := by
  intro value hvalue
  obtain ⟨shown, hshown⟩ := Value.exists_display_iff.mpr (exists_rowText_iff.mp ⟨text, h⟩ value hvalue)
  have hform := (hplain value hvalue).exists_shows hshown
  rwa [Value.shownChars, hshown]

/-- Plain rows of one text have as many values, which look alike one by one. -/
theorem looksLike_of_rowText_eq {first second : Row} {text : String} (hfirst : ∀ value ∈ first, value.IsPlain)
    (hsecond : ∀ value ∈ second, value.IsPlain) (h : rowText first = .ok text) (h' : rowText second = .ok text) :
    List.Forall₂ Value.LooksLike first second := by
  have hforms := exists_shows_of_rowText hfirst h
  have hforms' := exists_shows_of_rowText hsecond h'
  have hsome : ∀ {row : Row}, (∀ value ∈ row, ∃ look, Value.Shows look value value.shownChars) →
      ∀ value ∈ row, value.shownChars ≠ [] := by
    intro row hrow value hvalue
    obtain ⟨look, hshows⟩ := hrow value hvalue
    obtain ⟨c, rest, hchars, _⟩ := hshows.exists_eq_cons
    rw [hchars]
    exact List.cons_ne_nil c rest
  -- Two texts with separators between their parts are taken apart from the front, one part at a time.
  refine Text.forall₂_of_intercalate_eq (List.cons_ne_nil ',' [' ']) (hsome hforms) (hsome hforms') ?_
    ((toList_of_rowText h).symm.trans (toList_of_rowText h'))
  intro value hvalue value' hvalue' rest rest' hrest hrest' heq
  obtain ⟨look, hshows⟩ := hforms value hvalue
  obtain ⟨look', hshows'⟩ := hforms' value' hvalue'
  exact hshows.append_injective hshows' hrest hrest' heq

/-- A displayed row can be read back. A plain row has a text exactly if its integers are short enough to be shown.
Then the plain rows of that text are those whose values look like its values one by one: they are equal to them, but
for bind parameters, which may share a name. -/
theorem rowText_tells_values {first second : Row} (hfirst : ∀ value ∈ first, value.IsPlain)
    (hsecond : ∀ value ∈ second, value.IsPlain) :
    ((∃ text, rowText first = .ok text) ↔
        ∀ value ∈ first, ∀ n ∈ value.shownIntegers, Number.isOverlong n = false) ∧
      ∀ text, rowText first = .ok text →
        (rowText second = .ok text ↔ List.Forall₂ Value.LooksLike first second) ∧
        (rowText second = .ok text →
          List.Forall₂ (fun value value' => value.equals value' = .ok true ∨ value.SharesName value')
            first second) := by
  refine ⟨exists_rowText_iff, fun text h => ⟨⟨looksLike_of_rowText_eq hfirst hsecond h, fun halike => ?_⟩,
    fun h' => ?_⟩⟩
  · rw [← rowText_congr halike, h]
  · have halike := (List.forall₂_and_left _ _).mpr ⟨hfirst, looksLike_of_rowText_eq hfirst hsecond h h'⟩
    exact halike.imp fun _ _ hvalues => hvalues.2.equals_or_sharesName hvalues.1

/-- A text with quotes and a comma in it does not look like two texts. -/
example : rowText [.literal (.text "1', '2")] = .ok "\"1', '2\"" ∧
    rowText [.literal (.text "1"), .literal (.text "2")] = .ok "'1', '2'" :=
  ⟨rfl, rfl⟩

/-- A text with quotes and a comma in it, a negative integer in both of its forms, and bind parameters. -/
theorem rowText_tells_values_mixed :
    let first : Row := [.literal (.text "1', '2"), .literal (.int (-7)), .placeholder 0 (some "a"), .placeholder 1 none]
    let second : Row :=
      [.literal (.text "1', '2"), .literal (.decimal (.finite true 7 0)), .placeholder 4 (some "a"),
        .placeholder 1 none]
    (∀ value ∈ first, value.IsPlain) ∧ (∀ value ∈ second, value.IsPlain) ∧
      ∃ text, rowText first = .ok text ∧ rowText second = .ok text ∧
        List.Forall₂ (fun value value' => value.equals value' = .ok true ∨ value.SharesName value') first second := by
  intro first second
  have hfirst : ∀ value ∈ first, value.IsPlain := by
    simp only [first, List.forall_mem_cons]
    exact ⟨.literal rfl, .literal rfl, .name 0 (by decide), .position 1, List.forall_mem_nil _⟩
  have hsecond : ∀ value ∈ second, value.IsPlain := by
    simp only [second, List.forall_mem_cons]
    exact ⟨.literal rfl, .literal rfl, .name 4 (by decide), .position 1, List.forall_mem_nil _⟩
  have hshort : Number.isOverlong (-7) = false ∧ Number.isOverlong 1 = false := by decide +kernel
  have hshown : ∀ value ∈ first, ∀ n ∈ value.shownIntegers, Number.isOverlong n = false := by
    simp only [first, List.forall_mem_cons]
    exact ⟨nofun, List.forall_mem_singleton.mpr hshort.1, nofun, List.forall_mem_singleton.mpr hshort.2,
      List.forall_mem_nil _⟩
  have halike : List.Forall₂ Value.LooksLike first second :=
    .cons (.same _) (.cons (.integer hshort.1) (.cons (.name 0 4 "a") (.cons (.same _) .nil)))
  obtain ⟨hexists, htells⟩ := rowText_tells_values hfirst hsecond
  obtain ⟨text, htext⟩ := hexists.mpr hshown
  have hsame := (htells text htext).1.mpr halike
  exact ⟨hfirst, hsecond, text, htext, hsame, (htells text htext).2 hsame⟩

/-- Bind parameters of one name look alike, whatever their ordinals, and yet differ. -/
theorem rowText_sharedName_not_equal :
    let first : Row := [.placeholder 0 (some "a")]
    let second : Row := [.placeholder 1 (some "a")]
    rowText first = .ok ":a" ∧ rowText second = .ok ":a" ∧
      ¬List.Forall₂ (fun value value' => value.equals value' = .ok true) first second := by
  refine ⟨rfl, rfl, fun h => ?_⟩
  cases h with
  | cons hvalue _ => exact absurd hvalue (by decide)

end Console

end SqlInsert
