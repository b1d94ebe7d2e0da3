import Mathlib
import SqlInsert.Number.Basic
import SqlInsert.Calendar.Basic
/-!
# Digits

The decimal digits of a number spell it: reading them gives the number back, with or without zeros in
front, and a number of several digits is below the power of its base. So two numbers that are written
to the same digits are equal.
-/

namespace SqlInsert

namespace Text

/-- A run of characters of a class ends where another character follows. -/
theorem takeWhile_append_of_head? {inClass : Char → Bool} {run rest : List Char}
    (hrun : ∀ c ∈ run, inClass c = true) (hrest : ∀ c ∈ rest.head?, inClass c = false) :
    (run ++ rest).takeWhile inClass = run := by
  rw [List.takeWhile_append_of_pos hrun]
  cases rest with
  | nil => simp
  | cons c rest => rw [List.takeWhile_cons, hrest c rfl]; simp

/-- A run of one class is dropped whole and nothing behind it is. -/
theorem dropWhile_append_of_head? {inClass : Char → Bool} {run rest : List Char}
    (hrun : ∀ c ∈ run, inClass c = true) (hrest : ∀ c ∈ rest.head?, inClass c = false) :
    (run ++ rest).dropWhile inClass = rest := by
  rw [List.dropWhile_append_of_pos hrun]
  cases rest with
  | nil => rfl
  | cons c rest => rw [List.dropWhile_cons, hrest c rfl]; simp

/-- A run of characters of a class is told apart from what follows, if that starts with another character. -/
theorem run_append_injective {inClass : Char → Bool} {run run' rest rest' : List Char}
    (hrun : ∀ c ∈ run, inClass c = true) (hrun' : ∀ c ∈ run', inClass c = true)
    (hrest : ∀ c ∈ rest.head?, inClass c = false) (hrest' : ∀ c ∈ rest'.head?, inClass c = false)
    (h : run ++ rest = run' ++ rest') : run = run' ∧ rest = rest' := by
  have hsame := congrArg (List.takeWhile inClass) h
  rw [takeWhile_append_of_head? hrun hrest, takeWhile_append_of_head? hrun' hrest'] at hsame
  subst hsame
  exact ⟨rfl, List.append_cancel_left h⟩

/-- Two runs of digits with something else behind them are told apart from what follows. -/
theorem append_eq_append_of_isDigit {digits digits' rest rest' : List Char}
    (hdigits : ∀ c ∈ digits, c.isDigit = true) (hdigits' : ∀ c ∈ digits', c.isDigit = true)
    (hrest : ∀ c ∈ rest.head?, c.isDigit = false) (hrest' : ∀ c ∈ rest'.head?, c.isDigit = false)
    (h : digits ++ rest = digits' ++ rest') : digits = digits' ∧ rest = rest' :=
  run_append_injective hdigits hdigits' hrest hrest' h

/-- A text starts with digits, and the mark is what ends them. -/
structure EndsFirstDigits (mark : Char) (text : List Char) : Prop where
  mark_not_digit : mark.isDigit = false
  split : ∃ digits rest, digits ≠ [] ∧ (∀ c ∈ digits, c.isDigit = true) ∧ text = digits ++ mark :: rest

/-- The first digits of a text end only once. -/
theorem EndsFirstDigits.unique {mark mark' : Char} {text : List Char} (h : EndsFirstDigits mark text)
    (h' : EndsFirstDigits mark' text) : mark = mark' := by
  obtain ⟨hmark, digits, rest, _, hdigits, rfl⟩ := h
  obtain ⟨hmark', digits', rest', _, hdigits', hsame⟩ := h'
  obtain ⟨_, hrest⟩ := append_eq_append_of_isDigit hdigits hdigits'
    (fun c hc => by rw [← Option.mem_some.mp hc]; exact hmark)
    (fun c hc => by rw [← Option.mem_some.mp hc]; exact hmark') hsame
  exact (List.cons.inj hrest).1

/-- A character of texts in a row stands in one of them or between two. -/
theorem mem_of_mem_intercalate {c : Char} {between : List Char} {parts : List (List Char)}
    (h : c ∈ between.intercalate parts) : c ∈ between ∨ ∃ part ∈ parts, c ∈ part := by
  induction parts with
  | nil => cases h
  | cons part rest ih =>
    cases rest with
    | nil =>
      rw [List.intercalate_singleton] at h
      exact .inr ⟨part, List.mem_cons_self, h⟩
    | cons next rest =>
      rw [List.intercalate_cons_cons, List.mem_append, List.mem_append] at h
      rcases h with (h | h) | h
      · exact .inr ⟨part, List.mem_cons_self, h⟩
      · exact .inl h
      · rcases ih h with h | ⟨other, hother, h⟩
        · exact .inl h
        · exact .inr ⟨other, List.mem_cons_of_mem part hother, h⟩

end Text

namespace Number

/-- Numbers are told by their decimal digits. -/
theorem toDigits_injective {m n : Nat} (h : Nat.toDigits 10 m = Nat.toDigits 10 n) : m = n := by
  have hread := congrArg (fun digits => Nat.ofDigitChars 10 digits 0) h
  simpa only [Nat.ofDigitChars_ten_toDigits] using hread

/-- The number of digits limits the number that they denote. -/
theorem ofDigits_lt {base : Nat} {digits : List Nat} (h : ∀ digit ∈ digits, digit < base) :
    ofDigits base digits < base ^ digits.length := by
  unfold ofDigits
  induction digits using List.reverseRecOn with
  | nil => simp
  | append_singleton digits digit ih =>
    have hdigit : digit < base := h digit (by simp)
    have hrest := ih fun other hother => h other (by simp [hother])
    rw [List.foldl_append, List.length_append, List.length_singleton, Nat.pow_succ]
    simp only [List.foldl_cons, List.foldl_nil]
    have hstep := Nat.mul_le_mul_right base (Nat.succ_le_of_lt hrest)
    rw [Nat.succ_mul] at hstep
    omega

/-- An integer is written with digits and a minus sign. -/
theorem eq_minus_or_isDigit_of_mem_integerText {n : Int} {c : Char} (h : c ∈ (integerText n).toList) :
    c = '-' ∨ c.isDigit = true := by
  rw [integerText, String.toList_ofList, List.mem_append] at h
  rcases h with hsign | hdigit
  · split_ifs at hsign
    · exact .inl (List.mem_singleton.mp hsign)
    · cases hsign
  · exact .inr (Nat.isDigit_of_mem_toDigits (by decide) (by decide) hdigit)

end Number

namespace Calendar

/-- A padded number is written with digits. -/
theorem isDigit_of_mem_padded {width n : Nat} {c : Char} (h : c ∈ padded width n) : c.isDigit = true := by
  rcases List.mem_append.mp h with hzero | hdigit
  · rw [(List.mem_replicate.mp hzero).2]
    rfl
  · exact Nat.isDigit_of_mem_toDigits (by decide) (by decide) hdigit

/-- The digits of a number that is small enough fill the width. -/
theorem length_padded {width n : Nat} (hwidth : 0 < width) (h : n < 10 ^ width) :
    (padded width n).length = width := by
  have hlength := (Nat.length_toDigits_le_iff (by decide) hwidth).mpr h
  unfold padded
  rw [List.length_append, List.length_replicate]
  omega

/-- Zeros in front do not change a number. -/
theorem ofDigitChars_padded (width n : Nat) : Nat.ofDigitChars 10 (padded width n) 0 = n := by
  unfold padded
  rw [Nat.ofDigitChars_append, Nat.ofDigitChars_replicate_zero, Nat.mul_zero, Nat.ofDigitChars_ten_toDigits]

/-- Numbers padded to one width are told by their text. -/
theorem padded_injective {width m n : Nat} (h : padded width m = padded width n) : m = n := by
  have hread := congrArg (fun digits => Nat.ofDigitChars 10 digits 0) h
  simpa only [ofDigitChars_padded] using hread

end Calendar

end SqlInsert
