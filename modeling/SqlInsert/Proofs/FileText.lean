import SqlInsert.CommandLine.Ending
import Mathlib
/-!
# Texts in files

The bytes of a text are read back as that text. What a reader of lines then makes of it differs from it
exactly if there is a return in it, as no return is left.
-/

namespace SqlInsert.Text

/-! ## Bytes -/

/-- A byte within the bounds continues a character. -/
theorem completeChar_cons (used value count : Nat) {low high byte : Nat} (rest : List UInt8)
    (hlow : low ≤ byte) (hhigh : byte ≤ high) (hbyte : byte < 256) :
    completeChar used ⟨value, count + 1, low, high⟩ (UInt8.ofNat byte :: rest) =
      completeChar (used + 1) ⟨value * 64 + (byte - 0x80), count, 0x80, 0xBF⟩ rest := by
  have hnat : (UInt8.ofNat byte).toNat = byte := UInt8.toNat_ofNat_of_lt' hbyte
  rw [completeChar, hnat, if_pos ⟨hlow, hhigh⟩]

/-- A character is complete when no byte is missing. -/
theorem completeChar_zero (used value low high : Nat) (rest : List UInt8) :
    completeChar used ⟨value, 0, low, high⟩ rest = .ok (value, rest) := by
  cases rest <;> rfl

/-- The first of two bytes, and the bounds for the second. -/
theorem continuation?_two {point : Nat} (hlow : 0x80 ≤ point) (hhigh : point < 0x800) :
    continuation? (point / 64 % 32 + 192) = some ⟨point / 64, 1, 0x80, 0xBF⟩ := by
  have hlead : point / 64 % 32 = point / 64 := by omega
  unfold continuation?
  rw [hlead, if_pos (by omega), Nat.add_sub_cancel]

/-- The first of three bytes, and the bounds that the second is in. -/
theorem exists_continuation_three {point : Nat} (hlow : 0x800 ≤ point) (hhigh : point < 0x10000)
    (hvalid : point < 0xD800 ∨ 0xDFFF < point) :
    ∃ low high, continuation? (point / 4096 % 16 + 224) = some ⟨point / 4096, 2, low, high⟩ ∧
      low ≤ point / 64 % 64 + 128 ∧ point / 64 % 64 + 128 ≤ high := by
  have hlead : point / 4096 % 16 = point / 4096 := by omega
  unfold continuation?
  rw [hlead, if_neg (by omega)]
  by_cases hfirst : point / 4096 = 0
  · rw [hfirst, if_pos rfl]
    exact ⟨_, _, rfl, by omega, by omega⟩
  · rw [if_neg (by omega)]
    by_cases hsurrogates : point / 4096 = 0xD
    · rw [hsurrogates, if_pos rfl]
      exact ⟨_, _, rfl, by omega, by omega⟩
    · rw [if_neg (by omega), if_pos (by omega), Nat.add_sub_cancel]
      exact ⟨_, _, rfl, by omega, by omega⟩

/-- The first of four bytes, and the bounds that the second is in. -/
theorem exists_continuation_four {point : Nat} (hlow : 0x10000 ≤ point) (hhigh : point < 0x110000) :
    ∃ low high, continuation? (point / 262144 % 8 + 240) = some ⟨point / 262144, 3, low, high⟩ ∧
      low ≤ point / 4096 % 64 + 128 ∧ point / 4096 % 64 + 128 ≤ high := by
  have hlead : point / 262144 % 8 = point / 262144 := by omega
  unfold continuation?
  rw [hlead, if_neg (by omega), if_neg (by omega), if_neg (by omega), if_neg (by omega)]
  by_cases hfirst : point / 262144 = 0
  · rw [hfirst, if_pos rfl]
    exact ⟨_, _, rfl, by omega, by omega⟩
  · rw [if_neg (by omega)]
    by_cases hlast : point / 262144 = 4
    · rw [hlast, if_pos rfl]
      exact ⟨_, _, rfl, by omega, by omega⟩
    · rw [if_neg (by omega), if_pos (by omega), Nat.add_sub_cancel]
      exact ⟨_, _, rfl, by omega, by omega⟩

/-- A byte from 128 on tells by itself how the character goes on. -/
theorem firstChar_of_continuation {byte : Nat} {going : Continuation} (rest : List UInt8)
    (hbyte : byte < 256) (hascii : 0x80 ≤ byte) (h : continuation? byte = some going) :
    firstChar (UInt8.ofNat byte) rest = completeChar 1 going rest := by
  have hnat : (UInt8.ofNat byte).toNat = byte := UInt8.toNat_ofNat_of_lt' hbyte
  rw [firstChar, hnat, if_neg (Nat.not_lt.mpr hascii), h]

/-- The bytes of a character are read as its code point, whatever is behind them. -/
theorem exists_firstChar_encode (c : Char) :
    ∃ byte bytes, String.utf8EncodeChar c = byte :: bytes ∧
      ∀ rest, firstChar byte (bytes ++ rest) = .ok (c.toNat, rest) := by
  have hvalid : c.toNat < 0xD800 ∨ 0xDFFF < c.toNat ∧ c.toNat < 0x110000 := c.valid
  change c.val.toNat < 0xD800 ∨ 0xDFFF < c.val.toNat ∧ c.val.toNat < 0x110000 at hvalid
  change ∃ byte bytes, _ ∧ ∀ rest, firstChar byte (bytes ++ rest) = .ok (c.val.toNat, rest)
  unfold String.utf8EncodeChar
  generalize c.val.toNat = point at hvalid ⊢
  dsimp only
  split_ifs with hone htwo hthree
  · refine ⟨_, _, rfl, fun rest => ?_⟩
    have hbyte : point < 256 := by omega
    have hnat : (UInt8.ofNat point).toNat = point := UInt8.toNat_ofNat_of_lt' hbyte
    rw [firstChar, hnat, if_pos (by omega), List.nil_append]
  · refine ⟨_, _, rfl, fun rest => ?_⟩
    have hgoing := continuation?_two (by omega) (Nat.lt_succ_of_le htwo)
    have hvalue : point / 64 * 64 + (point % 64 + 128 - 0x80) = point := by omega
    rw [firstChar_of_continuation _ (by omega) (by omega) hgoing, List.cons_append, List.nil_append,
      completeChar_cons _ _ _ _ (by omega) (by omega) (by omega), completeChar_zero, hvalue]
  · refine ⟨_, _, rfl, fun rest => ?_⟩
    obtain ⟨low, high, hgoing, hlow, hhigh⟩ :=
      exists_continuation_three (by omega) (Nat.lt_succ_of_le hthree) (by omega)
    have hvalue : (point / 4096 * 64 + (point / 64 % 64 + 128 - 0x80)) * 64 + (point % 64 + 128 - 0x80) = point := by
      omega
    rw [firstChar_of_continuation _ (by omega) (by omega) hgoing, List.cons_append, List.cons_append, List.nil_append,
      completeChar_cons _ _ _ _ hlow hhigh (by omega),
      completeChar_cons _ _ _ _ (by omega) (by omega) (by omega), completeChar_zero, hvalue]
  · refine ⟨_, _, rfl, fun rest => ?_⟩
    obtain ⟨low, high, hgoing, hlow, hhigh⟩ := exists_continuation_four (Nat.lt_of_not_le hthree) (by omega)
    have hvalue : ((point / 262144 * 64 + (point / 4096 % 64 + 128 - 0x80)) * 64 +
        (point / 64 % 64 + 128 - 0x80)) * 64 + (point % 64 + 128 - 0x80) = point := by
      omega
    rw [firstChar_of_continuation _ (by omega) (by omega) hgoing, List.cons_append, List.cons_append, List.cons_append,
      List.nil_append, completeChar_cons _ _ _ _ hlow hhigh (by omega),
      completeChar_cons _ _ _ _ (by omega) (by omega) (by omega),
      completeChar_cons _ _ _ _ (by omega) (by omega) (by omega), completeChar_zero, hvalue]

/-- Decoding an encoded text gives the text behind what was decoded already. -/
theorem decodeFrom_encode (text : List Char) {fuel : Nat} (position : Nat) (reversed : List Char)
    (hfuel : (encode text).length ≤ fuel) :
    decodeFrom fuel position reversed (encode text) = .ok (reversed.reverse ++ text) := by
  -- One character takes one step of the fuel, which counts the bytes and so is never short.
  induction text generalizing fuel position reversed with
  | nil => cases fuel <;> simp only [encode, List.flatMap_nil, decodeFrom, List.append_nil]
  | cons c rest ih =>
    obtain ⟨byte, bytes, hencode, hfirst⟩ := exists_firstChar_encode c
    have hcons : encode (c :: rest) = byte :: (bytes ++ encode rest) := by
      rw [encode, List.flatMap_cons, hencode, List.cons_append, encode]
    rw [hcons] at hfuel ⊢
    obtain _ | fuel := fuel
    · cases hfuel
    · have hrest : (encode rest).length ≤ fuel := by
        simp only [List.length_cons, List.length_append] at hfuel
        omega
      rw [decodeFrom, hfirst]
      simp only [Char.ofNat_toNat, ih _ _ hrest, List.reverse_cons, List.append_assoc, List.singleton_append]

/-- A text is read back from its bytes. -/
theorem decode_encode (text : List Char) : decode (encode text) = .ok text :=
  decodeFrom_encode text 0 [] (Nat.le_refl _)

/-- Two texts with the same bytes are the same. -/
theorem encode_injective : Function.Injective encode := by
  intro first second h
  have hdecoded := decode_encode second
  rw [← h, decode_encode] at hdecoded
  exact Except.ok.inj hdecoded

/-! ## Ends of lines -/

/-- Without carriage returns every line end stays as it is. -/
theorem flatMap_feedFor_eq_self {before : Char} {text : List Char} (hbefore : before ≠ '\r')
    (htext : '\r' ∉ text) : ((before :: text).zip text).flatMap feedFor = text := by
  induction text generalizing before with
  | nil => rfl
  | cons c rest ih =>
    obtain ⟨hc, hrest⟩ := not_or.mp fun h => htext (List.mem_cons.mpr h)
    have hfeed : feedFor (before, c) = [c] := by
      rw [feedFor, if_neg (Ne.symm hc), if_neg fun h => hbefore h.2]
    rw [List.zip_cons_cons, List.flatMap_cons, hfeed, ih (Ne.symm hc) hrest, List.singleton_append]

/-- No return is left. -/
theorem return_not_mem_plainFeeds (text : List Char) : '\r' ∉ plainFeeds text := by
  unfold plainFeeds
  rw [List.mem_flatMap]
  rintro ⟨⟨before, c⟩, _, hfeed⟩
  unfold feedFor at hfeed
  dsimp only at hfeed
  split_ifs at hfeed with hreturn
  · cases List.mem_singleton.mp hfeed
  · cases hfeed
  · exact hreturn (List.mem_singleton.mp hfeed).symm

/-- The ends of lines are as they were exactly if there is no return. -/
theorem plainFeeds_eq_self_iff {text : List Char} : plainFeeds text = text ↔ '\r' ∉ text := by
  constructor
  · intro h
    rw [← h]
    exact return_not_mem_plainFeeds text
  · exact flatMap_feedFor_eq_self (by decide)

/-- A text that is not empty has something in it after that. -/
theorem plainFeeds_ne_nil {text : List Char} (h : text ≠ []) : plainFeeds text ≠ [] := by
  obtain ⟨c, rest, rfl⟩ := List.exists_cons_of_ne_nil h
  have hfirst : feedFor ('\n', c) ≠ [] := by
    unfold feedFor
    dsimp only
    split_ifs with _ hfeed
    · exact List.cons_ne_nil _ _
    · exact absurd hfeed.2 (by decide)
    · exact List.cons_ne_nil _ _
  rw [plainFeeds, List.zip_cons_cons, List.flatMap_cons]
  exact List.append_ne_nil_of_left_ne_nil hfirst _

end SqlInsert.Text
