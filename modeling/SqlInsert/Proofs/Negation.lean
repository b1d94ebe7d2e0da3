import Mathlib
import SqlInsert.Proofs.NumberReading
import SqlInsert.Proofs.Resolution
/-!
# Negation of number constants

A number constant is negated exactly if it is an integer. The negative of a decimal number is a result of
arithmetic, so it is one of the numbers that the context of arithmetic can hold: no number of the context is
nearer to the exact negative, and where the exact negative is beyond all of them there is none.
-/

namespace SqlInsert

namespace Number

/-- Whether a number of the context stands for the quantity: its digits are no more than the precision, the
last one is not below the least exponent, and the first one is not above the greatest. -/
def DecimalContext.Holds (context : DecimalContext) (quantity : Rat) : Prop :=
  ∃ (coefficient : Nat) (exponent : Int), coefficient < 10 ^ context.precision ∧
    context.leastExponent ≤ exponent ∧ |quantity| = coefficient * 10 ^ exponent ∧
    |quantity| < 10 ^ (context.maxExponent + 1)

/-- A context holds a quantity and its negative alike. -/
theorem DecimalContext.Holds.neg {context : DecimalContext} {quantity : Rat} (h : context.Holds quantity) :
    context.Holds (-quantity) := by
  unfold DecimalContext.Holds
  rw [abs_neg]
  exact h

/-- Every context holds zero. -/
theorem DecimalContext.holds_zero (context : DecimalContext) : context.Holds 0 := by
  refine ⟨0, context.leastExponent, Nat.pow_pos (by decide), le_refl _, ?_, ?_⟩
  · simp
  · rw [abs_zero]
    positivity

namespace Decimal

/-! ## Digits and powers of ten -/

/-- A coefficient lies below ten to the number of its digits. -/
theorem lt_pow_digitCount (coefficient : Nat) : coefficient < 10 ^ digitCount coefficient :=
  (Nat.length_toDigits_le_iff (by decide) Nat.length_toDigits_pos).mp (le_refl _)

/-- A coefficient of more digits reaches ten to any smaller positive number of places. -/
theorem pow_le_of_lt_digitCount {coefficient places : Nat} (hplaces : 0 < places)
    (h : places < digitCount coefficient) : 10 ^ places ≤ coefficient := by
  have hnot := (Nat.length_toDigits_le_iff (n := coefficient) (by decide : 1 < 10) hplaces).not
  exact not_lt.mp (hnot.mp (not_le.mpr h))

/-- A coefficient other than zero reaches ten to one less than the number of its digits. -/
theorem pow_pred_digitCount_le {coefficient : Nat} (h : coefficient ≠ 0) :
    10 ^ (digitCount coefficient - 1) ≤ coefficient := by
  by_cases hone : digitCount coefficient - 1 = 0
  · rw [hone, pow_zero]
    omega
  · exact pow_le_of_lt_digitCount (by omega) (by omega)

/-- Powers of ten are positive. -/
theorem ten_zpow_pos (exponent : Int) : (0 : Rat) < 10 ^ exponent := by positivity

/-- Places can be moved between the digits and the power. -/
theorem ten_pow_mul_zpow (places : Nat) (exponent : Int) :
    ((10 ^ places : Nat) : Rat) * 10 ^ exponent = 10 ^ (exponent + places) := by
  rw [zpow_add₀ (by decide), zpow_natCast, Nat.cast_pow, Nat.cast_ofNat, mul_comm]

/-- The exponent of the first digit tells the power of ten that is above the number. -/
theorem adjustedExponent_le_iff {coefficient : Nat} (h : coefficient ≠ 0) (exponent greatest : Int) :
    adjustedExponent coefficient exponent ≤ greatest ↔
      (coefficient : Rat) * 10 ^ exponent < 10 ^ (greatest + 1) := by
  have hupper : (coefficient : Rat) * 10 ^ exponent < 10 ^ (exponent + digitCount coefficient) := by
    rw [← ten_pow_mul_zpow]
    exact mul_lt_mul_of_pos_right (by exact_mod_cast lt_pow_digitCount coefficient) (ten_zpow_pos exponent)
  have hlower : (10 : Rat) ^ (exponent + (digitCount coefficient - 1 : Nat)) ≤ coefficient * 10 ^ exponent := by
    rw [← ten_pow_mul_zpow]
    exact mul_le_mul_of_nonneg_right (by exact_mod_cast pow_pred_digitCount_le h) (ten_zpow_pos exponent).le
  have hpos : 0 < digitCount coefficient := Nat.length_toDigits_pos
  unfold adjustedExponent
  constructor
  · intro hle
    exact hupper.trans_le (zpow_le_zpow_right₀ (by decide) (by omega))
  · intro hlt
    have hexponent := (zpow_lt_zpow_iff_right₀ (by decide : (1 : Rat) < 10)).mp (hlower.trans_lt hlt)
    omega

/-! ## Rounding -/

/-- A rounded coefficient is off by no more than half a unit of the last place that is kept. -/
theorem roundHalfEven_bounds (coefficient dropped : Nat) :
    2 * (roundHalfEven coefficient dropped * 10 ^ dropped) ≤ 2 * coefficient + 10 ^ dropped ∧
      2 * coefficient ≤ 2 * (roundHalfEven coefficient dropped * 10 ^ dropped) + 10 ^ dropped := by
  unfold roundHalfEven
  by_cases hshort : digitCount coefficient < dropped
  · have hlt := lt_pow_digitCount coefficient
    have hle : 10 ^ digitCount coefficient ≤ 10 ^ (dropped - 1) := Nat.pow_le_pow_right (by decide) (by omega)
    have hstep : 10 ^ dropped = 10 * 10 ^ (dropped - 1) := by
      rw [← Nat.pow_succ', Nat.succ_eq_add_one, Nat.sub_add_cancel (by omega)]
    rw [if_pos hshort, hstep]
    omega
  · rw [if_neg hshort]
    have hunit : Nat.pow 10 dropped = 10 ^ dropped := rfl
    have hdivide := Nat.div_add_mod coefficient (10 ^ dropped)
    have hrest := Nat.mod_lt coefficient (Nat.pow_pos (n := dropped) (by decide : 0 < 10))
    rw [hunit]
    dsimp only
    generalize coefficient % 10 ^ dropped = rest at hdivide hrest
    generalize coefficient / 10 ^ dropped = kept at hdivide
    generalize 10 ^ dropped = unit at hdivide hrest
    rw [Nat.mul_comm] at hdivide
    split
    · rw [Nat.add_one_mul kept unit]
      omega
    · omega

/-- The quantity that is rounded is at least as far from any other multiple of the unit. -/
theorem abs_sub_le_of_multiple {kept : Int} {unit quantity : Rat} (other : Int) (hunit : 0 < unit)
    (hnear : 2 * |kept * unit - quantity| ≤ unit) :
    |kept * unit - quantity| ≤ |other * unit - quantity| := by
  by_cases hsame : other = kept
  · rw [hsame]
  · have hgap : (1 : Rat) ≤ |((other - kept : Int) : Rat)| := by
      rw [← Int.cast_abs]
      exact_mod_cast Int.one_le_abs (sub_ne_zero.mpr hsame)
    have hapart : unit ≤ |other * unit - kept * unit| := by
      rw [← sub_mul, ← Int.cast_sub, abs_mul, abs_of_pos hunit]
      nlinarith
    have htriangle : |other * unit - kept * unit| ≤ |other * unit - quantity| + |kept * unit - quantity| := by
      rw [abs_sub_comm (kept * unit) quantity]
      exact abs_sub_le _ _ _
    linarith

section

variable {context : DecimalContext} {coefficient : Nat}

/-- How many places of a number a context drops. -/
def droppedPlaces (context : DecimalContext) (coefficient : Nat) (exponent : Int) : Nat :=
  (max ((digitCount coefficient : Int) - context.precision) (context.leastExponent - exponent)).toNat

/-- The exponent of the last place that is kept. -/
def lastKept (context : DecimalContext) (coefficient : Nat) (exponent : Int) : Int :=
  exponent + droppedPlaces context coefficient exponent

/-- Where no place is dropped the number is a multiple of the last one that is kept. Else a quantity of the
context is a multiple of it, or not above a multiple that is not above the number: such a number has more
digits than the context. -/
theorem exists_multiple (exponent : Int) (hprecision : 0 < context.precision) (hcoefficient : coefficient ≠ 0)
    {quantity : Rat} (hheld : context.Holds quantity) :
    ∃ multiple : Int,
      (multiple * 10 ^ lastKept context coefficient exponent : Rat) = coefficient * 10 ^ exponent ∨
      |quantity| = multiple * 10 ^ lastKept context coefficient exponent ∨
      |quantity| ≤ multiple * 10 ^ lastKept context coefficient exponent ∧
        multiple * 10 ^ lastKept context coefficient exponent ≤ (coefficient : Rat) * 10 ^ exponent := by
  obtain ⟨digits, last, hdigits, hlast, hquantity, _⟩ := hheld
  by_cases hnone : lastKept context coefficient exponent = exponent
  · refine ⟨coefficient, .inl ?_⟩
    rw [hnone, Int.cast_natCast]
  · by_cases hgrid : lastKept context coefficient exponent ≤ last
    · refine ⟨(digits * 10 ^ (last - lastKept context coefficient exponent).toNat : Nat), .inr (.inl ?_)⟩
      have hplaces : lastKept context coefficient exponent +
          (last - lastKept context coefficient exponent).toNat = last := by omega
      rw [hquantity, Int.cast_natCast, Nat.cast_mul, mul_assoc, ten_pow_mul_zpow, hplaces]
    · refine ⟨(10 ^ (context.precision - 1) : Nat), .inr (.inr ⟨?_, ?_⟩)⟩
      · calc |quantity| ≤ ((10 ^ context.precision : Nat) : Rat) * 10 ^ last := by
              rw [hquantity]
              exact mul_le_mul_of_nonneg_right (by exact_mod_cast hdigits.le) (ten_zpow_pos last).le
          _ = 10 ^ (last + context.precision) := ten_pow_mul_zpow _ _
          _ ≤ 10 ^ (lastKept context coefficient exponent + (context.precision - 1 : Nat)) :=
              zpow_le_zpow_right₀ (by decide) (by omega)
          _ = ((10 ^ (context.precision - 1) : Nat) : Int) * 10 ^ lastKept context coefficient exponent := by
              rw [Int.cast_natCast, ten_pow_mul_zpow]
      · have hcount : lastKept context coefficient exponent + (context.precision - 1 : Nat) ≤
            exponent + (digitCount coefficient - 1 : Nat) := by
          unfold lastKept droppedPlaces at hgrid hnone ⊢
          omega
        calc (((10 ^ (context.precision - 1) : Nat) : Int) : Rat) * 10 ^ lastKept context coefficient exponent
            = 10 ^ (lastKept context coefficient exponent + (context.precision - 1 : Nat)) := by
              rw [Int.cast_natCast, ten_pow_mul_zpow]
          _ ≤ 10 ^ (exponent + (digitCount coefficient - 1 : Nat)) := zpow_le_zpow_right₀ (by decide) hcount
          _ = ((10 ^ (digitCount coefficient - 1) : Nat) : Rat) * 10 ^ exponent := (ten_pow_mul_zpow _ _).symm
          _ ≤ (coefficient : Rat) * 10 ^ exponent :=
              mul_le_mul_of_nonneg_right (by exact_mod_cast pow_pred_digitCount_le hcoefficient)
                (ten_zpow_pos exponent).le

/-- No quantity of the context is nearer than a multiple of the last place that is off by no more than half
of it. -/
theorem abs_sub_le_of_holds (hprecision : 0 < context.precision) (hcoefficient : coefficient ≠ 0)
    {exponent kept : Int}
    (hnear : 2 * |kept * 10 ^ lastKept context coefficient exponent - (coefficient : Rat) * 10 ^ exponent| ≤
      10 ^ lastKept context coefficient exponent)
    {quantity : Rat} (hheld : context.Holds quantity) :
    |kept * 10 ^ lastKept context coefficient exponent - (coefficient : Rat) * 10 ^ exponent| ≤
      |(|quantity| - (coefficient : Rat) * 10 ^ exponent)| := by
  obtain ⟨multiple, hmultiple⟩ := exists_multiple exponent hprecision hcoefficient hheld
  have hnearest := abs_sub_le_of_multiple multiple (ten_zpow_pos _) hnear
  rcases hmultiple with hitself | hmultiple | ⟨hbelow, habove⟩
  · rw [hitself, sub_self, abs_zero] at hnearest
    exact hnearest.trans (abs_nonneg _)
  · rw [hmultiple]
    exact hnearest
  · rw [abs_of_nonpos (sub_nonpos.mpr habove)] at hnearest
    rw [abs_of_nonpos (sub_nonpos.mpr (hbelow.trans habove))]
    linarith

/-- The rounded coefficient is off by no more than half of the last place that is kept. -/
theorem near_roundHalfEven (context : DecimalContext) (coefficient : Nat) (exponent : Int) :
    2 * |((roundHalfEven coefficient (droppedPlaces context coefficient exponent) : Int) : Rat) *
        10 ^ lastKept context coefficient exponent - (coefficient : Rat) * 10 ^ exponent| ≤
      10 ^ lastKept context coefficient exponent := by
  obtain ⟨habove, hbelow⟩ := roundHalfEven_bounds coefficient (droppedPlaces context coefficient exponent)
  unfold lastKept
  rw [← ten_pow_mul_zpow]
  generalize roundHalfEven coefficient (droppedPlaces context coefficient exponent) = kept at habove hbelow
  generalize 10 ^ droppedPlaces context coefficient exponent = unit at habove hbelow
  have habove' : (2 : Rat) * (kept * unit) ≤ 2 * coefficient + unit := by exact_mod_cast habove
  have hbelow' : (2 : Rat) * coefficient ≤ 2 * (kept * unit) + unit := by exact_mod_cast hbelow
  have hhalf : |(kept : Rat) * unit - coefficient| ≤ unit / 2 := by
    rw [abs_le]
    constructor <;> linarith
  rw [Int.cast_natCast, ← mul_assoc, ← sub_mul, abs_mul, abs_of_pos (ten_zpow_pos exponent), ← mul_assoc]
  exact mul_le_mul_of_nonneg_right (by linarith) (ten_zpow_pos exponent).le

/-- Rounding leaves no more digits than the precision, but for a carry. -/
theorem roundHalfEven_le (context : DecimalContext) (coefficient : Nat) (exponent : Int) :
    roundHalfEven coefficient (droppedPlaces context coefficient exponent) ≤ 10 ^ context.precision := by
  obtain ⟨habove, _⟩ := roundHalfEven_bounds coefficient (droppedPlaces context coefficient exponent)
  have hcount : digitCount coefficient ≤ context.precision + droppedPlaces context coefficient exponent := by
    unfold droppedPlaces
    omega
  have hlt : coefficient < 10 ^ context.precision * 10 ^ droppedPlaces context coefficient exponent := by
    rw [← Nat.pow_add]
    exact (lt_pow_digitCount coefficient).trans_le (Nat.pow_le_pow_right (by decide) hcount)
  have hunit : 0 < 10 ^ droppedPlaces context coefficient exponent := Nat.pow_pos (by decide)
  generalize roundHalfEven coefficient (droppedPlaces context coefficient exponent) = kept at habove ⊢
  generalize 10 ^ droppedPlaces context coefficient exponent = unit at habove hlt hunit
  by_contra hmore
  have hstep := Nat.mul_le_mul_right unit (Nat.succ_le_of_lt (not_le.mp hmore))
  rw [Nat.succ_mul] at hstep
  omega

/-- A number is rounded to zero only at the least exponent. -/
theorem lastKept_of_roundHalfEven_eq_zero (hprecision : 0 < context.precision) (hcoefficient : coefficient ≠ 0)
    {exponent : Int} (h : roundHalfEven coefficient (droppedPlaces context coefficient exponent) = 0) :
    lastKept context coefficient exponent = context.leastExponent := by
  obtain ⟨_, hbelow⟩ := roundHalfEven_bounds coefficient (droppedPlaces context coefficient exponent)
  rw [h, Nat.zero_mul, Nat.mul_zero, Nat.zero_add] at hbelow
  have hdropped : digitCount coefficient - 1 < droppedPlaces context coefficient exponent := by
    by_contra hless
    have hpower : 10 ^ droppedPlaces context coefficient exponent ≤ coefficient :=
      (Nat.pow_le_pow_right (by decide) (not_lt.mp hless)).trans (pow_pred_digitCount_le hcoefficient)
    omega
  have hpos : 0 < digitCount coefficient := Nat.length_toDigits_pos
  unfold lastKept
  unfold droppedPlaces at hdropped ⊢
  omega

/-- A carry moves one place into the exponent. -/
theorem exists_carried (hprecision : 0 < context.precision) {kept : Nat} (hkept : kept ≤ 10 ^ context.precision)
    (scale : Int) :
    ∃ kept' scale', (if context.precision < digitCount kept then (kept / 10, scale + 1) else (kept, scale)) =
        (kept', scale') ∧
      kept' < 10 ^ context.precision ∧ scale ≤ scale' ∧ (kept' : Rat) * 10 ^ scale' = kept * 10 ^ scale ∧
      (kept' = 0 → kept = 0 ∧ scale' = scale) := by
  by_cases hcarry : context.precision < digitCount kept
  · have hpow : kept = 10 ^ context.precision :=
      le_antisymm hkept (pow_le_of_lt_digitCount hprecision hcarry)
    have htenth : 10 ^ context.precision / 10 = 10 ^ (context.precision - 1) :=
      Nat.pow_div hprecision (by decide)
    refine ⟨_, _, if_pos hcarry, ?_⟩
    rw [hpow, htenth]
    refine ⟨Nat.pow_lt_pow_right (by decide) (by omega), by omega, ?_, fun hzero => ?_⟩
    · rw [ten_pow_mul_zpow, ten_pow_mul_zpow]
      congr 1
      omega
    · exact absurd hzero (Nat.pow_pos (by decide)).ne'
  · refine ⟨_, _, if_neg hcarry, ?_, le_refl _, rfl, fun hzero => ⟨hzero, rfl⟩⟩
    exact (Nat.length_toDigits_le_iff (by decide) hprecision).mp (not_lt.mp hcarry)

/-- A number is rounded to a number of the context, and none of the context is nearer; it overflows only if
all numbers of the context are below it. -/
theorem rounded_cases (negative : Bool) (exponent : Int) (hprecision : 0 < context.precision)
    (hrange : context.leastExponent ≤ context.maxExponent) (hcoefficient : coefficient ≠ 0) :
    (rounded context negative coefficient exponent = .error .overflow ∧
      ∀ quantity, context.Holds quantity → |quantity| < (coefficient : Rat) * 10 ^ exponent) ∨
    ∃ kept scale, rounded context negative coefficient exponent = .ok (.finite negative kept scale) ∧
      context.Holds ((kept : Rat) * 10 ^ scale) ∧
      ∀ quantity, context.Holds quantity →
        |(kept : Rat) * 10 ^ scale - (coefficient : Rat) * 10 ^ exponent| ≤
          |(|quantity| - (coefficient : Rat) * 10 ^ exponent)| := by
  obtain ⟨kept, scale, hcarried, hdigits, hscale, hquantity, hzero⟩ :=
    exists_carried hprecision (roundHalfEven_le context coefficient exponent) (lastKept context coefficient exponent)
  have hnear := near_roundHalfEven context coefficient exponent
  have hnearest (quantity : Rat) (hheld : context.Holds quantity) :=
    abs_sub_le_of_holds hprecision hcoefficient hnear hheld
  rw [Int.cast_natCast, ← hquantity] at hnearest
  have hrounded : rounded context negative coefficient exponent =
      if context.maxExponent < adjustedExponent coefficient exponent then .error .overflow
      else if context.maxExponent < adjustedExponent kept scale then .error .overflow
      else .ok (.finite negative kept scale) := by
    unfold rounded
    rw [if_neg hcoefficient]
    unfold lastKept droppedPlaces at hcarried
    dsimp only
    rw [hcarried]
  rw [hrounded]
  -- The exponent can be too large before the rounding, or become too large by the digit that it carries over.
  by_cases hbeyond : context.maxExponent < adjustedExponent coefficient exponent
  · have hlimit := (adjustedExponent_le_iff hcoefficient exponent context.maxExponent).not.mp (not_le.mpr hbeyond)
    refine .inl ⟨if_pos hbeyond, ?_⟩
    rintro quantity ⟨_, _, _, _, _, hbelow⟩
    exact hbelow.trans_le (not_lt.mp hlimit)
  · rw [if_neg hbeyond]
    by_cases hcarriedBeyond : context.maxExponent < adjustedExponent kept scale
    · have hkept : kept ≠ 0 := by
        rintro rfl
        obtain ⟨hnothing, rfl⟩ := hzero rfl
        rw [lastKept_of_roundHalfEven_eq_zero hprecision hcoefficient hnothing, adjustedExponent,
          show digitCount 0 = 1 from rfl] at hcarriedBeyond
        omega
      have hlimit := (adjustedExponent_le_iff hkept scale context.maxExponent).not.mp (not_le.mpr hcarriedBeyond)
      refine .inl ⟨if_pos hcarriedBeyond, fun quantity hheld => ?_⟩
      -- A quantity of the context above the number would be nearer than the one that is beyond all of them.
      by_contra hreaches
      have hless := hnearest quantity hheld
      obtain ⟨_, _, _, _, _, hbelow⟩ := hheld
      rw [abs_of_nonneg (sub_nonneg.mpr (not_lt.mp hreaches))] at hless
      have hself := le_abs_self ((kept : Rat) * 10 ^ scale - coefficient * 10 ^ exponent)
      linarith [not_lt.mp hlimit]
    · refine .inr ⟨kept, scale, if_neg hcarriedBeyond, ⟨kept, scale, hdigits, ?_, ?_, ?_⟩, hnearest⟩
      · unfold lastKept droppedPlaces at hscale
        omega
      · exact abs_of_nonneg (mul_nonneg (Nat.cast_nonneg kept) (ten_zpow_pos scale).le)
      · rw [abs_of_nonneg (mul_nonneg (Nat.cast_nonneg kept) (ten_zpow_pos scale).le)]
        by_cases hkept : kept = 0
        · rw [hkept, Nat.cast_zero, zero_mul]
          exact ten_zpow_pos _
        · exact (adjustedExponent_le_iff hkept scale context.maxExponent).mp (not_lt.mp hcarriedBeyond)

end

/-! ## Negation -/

/-- The negative of a finite number in a context with a sensible range is one of the quantities of the
context, and none of them is nearer to the exact negative; it overflows only if all of them are below it. -/
theorem negated_cases {context : DecimalContext} (hprecision : 0 < context.precision)
    (hrange : context.leastExponent ≤ context.maxExponent) {number : Decimal} {quantity : Rat}
    (hquantity : number.rational? = some quantity) :
    (number.negated context = .error .overflow ∧ ∀ other, context.Holds other → |other| < |quantity|) ∨
    ∃ negative result, number.negated context = .ok negative ∧ negative.rational? = some result ∧
      context.Holds result ∧ ∀ other, context.Holds other → |result + quantity| ≤ |other + quantity| := by
  cases number with
  | infinity negative => cases hquantity
  | nan negative signaling payload => cases hquantity
  | finite negative coefficient exponent =>
    have hsame := (Option.some.inj hquantity).symm
    change (rounded context (!negative && coefficient != 0) coefficient exponent = _ ∧ _) ∨
      ∃ _ _, rounded context (!negative && coefficient != 0) coefficient exponent = _ ∧ _
    -- Zero has no digits to round, and its sign is not kept.
    by_cases hzero : coefficient = 0
    · rw [hzero, Nat.cast_zero, mul_zero, zero_mul] at hsame
      rw [hzero, hsame]
      refine .inr ⟨_, 0, if_pos rfl, ?_, context.holds_zero, fun other _ => ?_⟩
      · simp [rational?]
      · rw [add_zero, abs_zero]
        exact abs_nonneg _
    · have hsign : (!negative && coefficient != 0) = !negative := by
        rw [(bne_iff_ne).mpr hzero, Bool.and_true]
      have hpos : 0 ≤ (coefficient : Rat) * 10 ^ exponent :=
        mul_nonneg (Nat.cast_nonneg coefficient) (ten_zpow_pos exponent).le
      have habs : |quantity| = (coefficient : Rat) * 10 ^ exponent := by
        rw [hsame, mul_assoc, abs_mul, abs_of_nonneg hpos]
        cases negative <;> simp
      rw [hsign]
      rcases rounded_cases (!negative) exponent hprecision hrange hzero with
        ⟨hfault, hbelow⟩ | ⟨kept, scale, hresult, hheld, hnearest⟩
      · rw [habs]
        exact .inl ⟨hfault, hbelow⟩
      · have hturned (other : Rat) :
            |(|other| - (coefficient : Rat) * 10 ^ exponent)| ≤ |other + quantity| := by
          rw [← habs, ← abs_neg quantity, ← sub_neg_eq_add]
          exact abs_abs_sub_abs_le other (-quantity)
        refine .inr ⟨_, _, hresult, rfl, ?_, fun other hother => ?_⟩
        · cases negative with
          | false =>
            simp only [Bool.not_false, if_true, one_mul, neg_mul]
            exact hheld.neg
          | true =>
            simp only [Bool.not_true, Bool.false_eq_true, if_false, one_mul]
            exact hheld
        · refine le_trans (le_of_eq ?_) ((hnearest other hother).trans (hturned other))
          rw [hsame]
          cases negative with
          | false =>
            simp only [Bool.not_false, Bool.false_eq_true, if_true, if_false, one_mul, neg_mul]
            rw [neg_add_eq_sub, abs_sub_comm]
          | true =>
            simp only [Bool.not_true, Bool.false_eq_true, if_true, if_false, one_mul, neg_mul]
            rw [← sub_eq_add_neg]

/-- The negative of a finite number is exact exactly if the context has it. -/
theorem exists_exact_iff_holds {context : DecimalContext} (hprecision : 0 < context.precision)
    (hrange : context.leastExponent ≤ context.maxExponent) {number : Decimal} {quantity : Rat}
    (hquantity : number.rational? = some quantity) :
    (∃ negative, number.negated context = .ok negative ∧ negative.rational? = some (-quantity)) ↔
      context.Holds quantity := by
  rcases negated_cases hprecision hrange hquantity with
    ⟨hfault, hbelow⟩ | ⟨negative, result, hnegative, hresult, hheld, hnearest⟩
  · rw [hfault]
    refine iff_of_false ?_ fun hheld => lt_irrefl _ (hbelow quantity hheld)
    rintro ⟨_, hnone, _⟩
    cases hnone
  · constructor
    · rintro ⟨exact, hexact, hsame⟩
      rw [hnegative] at hexact
      cases hexact
      rw [hresult] at hsame
      rw [← neg_neg quantity, ← Option.some.inj hsame]
      exact hheld.neg
    · intro hquantityHeld
      refine ⟨negative, hnegative, ?_⟩
      have hzero := hnearest (-quantity) hquantityHeld.neg
      rw [neg_add_cancel, abs_zero] at hzero
      rw [hresult, eq_neg_of_add_eq_zero_left (abs_eq_zero.mp (le_antisymm hzero (abs_nonneg _)))]

end Decimal

end Number

/-! ## Number constants with a sign -/

namespace Constant

/-- A decimal constant is negated in the arithmetic context, faults included. -/
theorem negated_decimal (number : Number.Decimal) :
    (decimal number).negated =
      match number.negated .arithmetic with
      | .ok negative => .ok (.decimal negative)
      | .error fault => .error (.decimal fault) := rfl

end Constant

/-- A negated number literal is a constant: what the negative of the number comes to. -/
theorem Tree.IsResolution.of_isNegatedNumber {grammar : Grammar} {tree : Tree} {resolution : Logged Failure Value}
    (h : tree.IsResolution grammar resolution) (hform : tree.isNegatedNumber = true) :
    resolution = .ofExcept
      (((Constant.ofNumberText (tree.slot "this").content).negated.map .literal).mapError .conversion) := by
  have hkind : tree.kind? = some (.unary .minus) := Tree.kind?_of_isA (Bool.and_eq_true_iff.mp hform).1
  have hsort : tree.valueKind = .ok .literal := by
    unfold Tree.valueKind Tree.isBound
    rw [hform]
    unfold Tree.isA
    rw [hkind, Bool.or_true, Bool.true_or]
    rfl
  have hconstant : tree.constant = (Constant.ofNumberText (tree.slot "this").content).negated := by
    unfold Tree.constant
    rw [hkind]
  rw [h.of_literal hsort, hconstant]

/-- The negative of a number literal is exact if the number is an integer or one that the context of arithmetic
has, and only then. Of every other number it is the nearest one of the context, and where all of them are
below the number there is none. -/
theorem negation_exact_iff_holds (grammar : Grammar) {tree : Tree} {quantity : Rat}
    {resolution : Logged Failure Value} (hform : tree.isNegatedNumber = true)
    (hquantity : (Constant.ofNumberText (tree.slot "this").content).rational? = some quantity)
    (hresolution : tree.IsResolution grammar resolution) :
    ((∃ negative, resolution = .ok (.literal negative) ∧ negative.rational? = some (-quantity)) ↔
      (∃ n, Constant.ofNumberText (tree.slot "this").content = .int n) ∨
        Number.DecimalContext.arithmetic.Holds quantity) ∧
    (resolution = .fail (.conversion (.decimal .overflow)) ∧
        (∀ other, Number.DecimalContext.arithmetic.Holds other → |other| < |quantity|) ∨
      ∃ negative result, resolution = .ok (.literal negative) ∧ negative.rational? = some result ∧
        ∀ other, Number.DecimalContext.arithmetic.Holds other → |result + quantity| ≤ |other + quantity|) := by
  rw [hresolution.of_isNegatedNumber hform]
  cases hconstant : Constant.ofNumberText (tree.slot "this").content with
  | int n =>
    rw [hconstant] at hquantity
    have hexact : (Constant.int (-n)).rational? = some (-quantity) := by
      rw [← Option.some.inj hquantity]
      simp [Constant.rational?]
    refine ⟨iff_of_true ⟨_, rfl, hexact⟩ (.inl ⟨n, rfl⟩), .inr ⟨_, _, rfl, hexact, fun other _ => ?_⟩⟩
    rw [neg_add_cancel, abs_zero]
    exact abs_nonneg _
  | decimal number =>
    rw [hconstant] at hquantity
    have hprecision : 0 < Number.DecimalContext.arithmetic.precision := by decide
    have hrange : Number.DecimalContext.arithmetic.leastExponent ≤ Number.DecimalContext.arithmetic.maxExponent := by
      decide
    -- One lemma says what may come out, the other when it is exact.
    have hcases := Number.Decimal.negated_cases hprecision hrange hquantity
    have hexact := Number.Decimal.exists_exact_iff_holds hprecision hrange hquantity
    rw [← hexact, Constant.negated_decimal]
    cases hnegated : number.negated .arithmetic with
    | error fault =>
      rw [hnegated] at hcases
      rcases hcases with ⟨hfault, hbelow⟩ | ⟨_, _, hnone, _⟩
      · cases hfault
        refine ⟨iff_of_false ?_ ?_, .inl ⟨rfl, hbelow⟩⟩
        · rintro ⟨_, hnone, _⟩
          cases hnone
        · rintro (⟨_, hnone⟩ | ⟨_, hnone, _⟩) <;> cases hnone
      · cases hnone
    | ok negative =>
      rw [hnegated] at hcases
      rcases hcases with ⟨hnone, _⟩ | ⟨_, result, hsame, hresult, _, hnearest⟩
      · cases hnone
      · cases hsame
        refine ⟨⟨?_, ?_⟩, .inr ⟨_, result, rfl, hresult, hnearest⟩⟩
        · rintro ⟨constant, hsame, hquantity⟩
          cases hsame
          exact .inr ⟨negative, rfl, hquantity⟩
        · rintro (⟨_, hnone⟩ | ⟨_, hsame, hquantity⟩)
          · cases hnone
          · cases hsame
            exact ⟨_, rfl, hquantity⟩
  | _ =>
    rw [hconstant] at hquantity
    cases hquantity

/-- Two zeros behind twenty-eight digits need no digit of their own. -/
theorem negation_exact_iff_holds_zerosBehind :
    (Tree.unary .minus (.numberLiteral "1234567890123456789012345678.00")).isNegatedNumber = true ∧
      (Constant.ofNumberText "1234567890123456789012345678.00").rational? = some 1234567890123456789012345678 ∧
      ∃ negative, resolveAlone .mysql (.unary .minus (.numberLiteral "1234567890123456789012345678.00")) =
          .ok (.literal negative) ∧
        negative.rational? = some (-1234567890123456789012345678) := by
  have hform : (Tree.unary .minus (.numberLiteral "1234567890123456789012345678.00")).isNegatedNumber = true :=
    rfl
  have hread : Constant.ofNumberText "1234567890123456789012345678.00" =
      .decimal (.finite false 123456789012345678901234567800 (-2)) := by rfl
  have hquantity : (Constant.ofNumberText "1234567890123456789012345678.00").rational? =
      some 1234567890123456789012345678 := by
    rw [hread, Constant.rational?, Number.Decimal.rational?]
    norm_num
  refine ⟨hform, hquantity, ?_⟩
  refine (negation_exact_iff_holds .mysql hform hquantity .alone).1.mpr (.inr ?_)
  refine ⟨1234567890123456789012345678, 0, by norm_num [Number.DecimalContext.arithmetic], by decide, by norm_num, ?_⟩
  calc |(1234567890123456789012345678 : Rat)| < 10 ^ (28 : Int) := by norm_num
    _ ≤ 10 ^ (Number.DecimalContext.arithmetic.maxExponent + 1) := zpow_le_zpow_right₀ (by decide) (by decide)

/-- The twenty-ninth digit of a number is lost. -/
theorem not_negation_exact_longFraction :
    ¬∀ (grammar : Grammar) (tree : Tree) (quantity : Rat), tree.isNegatedNumber = true →
      (Constant.ofNumberText (tree.slot "this").content).rational? = some quantity →
      ∃ negative, resolveAlone grammar tree = .ok (.literal negative) ∧ negative.rational? = some (-quantity) := by
  intro h
  have hread : Constant.ofNumberText "1.2345678901234567890123456789" =
      .decimal (.finite false 12345678901234567890123456789 (-28)) := by rfl
  obtain ⟨negative, hresolve, hexact⟩ := h .mysql (.unary .minus (.numberLiteral "1.2345678901234567890123456789"))
    ((12345678901234567890123456789 : Nat) * 10 ^ (-28 : Int)) (by decide) (by
      refine (congrArg Constant.rational? hread).trans ?_
      rw [Constant.rational?, Number.Decimal.rational?]
      norm_num)
  have hrounded : resolveAlone .mysql (.unary .minus (.numberLiteral "1.2345678901234567890123456789")) =
      .ok (.literal (.decimal (.finite true 1234567890123456789012345679 (-27)))) := by rfl
  rw [hrounded] at hresolve
  cases hresolve
  rw [Constant.rational?, Number.Decimal.rational?] at hexact
  norm_num at hexact

end SqlInsert
