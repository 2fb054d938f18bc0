import Mathlib.Algebra.Order.Field.Basic
import Mathlib.Algebra.Ring.Parity
import Mathlib.Tactic.FieldSimp
import ArithExpr.Proofs.Binary64.Pattern

/-
  Floating-point numbers as rational numbers, and correct
  rounding of rational numbers to them.

  The bits of a number are a sign, an exponent and a fraction.
  A rational number is rounded correctly when the result is
  infinite from the overflow threshold on, zero up to half of
  the smallest positive number, and otherwise the nearest
  finite number, where a tie goes to the even significand.
  There is one such result for every rational number.

  Key definitions include:
    * `Binary64.sign`
    * `Binary64.exponentField`
    * `Binary64.fractionField`
    * `Binary64.IsFinite`
    * `Binary64.significand`
    * `Binary64.toRat`
    * `Binary64.overflowThreshold`
    * `Binary64.underflowThreshold`
    * `Binary64.RoundsTo`

  Main declarations:
    * `Binary64.toRat_eq_units`
    * `Binary64.roundsTo_of_nearest`
    * `Binary64.RoundsTo.unique`
    * `Binary64.ofRatio_roundsTo`
-/

------------------------------------------------------------
-- Fields and Values
------------------------------------------------------------

namespace ArithExpr

namespace Binary64

/- The sign bit, which is set for negative numbers. -/
def sign (number : Binary64) : Nat :=
  number.bits.toNat / 2 ^ 63

/- The eleven bits of the exponent. -/
def exponentField (number : Binary64) : Nat :=
  number.bits.toNat / 2 ^ 52 % 2 ^ 11

/- The fifty-two bits of the fraction. -/
def fractionField (number : Binary64) : Nat :=
  number.bits.toNat % 2 ^ 52

/- Infinities and what is not a number have all exponent bits. -/
def IsFinite (number : Binary64) : Prop :=
  number.exponentField ≠ 2047

/-
  The fraction with its leading bit, which subnormal numbers
  do without.
-/
def significand (number : Binary64) : Nat :=
  if number.exponentField = 0 then
    number.fractionField
  else
    2 ^ 52 + number.fractionField

/- The value of a finite number. -/
def toRat (number : Binary64) : ℚ :=
  (-1) ^ number.sign * number.significand *
    2 ^ ((max number.exponentField 1 : ℤ) - 1075)

/- The pattern of a number without its sign. -/
def pattern (number : Binary64) : Nat :=
  number.bits.toNat % 2 ^ 63

/- The first pattern that is not finite. -/
theorem infinityBits_eq :
    infinityBits = 2047 * 2 ^ 52 :=
  rfl

/- Finite numbers have the patterns below infinity. -/
theorem isFinite_iff
    {number : Binary64} :
    number.IsFinite ↔ number.pattern < infinityBits := by
  have hBits := number.bits.toNat_lt
  rw [IsFinite, exponentField, pattern, infinityBits_eq]
  omega

/- The bits of a number without a sign are its pattern. -/
theorem pattern_of_sign
    {number : Binary64}
    (hSign : number.sign = 0) :
    number.pattern = number.bits.toNat := by
  rw [sign] at hSign
  rw [pattern]
  omega

/- A significand is even when its pattern is. -/
theorem significand_mod_two
    (number : Binary64) :
    number.significand % 2 = number.pattern % 2 := by
  rw [significand, fractionField, pattern]
  split <;> omega

/- The parts of one are a power of two. -/
theorem cast_partsOfOne
    (places : Nat) :
    (partsOfOne places : ℚ) = 2 ^ places := by
  rw [partsOfOne, Nat.pow_eq, Nat.cast_pow, Nat.cast_two]

/- One has units. -/
theorem unitsInOne_pos : (0 : ℚ) < unitsInOne := by
  rw [unitsInOne, cast_partsOfOne]
  exact pow_pos two_pos 1074

/- One unit is a power of two. -/
theorem unit_eq :
    (2 : ℚ) ^ (-1074 : ℤ) = 1 / unitsInOne := by
  rw [unitsInOne, cast_partsOfOne, zpow_neg, zpow_ofNat,
    one_div]

/- A number counts the units of its pattern. -/
theorem toRat_eq_units
    (number : Binary64) :
    number.toRat =
      (-1) ^ number.sign *
        (units number.pattern / unitsInOne) := by
  have hField :
      number.exponentField = number.pattern / 2 ^ 52 := by
    have hBits := number.bits.toNat_lt
    rw [exponentField, pattern]
    omega
  have hFraction :
      number.fractionField = number.pattern % 2 ^ 52 := by
    rw [fractionField, pattern]
    omega
  rw [toRat, mul_assoc, significand, units, hField, hFraction,
    div_eq_mul_one_div _ (unitsInOne : ℚ), ← unit_eq]
  congr 1
  generalize number.pattern / 2 ^ 52 = field
  generalize number.pattern % 2 ^ 52 = fraction
  rcases field with _ | raised
  · have hMax :
        (max ((0 : Nat) : ℤ) 1) - 1075 = -1074 :=
      rfl
    rw [hMax, if_pos rfl, if_pos rfl]
  · have hMax :
        (max ((raised + 1 : Nat) : ℤ) 1) - 1075 =
          raised + -1074 := by
      omega
    rw [hMax, zpow_add₀ two_ne_zero, zpow_natCast,
      if_neg (Nat.succ_ne_zero raised),
      if_neg (Nat.succ_ne_zero raised),
      Nat.add_sub_cancel, Nat.cast_mul, Nat.cast_pow,
      Nat.cast_two, mul_assoc]

------------------------------------------------------------
-- Correct Rounding
------------------------------------------------------------

/-
  The middle between the largest finite number and the power
  of two behind it.
-/
def overflowThreshold : ℚ :=
  2 ^ 1024 - 2 ^ 970

/- Half of the smallest positive number. -/
def underflowThreshold : ℚ :=
  2 ^ (-1075 : ℤ)

/-
  A floating-point number without a sign is the correctly
  rounded value of a rational number.  Of two finite numbers
  that are equally near, it is the one with an even
  significand.
-/
structure RoundsTo
    (number : Binary64)
    (value : ℚ) : Prop where
  sign_eq : number.sign = 0
  infinite_iff :
    number.bits.toNat = 0x7ff0000000000000 ↔
      overflowThreshold ≤ value
  zero_iff :
    number.bits.toNat = 0 ↔ value ≤ underflowThreshold
  finite :
    value < overflowThreshold → number.IsFinite
  nearest :
    value < overflowThreshold →
      ∀ other : Binary64, other.IsFinite →
        |number.toRat - value| ≤ |other.toRat - value|
  even :
    value < overflowThreshold →
      ∀ other : Binary64, other.IsFinite →
        |number.toRat - value| = |other.toRat - value| →
          other.toRat = number.toRat ∨
            (Even number.significand ∧
              Odd other.significand)

section Amounts

variable {value : ℚ}

/-
  Two patterns in a row where the exponent goes up, and the
  middle between them.
-/
theorem units_at_carry
    (low places : Nat) :
    (units
          ((low + places + 2) * 2 ^ 52 + (2 ^ 52 - 1)) : ℚ) +
        units ((low + places + 3) * 2 ^ 52 + 0) =
      2 * ((2 ^ (low + 54) - 2 ^ low) * 2 ^ places) := by
  have hLast :=
    units_of_exponent (low + places + 1)
      (by decide : 2 ^ 52 - 1 < 2 ^ 52)
  have hNext :=
    units_of_exponent (low + places + 2)
      (by decide : 0 < 2 ^ 52)
  rw [hLast, hNext]
  push_cast
  ring

/- The overflow threshold is in the middle of two patterns. -/
theorem units_at_overflow :
    (units (infinityBits - 1) : ℚ) +
        units (infinityBits - 1 + 1) =
      2 * (overflowThreshold * unitsInOne) := by
  have hCarry := units_at_carry 970 1074
  rw [unitsInOne, cast_partsOfOne, overflowThreshold]
  exact hCarry

/- Half of the smallest unit, counted in units. -/
theorem le_underflowThreshold_iff :
    value ≤ underflowThreshold ↔
      2 * (value * unitsInOne) ≤ 1 := by
  have hPower :
      underflowThreshold = 1 / (unitsInOne * 2) := by
    have hExponent : (-1075 : ℤ) = -1074 + -1 := rfl
    rw [underflowThreshold, hExponent,
      zpow_add₀ two_ne_zero, unit_eq, zpow_neg_one,
      ← one_div, one_div_mul_one_div]
  rw [hPower, le_div_iff₀ (mul_pos unitsInOne_pos two_pos),
    ← mul_assoc, mul_comm]

/- A distance to a number without a sign counts its units. -/
theorem distance_of_sign
    {number : Binary64}
    (hSign : number.sign = 0) :
    |number.toRat - value| * unitsInOne =
      |(units number.pattern : ℚ) - value * unitsInOne| := by
  rw [toRat_eq_units, hSign, pow_zero, one_mul]
  calc
    |(units number.pattern : ℚ) / unitsInOne - value| *
          unitsInOne =
        |((units number.pattern : ℚ) / unitsInOne - value) *
          unitsInOne| := by
      rw [abs_mul, abs_of_pos unitsInOne_pos]
    _ = |(units number.pattern : ℚ) - value * unitsInOne| := by
      rw [sub_mul, div_mul_cancel₀ _ unitsInOne_pos.ne']

/- A distance to a number with a sign counts up from zero. -/
theorem distance_of_negative
    {number : Binary64}
    (hSign : number.sign = 1)
    (hValue : 0 ≤ value) :
    |number.toRat - value| * unitsInOne =
      units number.pattern + value * unitsInOne := by
  have hNonneg :
      (0 : ℚ) ≤ units number.pattern / unitsInOne :=
    div_nonneg (Nat.cast_nonneg _) (Nat.cast_nonneg _)
  rw [toRat_eq_units, hSign, pow_one, neg_one_mul,
    abs_of_nonpos (by linarith), neg_sub, sub_neg_eq_add,
    add_mul, div_mul_cancel₀ _ unitsInOne_pos.ne', add_comm]

/-
  Some pattern is as near to a value without a sign as a
  floating-point number is.  For a negative number it is zero.
-/
theorem exists_pattern_nearer
    (hValue : 0 ≤ value)
    (other : Binary64) :
    ∃ nearer : Nat,
      |(units nearer : ℚ) - value * unitsInOne| ≤
          |other.toRat - value| * unitsInOne ∧
        (|(units nearer : ℚ) - value * unitsInOne| =
            |other.toRat - value| * unitsInOne →
          other.toRat = units nearer / unitsInOne ∧
            other.pattern % 2 = nearer % 2) := by
  have hBits := other.bits.toNat_lt
  have hSign : other.sign = 0 ∨ other.sign = 1 := by
    rw [sign]
    omega
  rcases hSign with hSign | hSign
  · refine ⟨other.pattern, ?_, ?_⟩
    · rw [distance_of_sign hSign]
    · intro _
      rw [toRat_eq_units, hSign, pow_zero, one_mul]
      exact ⟨rfl, rfl⟩
  · have hUnits : (0 : ℚ) ≤ units other.pattern :=
      Nat.cast_nonneg _
    have hAmount : 0 ≤ value * unitsInOne :=
      mul_nonneg hValue unitsInOne_pos.le
    have hNone : units 0 = 0 := units_of_lt (by decide)
    have hZero :
        |(units 0 : ℚ) - value * unitsInOne| =
          value * unitsInOne := by
      rw [hNone, Nat.cast_zero, zero_sub, abs_neg,
        abs_of_nonneg hAmount]
    rw [distance_of_negative hSign hValue]
    refine ⟨0, ?_, ?_⟩
    · rw [hZero]
      linarith
    · intro hEq
      rw [hZero] at hEq
      have hPattern : other.pattern = 0 := by
        apply units_strictMono.injective
        have hNoUnits : (units other.pattern : ℚ) = 0 := by
          linarith
        rw [hNone]
        exact_mod_cast hNoUnits
      rw [toRat_eq_units, hPattern, hNone, Nat.cast_zero,
        zero_div, mul_zero]
      exact ⟨rfl, rfl⟩

/-
  A number without a sign whose pattern is the nearest one, or
  infinity where that one is not finite, is correctly rounded.
-/
theorem roundsTo_of_nearest
    {number : Binary64}
    {closest : Nat}
    (hValue : 0 ≤ value)
    (hClosest : NearestPattern (value * unitsInOne) closest)
    (hBits :
      number.bits.toNat = min closest infinityBits) :
    number.RoundsTo value := by
  have hSign : number.sign = 0 := by
    rw [sign, hBits, infinityBits_eq]
    omega
  have hOverflow :
      closest < infinityBits ↔ value < overflowThreshold := by
    have hLe := hClosest.le_iff (infinityBits - 1)
    have hOdd : ¬ (infinityBits - 1) % 2 = 0 := by decide
    rw [units_at_overflow] at hLe
    simp only [hOdd, and_false, or_false] at hLe
    rw [mul_lt_mul_iff_right₀ two_pos,
      mul_lt_mul_iff_left₀ unitsInOne_pos] at hLe
    rw [← hLe, infinityBits_eq]
    omega
  have hPattern :
      value < overflowThreshold →
        number.pattern = closest := by
    intro hLess
    rw [pattern_of_sign hSign, hBits]
    exact Nat.min_eq_left (hOverflow.mpr hLess).le
  have hDistance :
      value < overflowThreshold →
        |number.toRat - value| * unitsInOne =
          |(units closest : ℚ) - value * unitsInOne| := by
    intro hLess
    rw [distance_of_sign hSign, hPattern hLess]
  refine
    { sign_eq := hSign
      infinite_iff := ?_
      zero_iff := ?_
      finite := ?_
      nearest := ?_
      even := ?_ }
  · rw [hBits, ← not_lt, ← hOverflow, not_lt]
    exact min_eq_right_iff
  · have hLe := hClosest.le_iff 0
    have hNone : units 0 = 0 := units_of_lt (by decide)
    have hOne : units (0 + 1) = 1 := units_of_lt (by decide)
    rw [hNone, hOne, Nat.cast_zero, zero_add, Nat.cast_one]
      at hLe
    simp only [Nat.zero_mod, and_true, ← le_iff_lt_or_eq]
      at hLe
    rw [hBits, le_underflowThreshold_iff, ← hLe,
      infinityBits_eq]
    omega
  · intro hLess
    rw [isFinite_iff, hPattern hLess]
    exact hOverflow.mpr hLess
  · intro hLess other _
    rcases exists_pattern_nearer hValue other with
      ⟨nearer, hNearer, _⟩
    have hScaled :=
      ((hDistance hLess).trans_le
        (hClosest.nearest nearer)).trans hNearer
    exact le_of_mul_le_mul_right hScaled unitsInOne_pos
  · intro hLess other _ hEq
    rcases exists_pattern_nearer hValue other with
      ⟨nearer, hNearer, hTie⟩
    have hLe := hClosest.nearest nearer
    have hEven := hClosest.even nearer
    rw [← hDistance hLess, hEq] at hLe hEven
    have hSame := le_antisymm hNearer hLe
    rcases hTie hSame with ⟨hRat, hParity⟩
    rcases hEven hSame.symm with
      rfl | ⟨hClosestEven, hNearerOdd⟩
    · left
      rw [hRat, toRat_eq_units, hSign, hPattern hLess,
        pow_zero, one_mul]
    · right
      rw [Nat.even_iff, Nat.odd_iff, significand_mod_two,
        significand_mod_two, hPattern hLess, hParity]
      exact ⟨hClosestEven, hNearerOdd⟩

/- A rational number has one correctly rounded value. -/
theorem RoundsTo.unique
    {number other : Binary64}
    (h : number.RoundsTo value)
    (hOther : other.RoundsTo value) :
    number = other := by
  have hBits :
      number.bits.toNat = other.bits.toNat := by
    rcases le_or_gt overflowThreshold value with
      hOverflow | hLess
    · rw [h.infinite_iff.mpr hOverflow,
        hOther.infinite_iff.mpr hOverflow]
    · have hDistance :=
        le_antisymm
          (h.nearest hLess other (hOther.finite hLess))
          (hOther.nearest hLess number (h.finite hLess))
      have hEven :=
        h.even hLess other (hOther.finite hLess) hDistance
      have hOtherEven :=
        hOther.even hLess number (h.finite hLess)
          hDistance.symm
      have hRat : other.toRat = number.toRat := by
        rcases hEven with hSame | ⟨hNumberEven, _⟩
        · exact hSame
        · rcases hOtherEven with hSame | ⟨_, hNumberOdd⟩
          · exact hSame.symm
          · exact
              absurd hNumberEven
                (Nat.not_even_iff_odd.mpr hNumberOdd)
      rw [toRat_eq_units, toRat_eq_units, h.sign_eq,
        hOther.sign_eq, pow_zero, one_mul, one_mul,
        div_left_inj' unitsInOne_pos.ne', Nat.cast_inj]
        at hRat
      have hPattern := units_strictMono.injective hRat
      rw [pattern_of_sign h.sign_eq,
        pattern_of_sign hOther.sign_eq] at hPattern
      exact hPattern.symm
  have hSame : number.bits = other.bits :=
    UInt64.toNat_inj.mp hBits
  rcases number with ⟨bits⟩
  rcases other with ⟨otherBits⟩
  exact congrArg Binary64.mk hSame

end Amounts

/- The bits of a rounded ratio. -/
theorem ofRatio_bits
    (num den : Nat) :
    (ofRatio num den).bits.toNat =
      min (patternOf (num * unitsInOne) den)
        infinityBits := by
  unfold ofRatio patternOf lastPlace
  apply UInt64.toNat_ofNat_of_lt
  exact (Nat.min_le_right _ _).trans_lt (by decide)

/- Rounding a ratio is correct. -/
theorem ofRatio_roundsTo
    (num : Nat)
    {den : Nat}
    (hDen : 0 < den) :
    (ofRatio num den).RoundsTo ((num : ℚ) / den) := by
  have hNearest :=
    patternOf_nearest (num * unitsInOne) hDen
  rw [Nat.cast_mul, mul_div_right_comm] at hNearest
  apply roundsTo_of_nearest _ hNearest (ofRatio_bits num den)
  exact div_nonneg (Nat.cast_nonneg _) (Nat.cast_nonneg _)

end Binary64

end ArithExpr
