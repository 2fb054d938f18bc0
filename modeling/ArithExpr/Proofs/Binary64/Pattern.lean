import Mathlib.Algebra.Order.Field.Rat
import Mathlib.Algebra.Order.Group.Abs
import Mathlib.Data.Nat.Log
import Mathlib.Tactic.Linarith
import Mathlib.Tactic.Ring
import ArithExpr.Binary64

/-
  Bit patterns without a sign as numbers, and the pattern that
  a ratio is rounded to.

  A pattern counts smallest units.  The next pattern always
  counts more of them, also where the exponent goes up and
  beyond the largest finite pattern, so a ratio lies between
  two patterns in a row.  Rounding takes the nearer one of
  them, and of two that are equally near the even one.

  Key definitions include:
    * `Binary64.units`
    * `Binary64.patternOf`
    * `Binary64.NearestPattern`

  Main declarations:
    * `Binary64.units_strictMono`
    * `Binary64.units_of_parts`
    * `Binary64.patternOf_nearest`
    * `Binary64.NearestPattern.le_iff`
    * `Binary64.NearestPattern.unique`
-/

------------------------------------------------------------
-- Units of a Pattern
------------------------------------------------------------

namespace ArithExpr

namespace Binary64

/-
  The number of smallest units that a pattern stands for.  A
  pattern without exponent bits is its fraction.  Any other
  has a leading bit in front of its fraction, and each step of
  the exponent behind the first one doubles it.
-/
def units (pattern : Nat) : Nat :=
  if pattern / 2 ^ 52 = 0 then
    pattern % 2 ^ 52
  else
    (2 ^ 52 + pattern % 2 ^ 52) *
      2 ^ (pattern / 2 ^ 52 - 1)

/- Without exponent bits the fraction is counted. -/
theorem units_of_lt
    {pattern : Nat}
    (h : pattern < 2 ^ 52) :
    units pattern = pattern := by
  rw [units, if_pos (Nat.div_eq_of_lt h),
    Nat.mod_eq_of_lt h]

/- With exponent bits the leading bit is counted as well. -/
theorem units_of_exponent
    {fraction : Nat}
    (raised : Nat)
    (h : fraction < 2 ^ 52) :
    units ((raised + 1) * 2 ^ 52 + fraction) =
      (2 ^ 52 + fraction) * 2 ^ raised := by
  have hDiv :
      ((raised + 1) * 2 ^ 52 + fraction) / 2 ^ 52 =
        raised + 1 := by
    omega
  have hMod :
      ((raised + 1) * 2 ^ 52 + fraction) % 2 ^ 52 =
        fraction := by
    omega
  rw [units, hDiv, hMod, if_neg (Nat.succ_ne_zero raised),
    Nat.add_sub_cancel]

/-
  A significand of at most fifty-three bits is counted in
  front of its exponent, also when it carries into the next
  power of two.
-/
theorem units_of_parts
    {shift significand : Nat}
    (hShift : shift = 0 ∨ 2 ^ 52 ≤ significand)
    (hSignificand : significand ≤ 2 ^ 53) :
    units (shift * 2 ^ 52 + significand) =
      significand * 2 ^ shift := by
  by_cases hSmall : significand < 2 ^ 52
  · have hZero : shift = 0 := by omega
    rw [hZero, Nat.zero_mul, Nat.zero_add, Nat.pow_zero,
      Nat.mul_one, units_of_lt hSmall]
  · by_cases hCarry : significand = 2 ^ 53
    · have hPattern :
          shift * 2 ^ 52 + significand =
            (shift + 1 + 1) * 2 ^ 52 + 0 := by
        omega
      rw [hPattern, units_of_exponent _ (by decide), hCarry,
        Nat.pow_succ 2 shift]
      ring
    · have hPattern :
          shift * 2 ^ 52 + significand =
            (shift + 1) * 2 ^ 52 +
              (significand - 2 ^ 52) := by
        omega
      have hParts :
          2 ^ 52 + (significand - 2 ^ 52) = significand := by
        omega
      rw [hPattern, units_of_exponent _ (by omega), hParts]

/- The next pattern counts more units. -/
theorem units_lt_succ
    (pattern : Nat) :
    units pattern < units (pattern + 1) := by
  have hParts := Nat.div_add_mod' pattern (2 ^ 52)
  have hFraction :=
    Nat.mod_lt pattern (by decide : 0 < 2 ^ 52)
  generalize pattern / 2 ^ 52 = field at hParts
  generalize pattern % 2 ^ 52 = fraction at hParts hFraction
  subst hParts
  rcases field with _ | raised
  · -- without exponent bits a significand is counted as it is
    have hLeft :
        units (0 * 2 ^ 52 + fraction) = fraction * 2 ^ 0 :=
      units_of_parts (.inl rfl) (by omega)
    have hRight :
        units (0 * 2 ^ 52 + (fraction + 1)) =
          (fraction + 1) * 2 ^ 0 :=
      units_of_parts (.inl rfl) (by omega)
    rw [Nat.add_assoc, hLeft, hRight]
    omega
  · have hLeft := units_of_exponent raised hFraction
    have hRight :
        units
            (raised * 2 ^ 52 +
              (2 ^ 52 + (fraction + 1))) =
          (2 ^ 52 + (fraction + 1)) * 2 ^ raised :=
      units_of_parts (.inr (by omega)) (by omega)
    have hNext :
        (raised + 1) * 2 ^ 52 + fraction + 1 =
          raised * 2 ^ 52 + (2 ^ 52 + (fraction + 1)) := by
      omega
    rw [hLeft, hNext, hRight]
    apply Nat.mul_lt_mul_of_pos_right
    · omega
    · exact Nat.two_pow_pos raised

/- A larger pattern counts more units. -/
theorem units_strictMono : StrictMono units :=
  strictMono_nat_of_lt_succ units_lt_succ

------------------------------------------------------------
-- Nearest Patterns
------------------------------------------------------------

/-
  No pattern is nearer to a number of units, and any other
  pattern that is equally near is odd where this one is even.
-/
structure NearestPattern
    (amount : ℚ)
    (pattern : Nat) : Prop where
  nearest :
    ∀ other,
      |(units pattern : ℚ) - amount| ≤
        |(units other : ℚ) - amount|
  even :
    ∀ other,
      |(units pattern : ℚ) - amount| =
          |(units other : ℚ) - amount| →
        other = pattern ∨
          (pattern % 2 = 0 ∧ other % 2 = 1)

section Between

variable {amount : ℚ}
variable {below : Nat}

/- A pattern up to the one below an amount is not nearer. -/
theorem below_distance
    {other : Nat}
    (hBelow : (units below : ℚ) ≤ amount)
    (hOther : other ≤ below) :
    |(units other : ℚ) - amount| =
        amount - units other ∧
      amount - units below ≤ amount - units other ∧
      (amount - units below = amount - units other →
        other = below) := by
  have hUnits : (units other : ℚ) ≤ units below := by
    exact_mod_cast units_strictMono.monotone hOther
  refine ⟨?_, by linarith, ?_⟩
  · rw [abs_sub_comm, abs_of_nonneg (by linarith)]
  · intro hEq
    have hSame : (units other : ℚ) = units below := by
      linarith
    exact units_strictMono.injective (by exact_mod_cast hSame)

/- A pattern from the one above an amount on is not nearer. -/
theorem above_distance
    {other : Nat}
    (hAbove : amount < units (below + 1))
    (hOther : below + 1 ≤ other) :
    |(units other : ℚ) - amount| =
        units other - amount ∧
      units (below + 1) - amount ≤ units other - amount ∧
      ((units (below + 1) : ℚ) - amount =
          units other - amount →
        other = below + 1) := by
  have hUnits : (units (below + 1) : ℚ) ≤ units other := by
    exact_mod_cast units_strictMono.monotone hOther
  refine ⟨?_, by linarith, ?_⟩
  · rw [abs_of_nonneg (by linarith)]
  · intro hEq
    have hSame : (units other : ℚ) = units (below + 1) := by
      linarith
    exact units_strictMono.injective (by exact_mod_cast hSame)

/- The pattern below an amount is taken up to the middle. -/
theorem nearestPattern_below
    (hBelow : (units below : ℚ) ≤ amount)
    (hAbove : amount < units (below + 1))
    (hMiddle :
      2 * amount < units below + units (below + 1) ∨
        (2 * amount = units below + units (below + 1) ∧
          below % 2 = 0)) :
    NearestPattern amount below := by
  have hSelf := below_distance hBelow (Nat.le_refl below)
  have hHalf :
      2 * amount ≤ units below + units (below + 1) := by
    rcases hMiddle with h | ⟨h, _⟩ <;> linarith
  constructor
  · intro other
    rw [hSelf.1]
    rcases Nat.lt_or_ge below other with hOther | hOther
    · have hDistance := above_distance hAbove hOther
      rw [hDistance.1]
      linarith
    · have hDistance := below_distance hBelow hOther
      rw [hDistance.1]
      exact hDistance.2.1
  · intro other hEq
    rw [hSelf.1] at hEq
    rcases Nat.lt_or_ge below other with hOther | hOther
    · have hDistance := above_distance hAbove hOther
      rw [hDistance.1] at hEq
      have hNext : other = below + 1 :=
        hDistance.2.2 (by linarith)
      rcases hMiddle with hLess | ⟨_, hEven⟩
      · linarith [hDistance.2.1]
      · exact .inr ⟨hEven, by omega⟩
    · have hDistance := below_distance hBelow hOther
      rw [hDistance.1] at hEq
      exact .inl (hDistance.2.2 hEq)

/- The pattern above an amount is taken from the middle on. -/
theorem nearestPattern_above
    (hBelow : (units below : ℚ) ≤ amount)
    (hAbove : amount < units (below + 1))
    (hMiddle :
      (units below : ℚ) + units (below + 1) < 2 * amount ∨
        ((units below : ℚ) + units (below + 1) =
            2 * amount ∧
          below % 2 = 1)) :
    NearestPattern amount (below + 1) := by
  have hSelf :=
    above_distance hAbove (Nat.le_refl (below + 1))
  have hHalf :
      (units below : ℚ) + units (below + 1) ≤
        2 * amount := by
    rcases hMiddle with h | ⟨h, _⟩ <;> linarith
  constructor
  · intro other
    rw [hSelf.1]
    rcases Nat.lt_or_ge below other with hOther | hOther
    · have hDistance := above_distance hAbove hOther
      rw [hDistance.1]
      exact hDistance.2.1
    · have hDistance := below_distance hBelow hOther
      rw [hDistance.1]
      linarith
  · intro other hEq
    rw [hSelf.1] at hEq
    rcases Nat.lt_or_ge below other with hOther | hOther
    · have hDistance := above_distance hAbove hOther
      rw [hDistance.1] at hEq
      exact .inl (hDistance.2.2 hEq)
    · have hDistance := below_distance hBelow hOther
      rw [hDistance.1] at hEq
      have hSame : other = below :=
        hDistance.2.2 (by linarith)
      rcases hMiddle with hLess | ⟨_, hOdd⟩
      · linarith [hDistance.2.1]
      · exact .inr ⟨by omega, by omega⟩

end Between

namespace NearestPattern

variable {amount : ℚ}
variable {pattern other : Nat}

/- An amount has one nearest pattern. -/
theorem unique
    (h : NearestPattern amount pattern)
    (hOther : NearestPattern amount other) :
    other = pattern := by
  have hEq :=
    le_antisymm (h.nearest other) (hOther.nearest pattern)
  rcases h.even other hEq with hSame | ⟨hEven, hOdd⟩
  · exact hSame
  · rcases hOther.even pattern hEq.symm with
      hSame | ⟨hEven', _⟩
    · exact hSame.symm
    · omega

/-
  The nearest pattern is not above a given one up to the
  middle between that one and the next.  The middle itself
  goes to the even one of both.
-/
theorem le_iff
    (h : NearestPattern amount pattern)
    (last : Nat) :
    pattern ≤ last ↔
      2 * amount < units last + units (last + 1) ∨
        (2 * amount = units last + units (last + 1) ∧
          last % 2 = 0) := by
  have hStep : (units last : ℚ) < units (last + 1) := by
    exact_mod_cast units_lt_succ last
  constructor
  · intro hLe
    have hUnits : (units pattern : ℚ) ≤ units last := by
      exact_mod_cast units_strictMono.monotone hLe
    have hNear := h.nearest (last + 1)
    rcases lt_trichotomy (2 * amount)
        (units last + units (last + 1)) with
      hLess | hEq | hMore
    · exact .inl hLess
    · -- in the middle only the pattern itself is as near
      right
      refine ⟨hEq, ?_⟩
      have hLeft :
          |(units pattern : ℚ) - amount| =
            amount - units pattern := by
        rw [abs_sub_comm, abs_of_nonneg (by linarith)]
      have hRight :
          |(units (last + 1) : ℚ) - amount| =
            units (last + 1) - amount :=
        abs_of_nonneg (by linarith)
      rw [hLeft, hRight] at hNear
      have hSameUnits :
          (units pattern : ℚ) = units last := by
        linarith
      have hSame : pattern = last :=
        units_strictMono.injective
          (by exact_mod_cast hSameUnits)
      have hTie := h.even (last + 1)
      rw [hLeft, hRight] at hTie
      rcases hTie (by linarith) with hNext | ⟨hEven, _⟩
      · omega
      · rwa [hSame] at hEven
    · exfalso
      have hLeft :
          |(units pattern : ℚ) - amount| =
            amount - units pattern := by
        rw [abs_sub_comm, abs_of_nonneg (by linarith)]
      rw [hLeft] at hNear
      rcases abs_cases ((units (last + 1) : ℚ) - amount) with
        ⟨hAbs, _⟩ | ⟨hAbs, _⟩ <;>
      · rw [hAbs] at hNear
        linarith
  · intro hMiddle
    by_contra hNot
    have hLe : last + 1 ≤ pattern := by omega
    have hUnits :
        (units (last + 1) : ℚ) ≤ units pattern := by
      exact_mod_cast units_strictMono.monotone hLe
    have hHalf :
        2 * amount ≤ units last + units (last + 1) := by
      rcases hMiddle with hLess | ⟨hEq, _⟩ <;> linarith
    have hLeft :
        |(units pattern : ℚ) - amount| =
          units pattern - amount :=
      abs_of_nonneg (by linarith)
    have hNear := h.nearest last
    have hTie := h.even last
    rw [hLeft] at hNear hTie
    rcases abs_cases ((units last : ℚ) - amount) with
      ⟨hAbs, _⟩ | ⟨hAbs, _⟩
    · rw [hAbs] at hNear
      linarith
    · rw [hAbs] at hNear hTie
      rcases hMiddle with hLess | ⟨hEq, hEven⟩
      · linarith
      · rcases hTie (by linarith) with hSame | ⟨_, hOdd⟩
        · omega
        · omega

end NearestPattern

------------------------------------------------------------
-- Rounding to a Pattern
------------------------------------------------------------

section Rounding

/- The place value of the last bit that is kept of a ratio. -/
def lastPlace (scaled den : Nat) : Nat :=
  2 ^ exponent (scaled / den)

/- The pattern at or below an amount of units, as a ratio. -/
def patternBelow (scaled den : Nat) : Nat :=
  exponent (scaled / den) * 2 ^ 52 +
    scaled / (den * lastPlace scaled den)

/-
  The pattern that an amount of units is rounded to, given as
  a ratio.  Patterns beyond the largest finite one are kept.
-/
def patternOf (scaled den : Nat) : Nat :=
  exponent (scaled / den) * 2 ^ 52 +
    roundHalfEven scaled (den * lastPlace scaled den)

/-
  What is kept of an amount has fifty-three bits, or all bits
  of a smaller amount.
-/
theorem quotient_bounds
    (scaled den : Nat) :
    (exponent (scaled / den) = 0 ∨
        2 ^ 52 ≤ scaled / (den * lastPlace scaled den)) ∧
      scaled / (den * lastPlace scaled den) < 2 ^ 53 := by
  have hShift :
      exponent (scaled / den) = (scaled / den).log2 - 52 :=
    rfl
  rw [lastPlace, ← Nat.div_div_eq_div_mul]
  generalize exponent (scaled / den) = shift at hShift
  generalize scaled / den = whole at hShift
  constructor
  · by_cases hZero : shift = 0
    · exact .inl hZero
    · right
      have hLog : 52 + shift = whole.log2 := by omega
      have hWhole : whole ≠ 0 := by
        rintro rfl
        simp at hLog
      have hLower : 2 ^ whole.log2 ≤ whole :=
        Nat.log2_self_le hWhole
      rw [Nat.le_div_iff_mul_le (Nat.two_pow_pos shift),
        ← Nat.pow_add, hLog]
      exact hLower
  · have hUpper : whole < 2 ^ (whole.log2 + 1) :=
      Nat.lt_log2_self
    rw [Nat.div_lt_iff_lt_mul (Nat.two_pow_pos shift),
      ← Nat.pow_add]
    refine hUpper.trans_le ?_
    exact Nat.pow_le_pow_right (by decide) (by omega)

variable (scaled den : Nat)

/- The pattern below a ratio leaves the rest of a division. -/
theorem units_patternBelow :
    den * units (patternBelow scaled den) +
        scaled % (den * lastPlace scaled den) =
      scaled := by
  rcases quotient_bounds scaled den with ⟨hShift, hQuotient⟩
  rw [patternBelow,
    units_of_parts hShift (Nat.le_of_lt hQuotient)]
  conv_rhs =>
    rw [← Nat.div_add_mod scaled (den * lastPlace scaled den)]
  rw [lastPlace]
  ring

/- The next pattern is one last place further on. -/
theorem units_patternBelow_succ :
    units (patternBelow scaled den + 1) =
      units (patternBelow scaled den) +
        lastPlace scaled den := by
  rcases quotient_bounds scaled den with ⟨hShift, hQuotient⟩
  have hNext :=
    units_of_parts
      (hShift.imp_right Nat.le_succ_of_le) hQuotient
  rw [patternBelow, Nat.add_assoc, hNext,
    units_of_parts hShift (Nat.le_of_lt hQuotient),
    Nat.succ_mul, lastPlace]

/- A pattern is even when its significand is. -/
theorem patternBelow_mod_two :
    patternBelow scaled den % 2 =
      scaled / (den * lastPlace scaled den) % 2 := by
  rw [patternBelow]
  omega

variable {den}

/- A ratio lies between two patterns in a row. -/
theorem patternBelow_le
    (hDen : 0 < den) :
    (units (patternBelow scaled den) : ℚ) ≤
        (scaled : ℚ) / den ∧
      (scaled : ℚ) / den <
        units (patternBelow scaled den + 1) := by
  have hPositive : (0 : ℚ) < den := by exact_mod_cast hDen
  have hParts := units_patternBelow scaled den
  have hRest :
      scaled % (den * lastPlace scaled den) <
        den * lastPlace scaled den :=
    Nat.mod_lt _
      (Nat.mul_pos hDen (Nat.two_pow_pos _))
  constructor
  · rw [le_div_iff₀ hPositive, mul_comm]
    exact_mod_cast
      (Nat.le_add_right _ _).trans_eq hParts
  · rw [div_lt_iff₀ hPositive, mul_comm,
      units_patternBelow_succ]
    have hLess :
        scaled <
          den *
            (units (patternBelow scaled den) +
              lastPlace scaled den) := by
      rw [Nat.mul_add]
      omega
    exact_mod_cast hLess

/-
  The rest tells on which side of the middle between both
  patterns a ratio lies.
-/
theorem twice_scaled_add (scaled den : Nat) :
    2 * scaled + den * lastPlace scaled den =
      den *
          (units (patternBelow scaled den) +
            units (patternBelow scaled den + 1)) +
        2 * (scaled % (den * lastPlace scaled den)) := by
  have hParts := units_patternBelow scaled den
  rw [units_patternBelow_succ, Nat.mul_add, Nat.mul_add]
  omega

/- A ratio is rounded to the pattern that is nearest to it. -/
theorem patternOf_nearest
    (hDen : 0 < den) :
    NearestPattern ((scaled : ℚ) / den)
      (patternOf scaled den) := by
  have hPositive : (0 : ℚ) < den := by exact_mod_cast hDen
  have hMiddle := twice_scaled_add scaled den
  have hParity := patternBelow_mod_two scaled den
  rcases patternBelow_le scaled hDen with ⟨hBelow, hAbove⟩
  by_cases hDown :
      2 * (scaled % (den * lastPlace scaled den)) <
          den * lastPlace scaled den ∨
        (2 * (scaled % (den * lastPlace scaled den)) =
            den * lastPlace scaled den ∧
          scaled / (den * lastPlace scaled den) % 2 = 0)
  · have hPattern :
        patternOf scaled den = patternBelow scaled den := by
      rw [patternOf, roundHalfEven, if_pos hDown,
        patternBelow]
    rw [hPattern]
    apply nearestPattern_below hBelow hAbove
    rw [mul_div_assoc', div_lt_iff₀ hPositive,
      div_eq_iff hPositive.ne', mul_comm (_ + _), hParity]
    refine hDown.imp (fun hLess => ?_) (And.imp_left ?_)
    · exact_mod_cast
        (by omega :
          2 * scaled <
            den *
              (units (patternBelow scaled den) +
                units (patternBelow scaled den + 1)))
    · intro hEq
      exact_mod_cast
        (by omega :
          2 * scaled =
            den *
              (units (patternBelow scaled den) +
                units (patternBelow scaled den + 1)))
  · have hPattern :
        patternOf scaled den =
          patternBelow scaled den + 1 := by
      rw [patternOf, roundHalfEven, if_neg hDown,
        patternBelow, Nat.add_assoc]
    rw [hPattern]
    apply nearestPattern_above hBelow hAbove
    rw [mul_div_assoc', lt_div_iff₀ hPositive,
      eq_div_iff hPositive.ne', mul_comm (_ + _), hParity]
    rcases Nat.lt_or_ge
        (den * lastPlace scaled den)
        (2 * (scaled % (den * lastPlace scaled den))) with
      hMore | hHalf
    · left
      exact_mod_cast
        (by omega :
          den *
              (units (patternBelow scaled den) +
                units (patternBelow scaled den + 1)) <
            2 * scaled)
    · right
      constructor
      · exact_mod_cast
          (by omega :
            den *
                (units (patternBelow scaled den) +
                  units (patternBelow scaled den + 1)) =
              2 * scaled)
      · omega

end Rounding

end Binary64

end ArithExpr
