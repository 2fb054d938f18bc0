import ArithExpr.Numeral

/-
  Binary floating-point numbers of 64 bits, as bit patterns,
  and the correctly rounded value of a ratio of naturals.

  Key definitions include:
    * `Binary64`
    * `Binary64.roundHalfEven`
    * `Binary64.unitsInOne`
    * `Binary64.ofRatio`
    * `Numeral.toBinary64`
-/

namespace ArithExpr

/-
  A floating-point number: one sign bit, eleven exponent bits
  and fifty-two fraction bits, from the highest to the lowest.
-/
structure Binary64 where
  bits : UInt64
deriving DecidableEq, Repr

namespace Binary64

------------------------------------------------------------
-- Rounding
------------------------------------------------------------

/-
  The natural number nearest to a ratio.  Of two that are
  equally near, the even one is taken.
-/
def roundHalfEven
    (num den : Nat) : Nat :=
  let quotient := num / den
  let rest := num % den
  if 2 * rest < den ∨
      (2 * rest = den ∧ quotient % 2 = 0) then
    quotient
  else
    quotient + 1

/- The bit pattern of positive infinity. -/
def infinityBits : Nat :=
  0x7ff0000000000000

/- The number of parts that binary places divide one into. -/
def partsOfOne (places : Nat) : Nat :=
  Nat.pow 2 places

/-
  The number of smallest units in one.  The unit is the
  smallest positive number, two to the power -1074.
-/
def unitsInOne : Nat :=
  partsOfOne 1074

/-
  The binary exponent of the last place that is kept: fifty-
  three significant bits, but never below the smallest unit.
  The argument is a value counted in smallest units.
-/
def exponent (units : Nat) : Nat :=
  units.log2 - 52

/-
  The number nearest to a ratio.  The ratio is counted in
  smallest units and rounded to fifty-three significant bits.
  A significand that carries into the next power of two raises
  the exponent by the same addition, and patterns beyond the
  largest finite one are infinity.
-/
def ofRatio
    (num den : Nat) : Binary64 :=
  let scaled := num * unitsInOne
  let shift := exponent (scaled / den)
  let significand :=
    roundHalfEven scaled (den * Nat.pow 2 shift)
  ⟨UInt64.ofNat
    (min (shift * Nat.pow 2 52 + significand)
      infinityBits)⟩

end Binary64

/- The floating-point number nearest to a numeral. -/
def Numeral.toBinary64 (numeral : Numeral) : Binary64 :=
  Binary64.ofRatio
    numeral.coefficient (Nat.pow 10 numeral.places)

end ArithExpr
