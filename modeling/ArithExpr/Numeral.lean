/-
  Decimal numerals: ASCII digits with at most one point and
  at least one digit, such as `1`, `1.5`, `.5` and `1.`.

  Key definitions include:
    * `Numeral`
    * `Numeral.read?`
    * `Numeral.coefficient`
    * `Numeral.places`
    * `IsNumeral`
-/

namespace ArithExpr

------------------------------------------------------------
-- Numerals
------------------------------------------------------------

/- A numeral is its digits before and after the point. -/
structure Numeral where
  whole : List Char
  fraction : List Char
deriving DecidableEq, Repr

namespace Numeral

/-
  Read a numeral from a text.  A point needs a digit on at
  least one of its sides, and nothing may follow the digits.
-/
def read?
    (text : List Char) : Option Numeral :=
  let whole := text.takeWhile Char.isDigit
  match text.dropWhile Char.isDigit with
  | [] =>
      if whole = [] then none else some ⟨whole, []⟩
  | point :: fraction =>
      if point = '.' ∧ fraction.all Char.isDigit ∧
          ¬ (whole = [] ∧ fraction = []) then
        some ⟨whole, fraction⟩
      else
        none

/- The number that a digit stands for. -/
def digitValue (digit : Char) : Nat :=
  digit.toNat - '0'.toNat

/- The number that the digits spell when the point is left out. -/
def coefficient (numeral : Numeral) : Nat :=
  (numeral.whole ++ numeral.fraction).foldl
    (fun total digit => 10 * total + digitValue digit) 0

/-
  The number of places after the point.  The numeral denotes
  its coefficient divided by ten to this power.
-/
def places (numeral : Numeral) : Nat :=
  numeral.fraction.length

end Numeral

------------------------------------------------------------
-- Texts of Numerals
------------------------------------------------------------

/- A text is a numeral when it can be read as one. -/
def IsNumeral (text : List Char) : Prop :=
  (Numeral.read? text).isSome = true

instance (text : List Char) :
    Decidable (IsNumeral text) := by
  unfold IsNumeral
  infer_instance

end ArithExpr
