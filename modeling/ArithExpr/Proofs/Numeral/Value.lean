import Mathlib.Algebra.Order.Field.Rat
import Mathlib.Data.List.TakeWhile
import Mathlib.Tactic.FieldSimp
import Mathlib.Tactic.Ring
import ArithExpr.Numeral

/-
  How numerals are spelled, and the rational numbers that they
  denote.

  A text is read as a numeral exactly when the numeral is
  spelled by it.  A digit is worth a power of ten, by its
  place before or after the point, and the coefficient of a
  numeral with its number of places counts the same.

  Key definitions include:
    * `Numeral.Spells`
    * `Numeral.wholeValue`
    * `Numeral.fractionValue`
    * `Numeral.toRat`

  Main declarations:
    * `Numeral.read?_eq_some_iff`
    * `Numeral.isNumeral_iff_exists_spells`
    * `Numeral.coefficient_div_eq_toRat`
-/

------------------------------------------------------------
-- Spelling
------------------------------------------------------------

namespace ArithExpr

namespace Numeral

/-
  A text spells a numeral by its digits with a point between
  them.  The point may be left out if no digit comes after it.
-/
structure Spells
    (numeral : Numeral)
    (text : List Char) : Prop where
  digits :
    ∀ c ∈ numeral.whole ++ numeral.fraction,
      c.isDigit = true
  ne_nil : numeral.whole ++ numeral.fraction ≠ []
  text_eq :
    text = numeral.whole ++ '.' :: numeral.fraction ∨
      (text = numeral.whole ∧ numeral.fraction = [])

/- Digits are taken up to the first other character. -/
theorem span_digits
    {digits after : List Char}
    (hDigits : ∀ c ∈ digits, c.isDigit = true)
    (hAfter : ∀ c ∈ after.head?, c.isDigit = false) :
    (digits ++ after).takeWhile Char.isDigit = digits ∧
      (digits ++ after).dropWhile Char.isDigit = after := by
  rw [List.takeWhile_append_of_pos hDigits,
    List.dropWhile_append_of_pos hDigits]
  cases after with
  | nil => simp
  | cons c others =>
      have hFirst : c.isDigit = false := hAfter c rfl
      simp [hFirst]

/- What is spelled by a text is read from it. -/
theorem Spells.read?_eq
    {numeral : Numeral}
    {text : List Char}
    (h : numeral.Spells text) :
    read? text = some numeral := by
  rcases numeral with ⟨whole, fraction⟩
  rcases h with ⟨hDigits, hNeNil, hText⟩
  dsimp only at hDigits hNeNil hText
  have hWhole : ∀ c ∈ whole, c.isDigit = true :=
    fun c hMem => hDigits c (List.mem_append_left _ hMem)
  have hFraction : ∀ c ∈ fraction, c.isDigit = true :=
    fun c hMem => hDigits c (List.mem_append_right _ hMem)
  unfold read?
  dsimp only
  rcases hText with rfl | ⟨rfl, rfl⟩
  · have hPoint :
        ∀ c ∈ ('.' :: fraction).head?, c.isDigit = false := by
      rintro c ⟨⟩
      rfl
    have hSpan := span_digits hWhole hPoint
    have hSome : ¬ (whole = [] ∧ fraction = []) := by
      rintro ⟨rfl, rfl⟩
      exact hNeNil rfl
    rw [hSpan.1, hSpan.2]
    dsimp only
    rw [if_pos ⟨rfl, List.all_eq_true.mpr hFraction, hSome⟩]
  · have hEnd :
        ∀ c ∈ ([] : List Char).head?, c.isDigit = false := by
      rintro c ⟨⟩
    have hSpan := span_digits hWhole hEnd
    rw [List.append_nil] at hSpan hNeNil
    rw [hSpan.1, hSpan.2]
    dsimp only
    rw [if_neg hNeNil]

/- What is read from a text is spelled by it. -/
theorem spells_of_read?
    {numeral : Numeral}
    {text : List Char}
    (h : read? text = some numeral) :
    numeral.Spells text := by
  have hText :
      text.takeWhile Char.isDigit ++
          text.dropWhile Char.isDigit =
        text :=
    List.takeWhile_append_dropWhile
  have hWhole :
      ∀ c ∈ text.takeWhile Char.isDigit, c.isDigit = true :=
    fun c hMem => List.mem_takeWhile_imp hMem
  unfold read? at h
  dsimp only at h
  split at h
  · next hDrop =>
      split at h
      · cases h
      · next hNeNil =>
          cases h
          rw [hDrop, List.append_nil] at hText
          exact
            { digits := by simpa using hWhole
              ne_nil := by simpa using hNeNil
              text_eq := .inr ⟨hText.symm, rfl⟩ }
  · next point fraction hDrop =>
      split at h
      · next hPoint =>
          rcases hPoint with ⟨rfl, hFraction, hSome⟩
          cases h
          rw [hDrop] at hText
          refine
            { digits := ?_
              ne_nil := ?_
              text_eq := .inl hText.symm }
          · intro c hMem
            rcases List.mem_append.mp hMem with hMem | hMem
            · exact hWhole c hMem
            · exact List.all_eq_true.mp hFraction c hMem
          · intro hNil
            exact hSome (List.append_eq_nil_iff.mp hNil)
      · cases h

/- A text is read as the numeral that it spells. -/
theorem read?_eq_some_iff
    {numeral : Numeral}
    {text : List Char} :
    read? text = some numeral ↔ numeral.Spells text :=
  ⟨spells_of_read?, Spells.read?_eq⟩

/- A text is a numeral when it spells one. -/
theorem isNumeral_iff_exists_spells
    {text : List Char} :
    IsNumeral text ↔
      ∃ numeral : Numeral, numeral.Spells text := by
  simp only [IsNumeral, Option.isSome_iff_exists,
    read?_eq_some_iff]

------------------------------------------------------------
-- Values
------------------------------------------------------------

/- Digits before a point count powers of ten upwards. -/
def wholeValue : List Char → ℚ
| [] => 0
| digit :: digits =>
    digitValue digit * 10 ^ digits.length +
      wholeValue digits

/- Digits after a point count powers of ten downwards. -/
def fractionValue : List Char → ℚ
| [] => 0
| digit :: digits =>
    (digitValue digit + fractionValue digits) / 10

/- The number that a numeral denotes. -/
def toRat (numeral : Numeral) : ℚ :=
  wholeValue numeral.whole + fractionValue numeral.fraction

/- Counting goes on from what was counted before. -/
theorem foldl_digits
    (digits : List Char)
    (total : Nat) :
    ((digits.foldl
        (fun total digit => 10 * total + digitValue digit)
        total : Nat) : ℚ) =
      total * 10 ^ digits.length + wholeValue digits := by
  induction digits generalizing total with
  | nil => simp [wholeValue]
  | cons digit digits ih =>
      rw [List.foldl_cons, ih, wholeValue, List.length_cons]
      push_cast
      ring

/- Digits in front of others are worth more by their number. -/
theorem wholeValue_append
    (digits others : List Char) :
    wholeValue (digits ++ others) =
      wholeValue digits * 10 ^ others.length +
        wholeValue others := by
  induction digits with
  | nil => simp [wholeValue]
  | cons digit digits ih =>
      rw [List.cons_append, wholeValue, wholeValue, ih,
        List.length_append]
      ring

/- Moving the point behind its digits is a power of ten. -/
theorem wholeValue_eq_fractionValue
    (digits : List Char) :
    wholeValue digits =
      fractionValue digits * 10 ^ digits.length := by
  induction digits with
  | nil => simp [wholeValue, fractionValue]
  | cons digit digits ih =>
      rw [wholeValue, fractionValue, ih, List.length_cons]
      ring

/- A numeral denotes its coefficient moved by its places. -/
theorem coefficient_div_eq_toRat
    (numeral : Numeral) :
    (numeral.coefficient : ℚ) / (10 ^ numeral.places : Nat) =
      numeral.toRat := by
  have hPower : (10 ^ numeral.fraction.length : ℚ) ≠ 0 :=
    pow_ne_zero _ (by norm_num)
  rw [coefficient, places, foldl_digits, wholeValue_append,
    wholeValue_eq_fractionValue numeral.fraction, toRat]
  push_cast
  field_simp
  ring

end Numeral

end ArithExpr
