import Mathlib.Computability.RegularExpressions
import ArithExpr.Proofs.Numeral.Value

/-
  The texts of numerals as a regular language, and as the
  texts in which characters are counted.

  A numeral matches a pattern with two alternatives: digits
  with an optional point behind them and further digits behind
  the point, or a point with digits behind it.  The same texts
  consist of digits and points only, with at most one point
  and at least one digit.  Both are shown to be the texts that
  spell a numeral, and so the texts that are read as one.

  Key definitions include:
    * `Numeral.digitCharacters`
    * `Numeral.digitPattern`
    * `Numeral.pattern`
    * `Numeral.IsDecimal`

  Main declarations:
    * `Numeral.mem_pattern_iff`
    * `Numeral.mem_pattern_iff_exists_spells`
    * `Numeral.isDecimal_iff_exists_spells`
    * `Numeral.mem_pattern_iff_isDecimal`
    * `Numeral.isNumeral_iff_isDecimal`
-/

------------------------------------------------------------
-- The Pattern
------------------------------------------------------------

namespace ArithExpr

namespace Numeral

open RegularExpression

/- The ten digits. -/
def digitCharacters : List Char :=
  "0123456789".toList

/- Any one of some characters. -/
def oneOf
    (characters : List Char) : RegularExpression Char :=
  characters.foldr (fun c others => char c + others) 0

/- One digit. -/
def digitPattern : RegularExpression Char :=
  oneOf digitCharacters

/- One digit or more. -/
def digitsPattern : RegularExpression Char :=
  digitPattern * star digitPattern

/-
  Digits with an optional point behind them and any number of
  digits behind the point, or a point with digits behind it.
-/
def pattern : RegularExpression Char :=
  digitsPattern * (char '.' + 1) * star digitPattern +
    char '.' * digitsPattern

------------------------------------------------------------
-- Texts That Match
------------------------------------------------------------

/- Digits lie between zero and nine. -/
theorem isDigit_iff
    {c : Char} :
    c.isDigit = true ↔ '0' ≤ c ∧ c ≤ '9' := by
  simp only [Char.isDigit, Bool.and_eq_true,
    decide_eq_true_eq]
  exact Iff.rfl

/- The ten digits are all there are. -/
theorem mem_digitCharacters_iff
    {c : Char} :
    c ∈ digitCharacters ↔ c.isDigit = true := by
  constructor
  · intro hMem
    have hAll : digitCharacters.all Char.isDigit = true := by
      decide
    exact List.all_eq_true.mp hAll c hMem
  · intro hDigit
    have hRange : 48 ≤ c.toNat ∧ c.toNat ≤ 57 := by
      simpa [Char.isDigit, UInt32.le_iff_toNat_le]
        using hDigit
    have hMem : c.toNat ∈ List.range' 48 10 := by
      rw [List.mem_range'_1]
      omega
    have hAll :
        (List.range' 48 10).all (fun code =>
            decide (Char.ofNat code ∈ digitCharacters)) =
          true := by
      decide
    have hFound :=
      of_decide_eq_true (List.all_eq_true.mp hAll _ hMem)
    rwa [Char.ofNat_toNat] at hFound

/- A character is matched by itself only. -/
theorem mem_char_iff
    {c : Char}
    {text : List Char} :
    text ∈ (char c).matches' ↔ text = [c] :=
  Iff.rfl

/- One of some characters is a text of one character. -/
theorem mem_oneOf_iff
    {characters text : List Char} :
    text ∈ (oneOf characters).matches' ↔
      ∃ c ∈ characters, text = [c] := by
  induction characters with
  | nil => simp [oneOf, Language.notMem_zero]
  | cons c others ih =>
      rw [oneOf, List.foldr_cons, ← oneOf, matches'_add,
        Language.mem_add, ih, mem_char_iff]
      simp

/- A text that matches a digit is a digit. -/
theorem mem_digitPattern_iff
    {text : List Char} :
    text ∈ digitPattern.matches' ↔
      ∃ c, c.isDigit = true ∧ text = [c] := by
  simp only [digitPattern, mem_oneOf_iff,
    mem_digitCharacters_iff]

/- Any number of digits is a text of digits. -/
theorem mem_star_digitPattern_iff
    {text : List Char} :
    text ∈ (star digitPattern).matches' ↔
      ∀ c ∈ text, c.isDigit = true := by
  rw [matches'_star, Language.mem_kstar]
  constructor
  · rintro ⟨parts, rfl, hParts⟩ c hMem
    rcases List.mem_flatten.mp hMem with ⟨part, hPart, hMem⟩
    rcases mem_digitPattern_iff.mp (hParts part hPart) with
      ⟨d, hDigit, rfl⟩
    rw [List.mem_singleton.mp hMem]
    exact hDigit
  · intro hDigits
    refine ⟨text.map fun c => [c], ?_, ?_⟩
    · exact (List.flatMap_singleton' text).symm
    · intro part hPart
      rcases List.mem_map.mp hPart with ⟨c, hMem, rfl⟩
      exact mem_digitPattern_iff.mpr ⟨c, hDigits c hMem, rfl⟩

/- One digit or more is a text of digits that is not empty. -/
theorem mem_digitsPattern_iff
    {text : List Char} :
    text ∈ digitsPattern.matches' ↔
      text ≠ [] ∧ ∀ c ∈ text, c.isDigit = true := by
  rw [digitsPattern, matches'_mul, Language.mem_mul]
  constructor
  · rintro ⟨first, hFirst, others, hOthers, rfl⟩
    rcases mem_digitPattern_iff.mp hFirst with
      ⟨c, hDigit, rfl⟩
    rw [mem_star_digitPattern_iff] at hOthers
    refine ⟨List.cons_ne_nil c others, ?_⟩
    exact List.forall_mem_cons.mpr ⟨hDigit, hOthers⟩
  · rintro ⟨hNeNil, hDigits⟩
    cases text with
    | nil => exact absurd rfl hNeNil
    | cons c others =>
        rcases List.forall_mem_cons.mp hDigits with
          ⟨hFirst, hOthers⟩
        exact
          ⟨[c], mem_digitPattern_iff.mpr ⟨c, hFirst, rfl⟩,
            others, mem_star_digitPattern_iff.mpr hOthers,
            rfl⟩

/-
  A text matches the first alternative by its digits on both
  sides of the point that may stand between them, or the
  second one by the digits behind its point.
-/
theorem mem_pattern_iff
    {text : List Char} :
    text ∈ pattern.matches' ↔
      (∃ whole fraction,
        whole ≠ [] ∧
          (∀ c ∈ whole ++ fraction, c.isDigit = true) ∧
          (text = whole ++ '.' :: fraction ∨
            text = whole ++ fraction)) ∨
        ∃ fraction,
          fraction ≠ [] ∧
            (∀ c ∈ fraction, c.isDigit = true) ∧
            text = '.' :: fraction := by
  rw [pattern, matches'_add, matches'_mul, matches'_mul,
    matches'_add, matches'_mul, matches'_epsilon]
  simp only [Language.mem_add, Language.mem_mul,
    Language.mem_one, mem_char_iff, mem_digitsPattern_iff,
    mem_star_digitPattern_iff, List.forall_mem_append]
  constructor
  · rintro
      (⟨_, ⟨whole, ⟨hNeNil, hWhole⟩, _, rfl | rfl, rfl⟩,
        fraction, hFraction, rfl⟩ |
      ⟨_, rfl, fraction, ⟨hNeNil, hFraction⟩, rfl⟩)
    · refine
        .inl
          ⟨whole, fraction, hNeNil, ⟨hWhole, hFraction⟩, ?_⟩
      exact .inl (List.append_assoc whole ['.'] fraction)
    · refine
        .inl
          ⟨whole, fraction, hNeNil, ⟨hWhole, hFraction⟩, ?_⟩
      exact .inr (List.append_assoc whole [] fraction)
    · exact .inr ⟨fraction, hNeNil, hFraction, rfl⟩
  · rintro
      (⟨whole, fraction, hNeNil, ⟨hWhole, hFraction⟩,
        rfl | rfl⟩ |
      ⟨fraction, hNeNil, hFraction, rfl⟩)
    · refine
        .inl
          ⟨whole ++ ['.'],
            ⟨whole, ⟨hNeNil, hWhole⟩, ['.'], .inl rfl, rfl⟩,
            fraction, hFraction, ?_⟩
      exact List.append_assoc whole ['.'] fraction
    · refine
        .inl
          ⟨whole ++ [],
            ⟨whole, ⟨hNeNil, hWhole⟩, [], .inr rfl, rfl⟩,
            fraction, hFraction, ?_⟩
      exact List.append_assoc whole [] fraction
    · exact
        .inr
          ⟨['.'], rfl, fraction, ⟨hNeNil, hFraction⟩, rfl⟩

/- A text that spells a numeral matches the pattern. -/
theorem Spells.mem_pattern
    {numeral : Numeral}
    {text : List Char}
    (h : numeral.Spells text) :
    text ∈ pattern.matches' := by
  rcases numeral with ⟨whole, fraction⟩
  rcases h with ⟨hDigits, hNeNil, hText⟩
  dsimp only at hDigits hNeNil hText
  rw [mem_pattern_iff]
  rcases hText with rfl | ⟨rfl, rfl⟩
  · by_cases hNil : whole = []
    · subst hNil
      exact .inr ⟨fraction, hNeNil, hDigits, rfl⟩
    · exact .inl ⟨whole, fraction, hNil, hDigits, .inl rfl⟩
  · rw [List.append_nil] at hNeNil
    refine .inl ⟨text, [], hNeNil, hDigits, .inr ?_⟩
    rw [List.append_nil]

/- A text that matches the pattern spells a numeral. -/
theorem exists_spells_of_mem_pattern
    {text : List Char}
    (h : text ∈ pattern.matches') :
    ∃ numeral : Numeral, numeral.Spells text := by
  rcases mem_pattern_iff.mp h with
    ⟨whole, fraction, hNeNil, hDigits, hText⟩ |
    ⟨fraction, hNeNil, hDigits, hText⟩
  · have hSome : whole ++ fraction ≠ [] :=
      List.append_ne_nil_of_left_ne_nil hNeNil fraction
    rcases hText with hPoint | hNone
    · exact ⟨⟨whole, fraction⟩, hDigits, hSome, .inl hPoint⟩
    · refine
        ⟨⟨whole ++ fraction, []⟩, ?_, ?_, .inr ⟨hNone, rfl⟩⟩
      · rwa [List.append_nil]
      · rwa [List.append_nil]
  · exact ⟨⟨[], fraction⟩, hDigits, hNeNil, .inl hText⟩

/- The pattern matches the texts that spell a numeral. -/
theorem mem_pattern_iff_exists_spells
    {text : List Char} :
    text ∈ pattern.matches' ↔
      ∃ numeral : Numeral, numeral.Spells text :=
  ⟨exists_spells_of_mem_pattern,
    fun ⟨_, hSpells⟩ => hSpells.mem_pattern⟩

------------------------------------------------------------
-- Counting Characters
------------------------------------------------------------

/-
  Digits and points only, with at most one point and at least
  one digit.
-/
structure IsDecimal (text : List Char) : Prop where
  digit_or_point :
    ∀ c ∈ text, ('0' ≤ c ∧ c ≤ '9') ∨ c = '.'
  count_point_le : text.count '.' ≤ 1
  exists_digit : ∃ c ∈ text, '0' ≤ c ∧ c ≤ '9'

/- There is no point among digits. -/
theorem count_point_of_digits
    {digits : List Char}
    (hDigits : ∀ c ∈ digits, c.isDigit = true) :
    digits.count '.' = 0 := by
  rw [List.count_eq_zero]
  intro hMem
  cases hDigits '.' hMem

/- A text that spells a numeral counts as one. -/
theorem Spells.isDecimal
    {numeral : Numeral}
    {text : List Char}
    (h : numeral.Spells text) :
    IsDecimal text := by
  rcases numeral with ⟨whole, fraction⟩
  rcases h with ⟨hDigits, hNeNil, hText⟩
  dsimp only at hDigits hNeNil hText
  have hCount := count_point_of_digits hDigits
  have hRange :
      ∀ c ∈ whole ++ fraction, '0' ≤ c ∧ c ≤ '9' :=
    fun c hMem => isDigit_iff.mp (hDigits c hMem)
  rcases List.exists_mem_of_ne_nil _ hNeNil with ⟨d, hSome⟩
  rcases hText with rfl | ⟨rfl, rfl⟩
  · have hMiddle :
        (whole ++ '.' :: fraction).Perm
          ('.' :: (whole ++ fraction)) :=
      List.perm_middle
    refine ⟨?_, ?_, d, ?_, hRange d hSome⟩
    · intro c hMem
      rcases List.mem_cons.mp (hMiddle.mem_iff.mp hMem) with
        rfl | hMem
      · exact .inr rfl
      · exact .inl (hRange c hMem)
    · rw [hMiddle.count_eq, List.count_cons_self, hCount]
    · exact hMiddle.mem_iff.mpr (List.mem_cons_of_mem _ hSome)
  · rw [List.append_nil] at hRange hSome hCount
    refine ⟨?_, ?_, d, hSome, hRange d hSome⟩
    · exact fun c hMem => .inl (hRange c hMem)
    · exact hCount.le.trans (Nat.zero_le 1)

/-
  A text that counts as a numeral spells one.  It is cut at its
  point, if it has one, and no other point is left for either
  side.
-/
theorem IsDecimal.exists_spells
    {text : List Char}
    (h : IsDecimal text) :
    ∃ numeral : Numeral, numeral.Spells text := by
  rcases h with ⟨hParts, hCount, d, hSome, hRange⟩
  have hDigit {c : Char} (hMem : c ∈ text) (hPoint : c ≠ '.') :
      c.isDigit = true :=
    isDigit_iff.mpr ((hParts c hMem).resolve_right hPoint)
  by_cases hMem : '.' ∈ text
  · rcases List.append_of_mem hMem with
      ⟨whole, fraction, rfl⟩
    have hMiddle :
        (whole ++ '.' :: fraction).Perm
          ('.' :: (whole ++ fraction)) :=
      List.perm_middle
    have hNone : '.' ∉ whole ++ fraction := by
      rw [hMiddle.count_eq, List.count_cons_self] at hCount
      rw [← List.count_eq_zero]
      omega
    refine ⟨⟨whole, fraction⟩, ?_, ?_, .inl rfl⟩
    · intro c hOther
      have hText : c ∈ whole ++ '.' :: fraction :=
        hMiddle.mem_iff.mpr (List.mem_cons_of_mem _ hOther)
      exact hDigit hText (ne_of_mem_of_not_mem hOther hNone)
    · intro hNil
      rcases List.append_eq_nil_iff.mp hNil with ⟨rfl, rfl⟩
      rw [List.mem_singleton.mp hSome] at hRange
      revert hRange
      decide
  · refine ⟨⟨text, []⟩, ?_, ?_, .inr ⟨rfl, rfl⟩⟩
    · rw [List.append_nil]
      intro c hOther
      exact hDigit hOther (ne_of_mem_of_not_mem hOther hMem)
    · rw [List.append_nil]
      exact List.ne_nil_of_mem hSome

/- Counting tells the texts that spell a numeral. -/
theorem isDecimal_iff_exists_spells
    {text : List Char} :
    IsDecimal text ↔
      ∃ numeral : Numeral, numeral.Spells text :=
  ⟨IsDecimal.exists_spells,
    fun ⟨_, hSpells⟩ => hSpells.isDecimal⟩

/- The pattern matches the texts that count as numerals. -/
theorem mem_pattern_iff_isDecimal
    {text : List Char} :
    text ∈ pattern.matches' ↔ IsDecimal text :=
  mem_pattern_iff_exists_spells.trans
    isDecimal_iff_exists_spells.symm

/- The texts that are read count as numerals. -/
theorem isNumeral_iff_isDecimal
    {text : List Char} :
    IsNumeral text ↔ IsDecimal text :=
  isNumeral_iff_exists_spells.trans
    isDecimal_iff_exists_spells.symm

instance (text : List Char) :
    Decidable (IsDecimal text) :=
  decidable_of_iff _ isNumeral_iff_isDecimal

end Numeral

end ArithExpr
