import ArithExpr.Lexer.Session
import ArithExpr.Proofs.Lexer.Stream
import ArithExpr.Proofs.Numeral.Pattern

/-
  Which number tokens there are, and which texts are refused.

  A number token is made of a text exactly when the text
  matches the pattern of numerals.  Any other text is refused
  by an error that quotes it, also where a lexer cuts it out,
  whatever the lexer was asked before.

  Key definitions include:
    * `ParseError.Refuses`
    * `Lexer.Upholds`
    * `DecidedByPattern`
    * `ListsValidNumbers`

  Main declarations:
    * `Token.exists_checked_number_iff`
    * `Token.checked_number_eq_error_iff`
    * `Lexer.perform_upholds`
    * `Lexer.replay_upholds`
    * `Lexer.refuses_of_streamOf`
    * `number_tokens_match_pattern`
-/

------------------------------------------------------------
-- Number Tokens
------------------------------------------------------------

namespace ArithExpr

namespace Token

/- The text of a number token is a decimal. -/
theorem isDecimal
    (token : Token)
    (hKind : token.kind = .number) :
    Numeral.IsDecimal token.literal.toList :=
  Numeral.isNumeral_iff_isDecimal.mp (token.isNumeral hKind)

/- A number token is made of a decimal, and of nothing else. -/
theorem exists_checked_number_iff
    {literal : String} :
    (∃ token, checked .number literal = .ok token) ↔
      Numeral.IsDecimal literal.toList := by
  simp only [checked_eq_ok_iff]
  constructor
  · rintro ⟨token, hKind, rfl⟩
    exact token.isDecimal hKind
  · intro hDecimal
    have hNumeral :=
      Numeral.isNumeral_iff_isDecimal.mpr hDecimal
    exact ⟨⟨.number, literal, fun _ => hNumeral⟩, rfl, rfl⟩

/- A text that is no decimal is refused and quoted. -/
theorem checked_number_eq_error_iff
    {literal : String}
    {fault : ParseError} :
    checked .number literal = .error fault ↔
      ¬ Numeral.IsDecimal literal.toList ∧
        fault = .invalidNumber literal .number := by
  rw [checked_eq_error_iff, Numeral.isNumeral_iff_isDecimal]
  simp only [true_and]

end Token

end ArithExpr

------------------------------------------------------------
-- Refusals of a Lexer
------------------------------------------------------------

namespace ArithExpr

/- A fault refuses a number when it quotes no decimal. -/
def ParseError.Refuses (fault : ParseError) : Prop :=
  ∃ literal : String,
    fault = .invalidNumber literal .number ∧
      ¬ Numeral.IsDecimal literal.toList

/- A fault in making a number token refuses a number. -/
theorem Token.refuses_of_checked
    {literal : String}
    {fault : ParseError}
    (h : Token.checked .number literal = .error fault) :
    fault.Refuses := by
  rcases Token.checked_number_eq_error_iff.mp h with
    ⟨hDecimal, hFault⟩
  exact ⟨literal, hFault, hDecimal⟩

namespace Lexer

/-
  A lexer answers no number token but those of decimals, and
  fails only where a number is refused.
-/
structure Upholds
    (answer : Except ParseError Reply) : Prop where
  token :
    ∀ token, answer = .ok (.token token) →
      token.kind = .number →
        Numeral.IsDecimal token.literal.toList
  fault : ∀ fault, answer = .error fault → fault.Refuses

/- A token or a refusal is an answer that upholds this. -/
theorem upholds_map_token
    {outcome : Except ParseError Token}
    (hFault :
      ∀ fault, outcome = .error fault → fault.Refuses) :
    Upholds (outcome.map .token) := by
  refine ⟨?_, ?_⟩
  · intro token _ hKind
    exact token.isDecimal hKind
  · intro fault hMap
    cases outcome with
    | error found =>
        have hSame : found = fault := Except.error.inj hMap
        exact hFault fault (congrArg _ hSame)
    | ok token => cases hMap

/- Reading a number fails where the number is refused. -/
theorem refuses_of_readNumber
    {lexer : Lexer}
    {fault : ParseError}
    (h : lexer.readNumber.1 = .error fault) :
    fault.Refuses :=
  Token.refuses_of_checked h

/- Reading a token fails where a number is refused. -/
theorem refuses_of_next
    {lexer : Lexer}
    {fault : ParseError}
    (h : lexer.next.1 = .error fault) :
    fault.Refuses := by
  unfold next readToken at h
  split at h
  · cases h
  · split at h
    · cases h
    · exact refuses_of_readNumber h

/- Every step upholds the pattern, wherever the lexer is. -/
theorem perform_upholds
    (lexer : Lexer)
    (step : Step) :
    Upholds (lexer.perform step).1 := by
  cases step with
  | next => exact upholds_map_token fun _ => refuses_of_next
  | readNumber =>
      exact upholds_map_token fun _ => refuses_of_readNumber
  | peek | skipBlanks | seek =>
      refine ⟨?_, ?_⟩
      · rintro _ ⟨⟩
      · rintro _ ⟨⟩

/- So does every answer of a run. -/
theorem replay_upholds
    (lexer : Lexer)
    (steps : List Step) :
    ∀ answer ∈ lexer.replay steps, Upholds answer.1 := by
  induction steps generalizing lexer with
  | nil =>
      intro answer hMem
      cases hMem
  | cons step steps ih =>
      exact
        List.forall_mem_cons.mpr
          ⟨lexer.perform_upholds step, ih _⟩

/- A stream is cut short where a number is refused. -/
theorem refuses_of_streamOf
    (text : List Char) :
    ∀ fault ∈ (streamOf text).2, fault.Refuses := by
  induction text using text_induction with
  | nil => simp
  | blank c others hBlank ih =>
      rwa [streamOf_blank others hBlank]
  | operator c others token hOperator ih =>
      have hKind :=
        Token.ofOperator?_kind_ne_endOfText hOperator
      rwa [streamOf_operator others hOperator,
        TokenStream.push_of_ne_end hKind]
  | run c others hBlank hOperator ih =>
      rw [streamOf_run others hBlank hOperator]
      split
      · next fault hChecked =>
          rintro _ ⟨⟩
          exact Token.refuses_of_checked hChecked
      · next token hChecked =>
          have hKind : token.kind ≠ .endOfText := by
            rw [(Token.checked_eq_ok_iff.mp hChecked).1]
            decide
          rwa [TokenStream.push_of_ne_end hKind]

end Lexer

end ArithExpr

------------------------------------------------------------
-- The Pattern Decides
------------------------------------------------------------

namespace ArithExpr

/-
  The pattern of numerals matches a text just when it holds
  digits and points only, at most one point and at least one
  digit.  A number token is made of such a text, and any other
  text is refused by an error that quotes it.
-/
structure DecidedByPattern (literal : String) : Prop where
  matches_iff :
    literal.toList ∈ Numeral.pattern.matches' ↔
      Numeral.IsDecimal literal.toList
  exists_iff :
    (∃ token, Token.checked .number literal = .ok token) ↔
      Numeral.IsDecimal literal.toList
  parts :
    ∀ token, Token.checked .number literal = .ok token →
      token.kind = .number ∧ token.literal = literal
  refused :
    ¬ Numeral.IsDecimal literal.toList →
      Token.checked .number literal =
        .error (.invalidNumber literal .number)

/- Every text is decided by the pattern. -/
theorem decidedByPattern
    (literal : String) :
    DecidedByPattern literal where
  matches_iff := Numeral.mem_pattern_iff_isDecimal
  exists_iff := Token.exists_checked_number_iff
  parts _ hChecked := Token.checked_eq_ok_iff.mp hChecked
  refused hDecimal :=
    Token.checked_number_eq_error_iff.mpr ⟨hDecimal, rfl⟩

/-
  A text is listed with valid number tokens only, and what it
  is refused for quotes what is no number.
-/
structure ListsValidNumbers (text : String) : Prop where
  isDecimal :
    ∀ tokens, tokenize text = .ok tokens →
      ∀ token ∈ tokens, token.kind = .number →
        Numeral.IsDecimal token.literal.toList
  refuses :
    ∀ fault, tokenize text = .error fault → fault.Refuses

/- Every text is listed so. -/
theorem listsValidNumbers
    (text : String) :
    ListsValidNumbers text where
  isDecimal _ _ token _ hKind := token.isDecimal hKind
  refuses fault hFault :=
    Lexer.refuses_of_streamOf text.toList fault
      (tokenize_eq_error_iff_streamOf.mp hFault)

/-
  The pattern of numerals decides what a number token is made
  of.  So no token is a number with another text, and a lexer
  neither answers one in a run of steps from any position nor
  lists one of a whole text: it refuses what it would be made
  of.
-/
theorem number_tokens_match_pattern :
    (∀ literal : String, DecidedByPattern literal) ∧
      (∀ token : Token, token.kind = .number →
        Numeral.IsDecimal token.literal.toList) ∧
      (∀ (lexer : Lexer) (steps : List Lexer.Step),
        ∀ answer ∈ lexer.replay steps,
          Lexer.Upholds answer.1) ∧
      (∀ text : String, ListsValidNumbers text) :=
  ⟨decidedByPattern, fun token => token.isDecimal,
    Lexer.replay_upholds, listsValidNumbers⟩

/-
  A point behind a digit belongs to a numeral.  A point by
  itself, a line feed behind a digit, a digit of another
  script and a second point do not, and a lexer goes on behind
  what it refuses.
-/
theorem number_tokens_around_points :
    (∃ token,
      Token.checked .number "1." = .ok token ∧
        token.kind = .number ∧ token.literal = "1." ∧
        Numeral.IsDecimal token.literal.toList) ∧
      (∀ literal ∈ [".", "1\n", "٣", "1.5."],
        literal.toList ∉ Numeral.pattern.matches' ∧
          Token.checked .number literal =
            .error (.invalidNumber literal .number)) ∧
      ∃ token fault,
        token.kind = .number ∧
          ((Lexer.ofText "1.5. .5").replay [.next, .next]).map
              Prod.fst =
            [.error fault, .ok (.token token)] ∧
          Numeral.IsDecimal token.literal.toList ∧
          tokenize "1.5. .5" = .error fault ∧
          fault.Refuses := by
  rcases number_tokens_match_pattern with
    ⟨hLiterals, hTokens, hRuns, hTexts⟩
  refine ⟨?_, ?_, ?_⟩
  · have hDecided := hLiterals "1."
    rcases hDecided.exists_iff.mpr (by decide) with
      ⟨token, hChecked⟩
    rcases hDecided.parts token hChecked with
      ⟨hKind, hLiteral⟩
    exact
      ⟨token, hChecked, hKind, hLiteral, hTokens token hKind⟩
  · intro literal hMem
    have hAll :
        [".", "1\n", "٣", "1.5."].all (fun literal =>
            decide (¬ Numeral.IsDecimal literal.toList)) =
          true := by
      decide
    have hDecimal :=
      of_decide_eq_true (List.all_eq_true.mp hAll literal hMem)
    have hDecided := hLiterals literal
    exact
      ⟨hDecided.matches_iff.not.mpr hDecimal,
        hDecided.refused hDecimal⟩
  · let token : Token := ⟨.number, ".5", fun _ => by decide⟩
    let fault := ParseError.invalidNumber "1.5." .number
    have hRun :
        ((Lexer.ofText "1.5. .5").replay [.next, .next]).map
            Prod.fst =
          [.error fault, .ok (.token token)] := by
      decide +kernel
    have hRefused : tokenize "1.5. .5" = .error fault := by
      decide +kernel
    have hAnswered :
        .ok (.token token) ∈
          ((Lexer.ofText "1.5. .5").replay
            [.next, .next]).map Prod.fst := by
      rw [hRun]
      simp
    rcases List.mem_map.mp hAnswered with
      ⟨answer, hMem, hAnswer⟩
    have hUpholds := hRuns _ _ answer hMem
    exact
      ⟨token, fault, rfl, hRun,
        hUpholds.token token hAnswer rfl, hRefused,
        (hTexts "1.5. .5").refuses fault hRefused⟩

end ArithExpr
