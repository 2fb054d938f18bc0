import ArithExpr.Proofs.Grammar.Unique

/-
  The scanner accepts what the grammar derives, and nothing
  that it goes on over is lost.

  Tokens that a scanner goes over up to an operator, with no
  group left open, are those of a phrase.  Whatever tokens it
  goes over, a number and some parentheses complete them.  A
  token that it rejects is continued by no phrase at all.

  Key definitions include:
    * `Scanner.Leaves`
    * `Token.one`
    * `Token.plus`
    * `Token.closing`

  Main declarations:
    * `Phrase.exists_extended`
    * `Scanner.exists_operand_and_phrase`
    * `derives_iff_run`
    * `Scanner.exists_completion`
    * `Scanner.not_prefix_of_reject`
-/

------------------------------------------------------------
-- Longer Phrases
------------------------------------------------------------

namespace ArithExpr

/-
  A phrase goes on with an operator that binds no looser than
  its level, and an operand.  The operator stands where its
  own level is reached.
-/
theorem Phrase.exists_extended
    {level : Level}
    (phrase : Phrase level)
    {token : Token}
    (hBinary : token.kind.IsBinary)
    (hLevel : level.precedence ≤ token.kind.precedence)
    (operand : Phrase .operand) :
    ∃ longer : Phrase level,
      longer.tokens =
        phrase.tokens ++ token :: operand.tokens := by
  rcases Level.exists_takes hBinary with ⟨wider, hTakes⟩
  have hWider := (Level.takes_iff.mp hTakes).2
  have hOperator := Level.ne_operand_of_takes hTakes
  -- the operator ends the phrase where it is of its level
  have hSame {level : Level} (phrase : Phrase level)
      (hEqual : level = wider) :
      ∃ longer : Phrase level,
        longer.tokens =
          phrase.tokens ++ token :: operand.tokens := by
    subst hEqual
    rcases operand.exists_loosened
        level.tighter.precedence_le_operand with
      ⟨right, hTokens, _⟩
    refine ⟨.binary token hTakes phrase right, ?_⟩
    simp only [tokens, hTokens]
  have hTighter {level : Level}
      (hLe : level.precedence ≤ token.kind.precedence)
      (hOther : level ≠ wider) :
      level.tighter.precedence ≤ token.kind.precedence := by
    rw [hWider] at hLe ⊢
    have hNe : level.precedence ≠ wider.precedence :=
      fun hEqual =>
        hOther (Level.eq_of_precedence_eq hEqual)
    apply Level.tighter_precedence_le
    omega
  have hNever :
      ¬ Level.operand.precedence ≤ token.kind.precedence := by
    have hLe := wider.precedence_le_operand
    intro hOperand
    apply hOperator
    apply Level.eq_of_precedence_eq
    omega
  induction phrase with
  | number other hKind => exact absurd hLevel hNever
  | signed other hSign inner ih => exact absurd hLevel hNever
  | group opening closing hOpening hClosing inner ih =>
      exact absurd hLevel hNever
  | @single level hInner inner ih =>
      by_cases hEqual : level = wider
      · exact hSame (.single hInner inner) hEqual
      · rcases ih (hTighter hLevel hEqual) with
          ⟨longer, hTokens⟩
        exact ⟨.single hInner longer, hTokens⟩
  | @binary level other hOther left right ihLeft ihRight =>
      by_cases hEqual : level = wider
      · exact hSame (.binary other hOther left right) hEqual
      · rcases ihRight (hTighter hLevel hEqual) with
          ⟨longer, hTokens⟩
        refine ⟨.binary other hOther left longer, ?_⟩
        simp [tokens, hTokens]

end ArithExpr

------------------------------------------------------------
-- Phrases from Scanning
------------------------------------------------------------

namespace ArithExpr

namespace Scanner

/-
  Behind a phrase the tokens are at their end, or they go on
  with the parenthesis that closes the group of the phrase,
  and the scanner goes over what follows it.
-/
def Leaves
    (opened final : Nat)
    (tokens : List Token) : Prop :=
  (tokens = [] ∧ opened = final) ∨
    ∃ closing others outer,
      tokens = closing :: others ∧
        closing.kind = .rightParen ∧
        opened = outer + 1 ∧
        run ⟨.operator, outer⟩ others =
          some ⟨.operator, final⟩

/- A scanner that goes over a token was not stopped by it. -/
theorem exists_goOn_of_run
    {scanner final : Scanner}
    {token : Token}
    {tokens : List Token}
    (hRun : scanner.run (token :: tokens) = some final) :
    ∃ next, scanner.verdict token = .goOn next ∧
      next.run tokens = some final := by
  simp only [run] at hRun
  cases hVerdict : scanner.verdict token with
  | goOn next =>
      rw [hVerdict] at hRun
      exact ⟨next, rfl, hRun⟩
  | accept =>
      rw [hVerdict] at hRun
      cases hRun
  | reject fault =>
      rw [hVerdict] at hRun
      cases hRun

/-
  What a scanner does behind an operand: it takes a binary
  operator, or it closes a group.
-/
theorem goOn_operator_cases
    {opened : Nat}
    {token : Token}
    {next : Scanner}
    (hVerdict :
      verdict ⟨.operator, opened⟩ token = .goOn next) :
    (token.kind.IsBinary ∧ next = ⟨.operand, opened⟩) ∨
      (token.kind = .rightParen ∧
        ∃ outer, opened = outer + 1 ∧
          next = ⟨.operator, outer⟩) := by
  by_cases hBinary : token.kind.IsBinary
  · left
    rw [verdict_of_binary opened hBinary] at hVerdict
    injection hVerdict with hNext
    exact ⟨hBinary, hNext.symm⟩
  · right
    cases opened with
    | zero =>
        cases hKind : token.kind <;>
          simp [verdict, operatorVerdict, hKind,
            Kind.IsBinary] at hVerdict hBinary
    | succ outer =>
        cases hKind : token.kind <;>
          simp [verdict, operatorVerdict, hKind,
            Kind.IsBinary] at hVerdict hBinary
        exact ⟨rfl, outer, rfl, hVerdict.symm⟩

/-
  What a scanner does where an operand is missing: it takes a
  number, a sign or an opening parenthesis.
-/
theorem goOn_operand_cases
    {opened : Nat}
    {token : Token}
    {next : Scanner}
    (hVerdict :
      verdict ⟨.operand, opened⟩ token = .goOn next) :
    (token.kind = .number ∧ next = ⟨.operator, opened⟩) ∨
      (token.kind.IsSign ∧ next = ⟨.operand, opened⟩) ∨
      (token.kind = .leftParen ∧
        next = ⟨.operand, opened + 1⟩) := by
  cases hKind : token.kind <;>
    simp only [verdict, operandVerdict, hKind] at hVerdict
  case endOfText =>
    split at hVerdict <;> cases hVerdict
  all_goals
    simp_all [Kind.IsSign]

/-
  What a scanner goes over starts with an operand where one is
  missing, and makes a phrase longer behind one.  The
  induction is on the number of tokens: a group and the right
  side of an operator both have fewer.
-/
theorem exists_operand_and_phrase
    (tokens : List Token)
    (opened final : Nat)
    (hFinal : final ≤ opened) :
    (run ⟨.operand, opened⟩ tokens =
        some ⟨.operator, final⟩ →
      ∃ (operand : Phrase .operand) (others : List Token),
        tokens = operand.tokens ++ others ∧
          run ⟨.operator, opened⟩ others =
            some ⟨.operator, final⟩) ∧
      (∀ left : Phrase .sum,
        run ⟨.operator, opened⟩ tokens =
          some ⟨.operator, final⟩ →
        ∃ (phrase : Phrase .sum) (others : List Token),
          left.tokens ++ tokens = phrase.tokens ++ others ∧
            Leaves opened final others) := by
  induction hLength : tokens.length
    using Nat.strong_induction_on
    generalizing tokens opened final with
  | h length ih =>
      cases tokens with
      | nil =>
          constructor
          · intro hRun
            cases hRun
          · intro left hRun
            injection hRun with hSame
            injection hSame with _ hOpened
            exact ⟨left, [], rfl, .inl ⟨rfl, hOpened⟩⟩
      | cons token tokens =>
          have hShorter : tokens.length < length := by
            rw [← hLength]
            exact Nat.lt_succ_self _
          constructor
          · intro hRun
            rcases exists_goOn_of_run hRun with
              ⟨next, hVerdict, hNext⟩
            rcases goOn_operand_cases hVerdict with
              ⟨hKind, rfl⟩ | ⟨hSign, rfl⟩ | ⟨hKind, rfl⟩
            · exact ⟨.number token hKind, tokens, rfl, hNext⟩
            · rcases
                (ih _ hShorter tokens opened final hFinal
                  rfl).1 hNext with
                ⟨inner, others, rfl, hOthers⟩
              exact
                ⟨.signed token hSign inner, others, rfl,
                  hOthers⟩
            · -- the sum inside cannot reach to the end of the
              -- tokens, where the group would still be open
              have hInside := Nat.le_succ_of_le hFinal
              rcases
                (ih _ hShorter tokens (opened + 1) final
                  hInside rfl).1 hNext with
                ⟨operand, others, rfl, hOthers⟩
              rcases operand.exists_loosened
                  Level.operand.sum_precedence_le with
                ⟨left, hLeft, _⟩
              have hLess : others.length < length := by
                rw [List.length_append] at hShorter
                omega
              rcases
                (ih _ hLess others (opened + 1) final hInside
                  rfl).2 left hOthers with
                ⟨inner, behind, hInner, hLeaves⟩
              rw [hLeft] at hInner
              rcases hLeaves with
                ⟨_, hOpened⟩ |
                  ⟨closing, rest, outer, rfl, hClosing,
                    hOuter, hRest⟩
              · omega
              · cases hOuter
                refine
                  ⟨.group token closing hKind hClosing inner,
                    rest, ?_, hRest⟩
                simp [Phrase.tokens, hInner]
          · intro left hRun
            rcases exists_goOn_of_run hRun with
              ⟨next, hVerdict, hNext⟩
            rcases goOn_operator_cases hVerdict with
              ⟨hBinary, rfl⟩ | ⟨hClosing, outer, rfl, rfl⟩
            · rcases
                (ih _ hShorter tokens opened final hFinal
                  rfl).1 hNext with
                ⟨operand, others, rfl, hOthers⟩
              rcases Level.exists_takes hBinary with
                ⟨wider, hTakes⟩
              have hSum :
                  Level.sum.precedence ≤
                    token.kind.precedence := by
                rw [(Level.takes_iff.mp hTakes).2]
                exact wider.sum_precedence_le
              rcases left.exists_extended hBinary hSum
                  operand with
                ⟨longer, hLonger⟩
              have hLess : others.length < length := by
                rw [List.length_append] at hShorter
                omega
              rcases
                (ih _ hLess others opened final hFinal
                  rfl).2 longer hOthers with
                ⟨phrase, behind, hPhrase, hLeaves⟩
              refine ⟨phrase, behind, ?_, hLeaves⟩
              rw [← hPhrase, hLonger]
              simp
            · exact
                ⟨left, token :: tokens, rfl,
                  .inr ⟨token, tokens, outer, rfl, hClosing,
                    rfl, hNext⟩⟩

end Scanner

/-
  Tokens derive an expression exactly when a scanner goes over
  them up to an operator, with no group left open.
-/
theorem derives_iff_run
    {tokens : List Token} :
    (∃ expr, Derives tokens expr) ↔
      Scanner.start.run tokens = some ⟨.operator, 0⟩ := by
  constructor
  · intro hDerives
    rcases hDerives with ⟨expr, phrase, rfl, _⟩
    exact phrase.run_tokens 0
  · intro hRun
    rcases
      (Scanner.exists_operand_and_phrase tokens 0 0
        (Nat.le_refl 0)).1 hRun with
      ⟨operand, others, rfl, hOthers⟩
    rcases operand.exists_loosened
        Level.operand.sum_precedence_le with
      ⟨left, hLeft, _⟩
    rcases
      (Scanner.exists_operand_and_phrase others 0 0
        (Nat.le_refl 0)).2 left hOthers with
      ⟨phrase, behind, hPhrase, hLeaves⟩
    rcases hLeaves with
      ⟨rfl, _⟩ | ⟨_, _, outer, _, _, hOuter, _⟩
    · refine ⟨phrase.tree, phrase, ?_, rfl⟩
      rw [← hLeft, hPhrase, List.append_nil]
    · cases hOuter

------------------------------------------------------------
-- Completions
------------------------------------------------------------

namespace Token

/- The number one. -/
def one : Token :=
  ⟨.number, "1", fun _ => rfl⟩

/- A plus sign. -/
def plus : Token :=
  ⟨.plus, "+", fun hKind => absurd hKind (by decide)⟩

/- A closing parenthesis. -/
def closing : Token :=
  ⟨.rightParen, ")", fun hKind =>
    absurd hKind (by decide)⟩

end Token

namespace Scanner

/- Parentheses close all groups that are open. -/
theorem run_closings
    (opened : Nat) :
    run ⟨.operator, opened⟩
        (List.replicate opened Token.closing) =
      some ⟨.operator, 0⟩ := by
  induction opened with
  | zero => rfl
  | succ opened ih =>
      rw [List.replicate_succ,
        run_cons_of_goOn _ (verdict_of_closing opened rfl)]
      exact ih

/-
  Whatever a scanner goes over is the beginning of tokens that
  derive an expression, and not yet all of them.
-/
theorem exists_completion
    {front : List Token}
    {scanner : Scanner}
    (hRun : start.run front = some scanner) :
    ∃ more expr, more ≠ [] ∧ Derives (front ++ more) expr := by
  rcases scanner with ⟨mode, opened⟩
  have hOne :
      verdict ⟨.operand, opened⟩ Token.one =
        .goOn ⟨.operator, opened⟩ :=
    verdict_of_number opened rfl
  have hPlus :
      verdict ⟨.operator, opened⟩ Token.plus =
        .goOn ⟨.operand, opened⟩ :=
    verdict_of_binary opened trivial
  let operand : List Token :=
    Token.one :: List.replicate opened Token.closing
  have hOperand :
      run ⟨.operand, opened⟩ operand =
        some ⟨.operator, 0⟩ := by
    rw [run_cons_of_goOn _ hOne]
    exact run_closings opened
  have hMore :
      ∃ more, more ≠ [] ∧
        run ⟨mode, opened⟩ more = some ⟨.operator, 0⟩ := by
    cases mode with
    | operand =>
        exact ⟨operand, List.cons_ne_nil _ _, hOperand⟩
    | operator =>
        refine
          ⟨Token.plus :: operand, List.cons_ne_nil _ _, ?_⟩
        rw [run_cons_of_goOn _ hPlus]
        exact hOperand
  rcases hMore with ⟨more, hNil, hEnd⟩
  have hWhole :
      start.run (front ++ more) = some ⟨.operator, 0⟩ := by
    rw [run_append, hRun]
    exact hEnd
  rcases derives_iff_run.mpr hWhole with ⟨expr, hDerives⟩
  exact ⟨more, expr, hNil, hDerives⟩

/-
  Tokens that derive an expression, with the end of the text
  behind them, do not go on with a token that is rejected.
-/
theorem not_prefix_of_reject
    {front accepted : List Token}
    {token : Token}
    {scanner : Scanner}
    {fault : ParseError}
    {expr : Expr}
    (hRun : start.run front = some scanner)
    (hReject : scanner.verdict token = .reject fault)
    (hDerives : Derives accepted expr) :
    ¬ front ++ [token] <+: accepted ++ [.endOfText] := by
  intro hPrefix
  rcases hPrefix with ⟨behind, hBehind⟩
  have hAccepted := derives_iff_run.mp ⟨expr, hDerives⟩
  rcases List.eq_nil_or_concat behind with
    rfl | ⟨others, last, rfl⟩
  · rw [List.append_nil] at hBehind
    rcases List.append_inj' hBehind rfl with
      ⟨rfl, hToken⟩
    injection hToken with hToken
    rw [hRun] at hAccepted
    injection hAccepted with hScanner
    rw [hScanner, hToken] at hReject
    cases hReject
  · rw [List.concat_eq_append,
      ← List.append_assoc] at hBehind
    rcases List.append_inj' hBehind rfl with ⟨rfl, _⟩
    rw [List.append_assoc, run_append, hRun] at hAccepted
    rcases exists_goOn_of_run hAccepted with
      ⟨next, hVerdict, _⟩
    rw [hReject] at hVerdict
    cases hVerdict

end Scanner

end ArithExpr
