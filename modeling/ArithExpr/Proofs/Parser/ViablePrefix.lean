import ArithExpr.Proofs.Grammar.Completion
import ArithExpr.Proofs.Parser.Steps

/-
  A token that cannot stand where it does is reported as soon
  as it is read.

  While a text is parsed, a scanner goes over the tokens in
  front of the current one, or of the next one behind an
  operand.  So the tokens before the one that is reported are
  the beginning of tokens that derive an expression, those up
  to it are not, and the lexer has been asked for at most one
  token more.

  Key definitions include:
    * `Lexer.Delivers`
    * `ParseError.Blames`
    * `Parser.Pulled`
    * `Parser.AtOperand`
    * `Parser.AtOperator`
    * `Parser.Rejects`

  Main declarations:
    * `Scanner.blames_of_reject`
    * `Parser.ends_advance_of_goOn`
    * `Parser.keeps_scanning`
    * `parseWithin_viable_prefix`
-/

------------------------------------------------------------
-- Tokens That Were Delivered
------------------------------------------------------------

namespace ArithExpr

namespace Lexer

/- The first calls of a lexer answer with given tokens. -/
def Delivers
    (lexer : Lexer)
    (tokens : List Token) : Prop :=
  (List.range tokens.length).map lexer.outcome =
    tokens.map .ok

/- One more call answers with one more token. -/
theorem Delivers.snoc
    {lexer : Lexer}
    {tokens : List Token}
    {token : Token}
    (h : lexer.Delivers tokens)
    (hToken : lexer.outcome tokens.length = .ok token) :
    lexer.Delivers (tokens ++ [token]) := by
  unfold Delivers at h ⊢
  rw [List.length_append, List.length_singleton,
    List.range_succ, List.map_append, List.map_append, h]
  simp [hToken]

/- Calls that came first answered with what comes first. -/
theorem Delivers.of_append
    {lexer : Lexer}
    {front back : List Token}
    (h : lexer.Delivers (front ++ back)) :
    lexer.Delivers front := by
  unfold Delivers at h ⊢
  rw [List.length_append, List.range_add, List.map_append,
    List.map_append] at h
  exact (List.append_inj h (by simp)).1

end Lexer

/-
  A fault that is raised because a token cannot stand where it
  does.
-/
def ParseError.Blames
    (fault : ParseError)
    (token : Token) : Prop :=
  (∃ expected, fault = .unexpectedToken expected token) ∨
    fault = .unmatchedParenthesis token

/- A fault is raised because of one token. -/
theorem ParseError.Blames.unique
    {fault : ParseError}
    {token other : Token}
    (h : fault.Blames token)
    (hOther : fault.Blames other) :
    token = other := by
  rcases h with ⟨expected, rfl⟩ | rfl
  · rcases hOther with ⟨_, hOther⟩ | hOther
    · injection hOther
    · cases hOther
  · rcases hOther with ⟨_, hOther⟩ | hOther
    · cases hOther
    · injection hOther

/- A fault quotes the token that it is raised because of. -/
theorem ParseError.Blames.quotes
    {fault : ParseError}
    {token : Token}
    (h : fault.Blames token) :
    fault.kind? = some token.kind ∧
      fault.literal = token.literal := by
  rcases h with ⟨expected, rfl⟩ | rfl
  · exact ⟨rfl, rfl⟩
  · exact ⟨rfl, rfl⟩

namespace Scanner

/- A token is rejected because of itself. -/
theorem blames_of_reject
    {scanner : Scanner}
    {token : Token}
    {fault : ParseError}
    (hReject : scanner.verdict token = .reject fault) :
    fault.Blames token := by
  unfold verdict operandVerdict operatorVerdict at hReject
  repeat' split at hReject
  all_goals cases hReject
  all_goals
    first
      | exact .inl ⟨_, rfl⟩
      | exact .inr rfl

/- A token that does not start an operand is rejected. -/
theorem verdict_of_missing
    {token : Token}
    (opened : Nat)
    (hOpening : token.kind ≠ .leftParen)
    (hSign : ¬ token.kind.IsSign)
    (hNumber : token.kind ≠ .number) :
    verdict ⟨.operand, opened⟩ token =
      .reject
        (if token.kind = .endOfText ∧ 0 < opened then
          .unmatchedParenthesis token
        else
          .unexpectedToken "an expression" token) := by
  cases hKind : token.kind <;> rw [hKind] at hSign
  case leftParen => exact absurd hKind hOpening
  case number => exact absurd hKind hNumber
  case plus => exact absurd trivial hSign
  case minus => exact absurd trivial hSign
  case endOfText =>
    by_cases hOpened : 0 < opened <;>
      simp [verdict, operandVerdict, hKind, hOpened]
  all_goals simp [verdict, operandVerdict, hKind]

end Scanner

------------------------------------------------------------
-- Scanning along with the Parser
------------------------------------------------------------

namespace Parser

/-
  A parser reads tokens from a text when its lexer has been
  asked for just these.
-/
structure Pulled
    (text : String)
    (tokens : List Token)
    (state : State) : Prop where
  delivers : (Lexer.ofText text).Delivers tokens
  length_eq : tokens.length = state.asked
  lexer_eq :
    state.lexer = (Lexer.ofText text).after state.asked

/- One more token is read by moving on. -/
theorem Pulled.moved
    {text : String}
    {tokens : List Token}
    {state : State}
    {token : Token}
    {lexer : Lexer}
    (h : Pulled text tokens state)
    (hNext : state.lexer.next = (.ok token, lexer)) :
    Pulled text (tokens ++ [token])
      (state.moved token lexer) := by
  rcases h with ⟨hDelivers, hLength, hLexer⟩
  rw [hLexer, ← hLength] at hNext
  refine ⟨hDelivers.snoc ?_, ?_, ?_⟩
  · rw [Lexer.outcome, hNext]
  · simp [hLength]
  · rw [State.moved_lexer, State.moved_asked, ← hLength,
      Lexer.after, hNext]

/-
  In front of an operand, a scanner that has gone over the
  tokens before the current one waits for an operand.
-/
def AtOperand
    (text : String)
    (opened : Nat)
    (state : State) : Prop :=
  state.depth = opened ∧
    ∃ front,
      Scanner.start.run front = some ⟨.operand, opened⟩ ∧
        Pulled text (front ++ [state.token, state.next])
          state

/-
  Behind an operand, a scanner that has gone over the tokens
  before the next one waits for an operator.
-/
def AtOperator
    (text : String)
    (opened : Nat)
    (state : State) : Prop :=
  state.depth = opened ∧
    ∃ front,
      Scanner.start.run front = some ⟨.operator, opened⟩ ∧
        Pulled text (front ++ [state.next]) state

/-
  A token of a text is rejected by a scanner that has gone
  over the tokens before it, and at most one token behind it
  has been asked for.
-/
def Rejects
    (text : String)
    (fault : ParseError)
    (asked : Nat) : Prop :=
  ∃ front token scanner,
    (Lexer.ofText text).Delivers (front ++ [token]) ∧
      Scanner.start.run front = some scanner ∧
      scanner.verdict token = .reject fault ∧
      asked ≤ front.length + 2

/-
  A fault that is raised because of some token is raised where
  the scanner rejects a token.
-/
def Faults
    (text : String)
    (fault : ParseError)
    (asked : Nat) : Prop :=
  ∀ token, fault.Blames token → Rejects text fault asked

section Steps

variable {text : String}
variable {opened : Nat}
variable {state : State}
variable {front : List Token}
variable {scanner : Scanner}

/- Moving on reads one more token. -/
theorem ends_advance_of_pulled
    {tokens : List Token}
    (hPulled : Pulled text tokens state) :
    advance.Ends state
      (fun _ after =>
        after.depth = state.depth ∧
          after.token = state.next ∧
          Pulled text (tokens ++ [after.next]) after)
      (fun fault after => Faults text fault after.asked) := by
  apply ends_advance
  · intro token lexer hNext
    refine
      ⟨State.moved_depth _ _ _, State.moved_token _ _ _, ?_⟩
    rw [State.moved_next]
    exact hPulled.moved hNext
  · intro fault lexer hNext token hBlames
    rw [Lexer.next_fault hNext] at hBlames
    rcases hBlames with ⟨_, hBlames⟩ | hBlames
    · cases hBlames
    · cases hBlames

/-
  Where the scanner goes on to an operand, the parser moves to
  that operand.
-/
theorem ends_advance_of_goOn
    (hRun : Scanner.start.run front = some scanner)
    (hPulled :
      Pulled text (front ++ [state.token, state.next])
        state)
    (hVerdict :
      scanner.verdict state.token =
        .goOn ⟨.operand, state.depth⟩) :
    advance.Ends state
      (fun _ => AtOperand text state.depth)
      (fun fault after => Faults text fault after.asked) := by
  refine (ends_advance_of_pulled hPulled).mono ?_
    (fun _ _ h => h)
  rintro _ after ⟨hDepth, hToken, hAfter⟩
  refine ⟨hDepth, front ++ [state.token], ?_, ?_⟩
  · rw [Scanner.run_append, hRun]
    exact Scanner.run_cons_of_goOn [] hVerdict
  · rw [hToken]
    simpa using hAfter

/- A number is an operand that the scanner goes over. -/
theorem AtOperand.number
    (h : AtOperand text opened state)
    (hNumber : state.token.kind = .number) :
    AtOperator text opened state := by
  rcases h with ⟨hDepth, front, hRun, hPulled⟩
  refine ⟨hDepth, front ++ [state.token], ?_, ?_⟩
  · have hVerdict := Scanner.verdict_of_number opened hNumber
    rw [Scanner.run_append, hRun]
    exact Scanner.run_cons_of_goOn [] hVerdict
  · simpa using hPulled

/- A current token that is rejected. -/
theorem faults_of_reject
    {fault : ParseError}
    (hRun : Scanner.start.run front = some scanner)
    (hPulled :
      Pulled text (front ++ [state.token, state.next])
        state)
    (hReject : scanner.verdict state.token = .reject fault) :
    Faults text fault state.asked := by
  intro token hBlames
  have hDelivers := hPulled.delivers
  have hLength := hPulled.length_eq
  rw [List.append_cons] at hDelivers
  simp only [List.length_append, List.length_cons,
    List.length_nil] at hLength
  exact
    ⟨front, state.token, _, hDelivers.of_append, hRun,
      hReject, Nat.le_of_eq hLength.symm⟩

/- A next token that is rejected behind an operand. -/
theorem AtOperator.faults
    {fault : ParseError}
    (h : AtOperator text opened state)
    (hReject :
      Scanner.verdict ⟨.operator, opened⟩ state.next =
        .reject fault) :
    Faults text fault state.asked := by
  intro token hBlames
  rcases h with ⟨hDepth, front, hRun, hPulled⟩
  have hLength := hPulled.length_eq
  simp only [List.length_append, List.length_cons,
    List.length_nil] at hLength
  exact
    ⟨front, state.next, _, hPulled.delivers, hRun, hReject,
      by omega⟩

/-
  The parser moves past an operator.  A number that stands
  there is rejected once the token behind it has been read.
-/
theorem AtOperator.operator
    (h : AtOperator text opened state)
    (hPositive : 0 < state.next.kind.precedence) :
    operator.Ends state
      (fun token after =>
        0 ≤ token.kind.precedence ∧
          AtOperand text opened after)
      (fun fault after => Faults text fault after.asked) := by
  rcases h with ⟨rfl, front, hRun, hPulled⟩
  rw [Parser.operator, ends_bind]
  refine (ends_advance_of_pulled hPulled).mono ?_
    (fun _ _ h => h)
  rintro _ middle ⟨hDepth, hToken, hMiddle⟩
  rw [← hToken] at hPositive hMiddle
  rw [← hDepth] at hRun ⊢
  rw [List.append_assoc] at hMiddle
  rw [takeOperator, ends_bind, ends_current, ends_ite]
  split
  · next hBinary =>
      rw [ends_bind]
      have hVerdict :=
        Scanner.verdict_of_binary middle.depth hBinary
      refine
        (ends_advance_of_goOn hRun hMiddle hVerdict).mono ?_
          (fun _ _ h => h)
      intro _ after hAfter
      exact ⟨hBinary.precedence_nonneg, hAfter⟩
  · next hBinary =>
      have hNumber :=
        (Kind.binary_or_number hPositive).resolve_left
          hBinary
      have hReject :
          Scanner.verdict ⟨.operator, middle.depth⟩
              middle.token =
            .reject
              (.unexpectedToken "operator"
                middle.token) := by
        simp only [Scanner.verdict, Scanner.operatorVerdict,
          hNumber]
      exact faults_of_reject hRun hMiddle hReject

/-
  A group is closed where the scanner closes it.  What is left
  open is rejected.
-/
theorem AtOperator.closing
    (h : AtOperator text (opened + 1) state)
    (hNext : state.next.kind.precedence ≤ 0) :
    (expect .rightParen).Ends state
      (fun _ after =>
        AtOperator text opened
          { after with depth := after.depth - 1 })
      (fun fault after => Faults text fault after.asked) := by
  rw [expect, ends_bind, ends_lookahead, ends_ite]
  rcases Kind.end_or_parenthesis hNext with
    hEnd | hOpening | hClosing
  · rw [if_neg (by simp [hEnd]), ends_ite,
      if_pos ⟨rfl, hEnd⟩]
    apply h.faults
    simp [Scanner.verdict, Scanner.operatorVerdict, hEnd]
  · rw [if_neg (by simp [hOpening]), ends_ite,
      if_neg (by simp [hOpening])]
    apply h.faults
    simp [Scanner.verdict, Scanner.operatorVerdict, hOpening,
      Kind.name]
  · rw [if_pos hClosing]
    rcases h with ⟨hDepth, front, hRun, hPulled⟩
    refine (ends_advance_of_pulled hPulled).mono ?_
      (fun _ _ h => h)
    rintro _ after ⟨hAfterDepth, hToken, hAfter⟩
    have hVerdict :=
      Scanner.verdict_of_closing opened hClosing
    refine ⟨?_, front ++ [state.next], ?_, ?_⟩
    · change after.depth - 1 = opened
      omega
    · rw [Scanner.run_append, hRun]
      exact Scanner.run_cons_of_goOn [] hVerdict
    · exact
        ⟨hAfter.delivers, hAfter.length_eq, hAfter.lexer_eq⟩

/- Outside groups, the end of the text is all that may follow. -/
theorem AtOperator.ending
    (h : AtOperator text 0 state)
    (hNext : state.next.kind.precedence ≤ 0) :
    (expect .endOfText).Ends state
      (fun _ _ => True)
      (fun fault after => Faults text fault after.asked) := by
  rw [expect, ends_bind, ends_lookahead, ends_ite]
  split
  · rcases h with ⟨_, front, _, hPulled⟩
    exact
      (ends_advance_of_pulled hPulled).mono
        (fun _ _ _ => trivial) (fun _ _ h => h)
  · next hKind =>
      rw [ends_ite, if_neg (by simp)]
      apply h.faults
      rcases (Kind.end_or_parenthesis hNext).resolve_left
        hKind with hOpening | hClosing
      · simp [Scanner.verdict, Scanner.operatorVerdict,
          hOpening, Kind.name]
      · simp [Scanner.verdict, Scanner.operatorVerdict,
          hClosing, Kind.name]

/- Entering a group reads nothing. -/
theorem AtOperand.opening
    (h : AtOperand text opened state)
    (hOpening : state.token.kind = .leftParen) :
    advance.Ends
      { state with depth := state.depth + 1 }
      (fun _ => AtOperand text (opened + 1))
      (fun fault after => Faults text fault after.asked) := by
  rcases h with ⟨rfl, front, hRun, hPulled⟩
  have hVerdict :=
    Scanner.verdict_of_opening state.depth hOpening
  have hEntered :
      Pulled text (front ++ [state.token, state.next])
        { state with depth := state.depth + 1 } :=
    ⟨hPulled.delivers, hPulled.length_eq, hPulled.lexer_eq⟩
  exact ends_advance_of_goOn hRun hEntered hVerdict

end Steps

/- Every step of the parser goes along with the scanner. -/
theorem keeps_scanning
    (text : String) :
    Keeps (AtOperand text) (AtOperator text)
      (fun fault after => Faults text fault after.asked) where
  tooDeep := by
    rintro opened state - token (⟨_, hBlames⟩ | hBlames)
    · cases hBlames
    · cases hBlames
  number := AtOperand.number
  missing := by
    intro opened state h hOpening hSign hNumber
    rcases h with ⟨rfl, front, hRun, hPulled⟩
    have hVerdict :=
      Scanner.verdict_of_missing state.depth hOpening hSign
        hNumber
    exact faults_of_reject hRun hPulled hVerdict
  signed := by
    rintro opened state ⟨rfl, front, hRun, hPulled⟩ hSign
    have hVerdict := Scanner.verdict_of_sign state.depth hSign
    exact ends_advance_of_goOn hRun hPulled hVerdict
  opening := AtOperand.opening
  operator := AtOperator.operator
  closing := AtOperator.closing
  noted := fun h _ _ =>
    ⟨h.1, h.2.imp fun _ hFront =>
      ⟨hFront.1, hFront.2.delivers, hFront.2.length_eq,
        hFront.2.lexer_eq⟩⟩

/- The parser starts in front of an operand. -/
theorem start_ends_scanning
    (text : String) :
    start.Ends (State.ofLexer (Lexer.ofText text))
      (fun _ => AtOperand text 0)
      (fun fault after => Faults text fault after.asked) := by
  have hPulled :
      Pulled text [] (.ofLexer (Lexer.ofText text)) :=
    ⟨rfl, rfl, rfl⟩
  rw [start, ends_bind]
  refine (ends_advance_of_pulled hPulled).mono ?_
    (fun _ _ h => h)
  rintro _ middle ⟨hMiddleDepth, _, hMiddle⟩
  refine (ends_advance_of_pulled hMiddle).mono ?_
    (fun _ _ h => h)
  rintro _ after ⟨hDepth, hToken, hAfter⟩
  rw [← hToken] at hAfter
  exact ⟨hDepth.trans hMiddleDepth, [], rfl, hAfter⟩

end Parser

------------------------------------------------------------
-- Whole Texts
------------------------------------------------------------

/-
  A text that is rejected because of a token is rejected as
  early as can be.  The tokens before it are the beginning of
  tokens that derive an expression, and not yet all of them;
  the tokens up to it are not the beginning of any such, with
  the end of the text behind them; and the lexer has been
  asked for at most one token more.
-/
theorem parseWithin_viable_prefix
    (limit : Nat)
    (text : String)
    (fault : ParseError)
    (token : Token)
    (hFault : parseWithin limit text = .error fault)
    (hBlames : fault.Blames token) :
    ∃ front,
      (Lexer.ofText text).Delivers (front ++ [token]) ∧
        fault.kind? = some token.kind ∧
        fault.literal = token.literal ∧
        (∃ more expr,
          more ≠ [] ∧ Derives (front ++ more) expr) ∧
        (∀ accepted expr, Derives accepted expr →
          ¬ front ++ [token] <+:
            accepted ++ [.endOfText]) ∧
        tokensAsked limit text ≤ front.length + 2 := by
  have hParse :=
    (Parser.keeps_scanning text).parse
      (Parser.start_ends_scanning text)
      (fun _ => Parser.AtOperator.ending)
      (Parser.roomWithin limit)
  rcases hRun : parseRun limit text with
    ⟨found | expr, after⟩
  · have hSame : tokensAsked limit text = after.asked :=
      congrArg (fun run => run.2.asked) hRun
    rw [Parser.ends_of_error hRun, ← hSame] at hParse
    rw [parseWithin, hRun] at hFault
    cases hFault
    rcases hParse token hBlames with
      ⟨front, rejected, scanner, hDelivers, hScanner,
        hReject, hAsked⟩
    have hSame :=
      hBlames.unique (Scanner.blames_of_reject hReject)
    subst hSame
    refine
      ⟨front, hDelivers, hBlames.quotes.1, hBlames.quotes.2,
        Scanner.exists_completion hScanner, ?_, hAsked⟩
    intro accepted expr hDerives
    exact
      Scanner.not_prefix_of_reject hScanner hReject hDerives
  · rw [parseWithin, hRun] at hFault
    cases hFault

/-
  A parenthesis behind an operand in a group is reported in
  its place.
-/
theorem parse_opening_behind_operand :
    ∃ token : Token,
      token.kind = .leftParen ∧
        parse "(7 (2)" =
          .error (.unexpectedToken "RPAREN" token) ∧
        ∃ front,
          (Lexer.ofText "(7 (2)").Delivers
              (front ++ [token]) ∧
            (∃ more expr,
              more ≠ [] ∧ Derives (front ++ more) expr) ∧
            (∀ accepted expr, Derives accepted expr →
              ¬ front ++ [token] <+:
                accepted ++ [.endOfText]) ∧
            tokensAsked depthLimit "(7 (2)" ≤
              front.length + 2 := by
  let token : Token := ⟨.leftParen, "(", nofun⟩
  have hFault :
      parse "(7 (2)" =
        .error (.unexpectedToken "RPAREN" token) := by
    decide +kernel
  rcases
    parseWithin_viable_prefix depthLimit "(7 (2)" _ token
      hFault (.inl ⟨_, rfl⟩) with
    ⟨front, hDelivers, _, _, hViable, hEarliest, hAsked⟩
  exact
    ⟨token, rfl, hFault, front, hDelivers, hViable,
      hEarliest, hAsked⟩

end ArithExpr
