import ArithExpr.Proofs.Grammar.Scanner
import ArithExpr.Proofs.Parser.Steps

/-
  The faults of the parser are those of the scanner.

  Whatever calls are active, what the parser will find depends
  only on whether it waits for an operand or for an operator,
  on the number of open groups and on the stream ahead.  A
  call that reads an operand leaves the scanner, which waits
  for an operator now, with the same fault to find; a call
  that fails does so with that fault, or has run out of room.

  Key definitions include:
    * `Parser.State.operandFault?`
    * `Parser.State.operatorFault?`
    * `Parser.Agrees`
    * `Parser.Scans`
    * `Parser.ScansAbove`
    * `Parser.Faithful`

  Main declarations:
    * `Parser.ends_advance_to_operand`
    * `Parser.operator_scans`
    * `Parser.keeps_fault`
    * `Parser.calls_scan`
    * `parseWithin_eq_error_iff_fault`
-/

------------------------------------------------------------
-- Faults Ahead
------------------------------------------------------------

namespace ArithExpr

namespace Parser

/- What a scanner finds that waits for an operand. -/
def State.operandFault? (state : State) : Option ParseError :=
  Scanner.fault? ⟨.operand, state.depth⟩ state.window.stream

/- What a scanner finds that waits for an operator. -/
def State.operatorFault? (state : State) : Option ParseError :=
  Scanner.fault? ⟨.operator, state.depth⟩ state.window.ahead

/-
  A settled parser that moves to an operand finds there what
  the scanner finds ahead.
-/
theorem ends_advance_to_operand
    {text : List Char}
    {state : State}
    {answers : Unit → State → Prop}
    {fails : ParseError → State → Prop}
    (hSettled : state.window.Settled text)
    (hOk :
      ∀ after : State,
        after.window.Settled text →
          after.depth = state.depth →
          after.operandFault? =
            Scanner.fault? ⟨.operand, state.depth⟩
              state.window.ahead →
          answers () after)
    (hError :
      ∀ fault after,
        Scanner.fault? ⟨.operand, state.depth⟩
            state.window.ahead = some fault →
          fails fault after) :
    advance.Ends state answers fails := by
  apply ends_advance_of_settled hSettled
  · intro after hAfter _ hStream hDepth
    apply hOk after hAfter hDepth
    unfold State.operandFault?
    rw [hStream, hDepth]
  · intro fault after _ hAhead
    apply hError
    rw [hAhead]
    exact Scanner.operand_fault?_of_lexical _ _ fault

/- A token that is rejected where the parser stands. -/
theorem State.fault?_of_reject
    {state : State}
    {mode : Mode}
    {fault : ParseError}
    (hKind : state.token.kind ≠ .endOfText)
    (hVerdict :
      Scanner.verdict ⟨mode, state.depth⟩ state.token =
        .reject fault) :
    Scanner.fault? ⟨mode, state.depth⟩
      state.window.stream = some fault := by
  apply Scanner.fault?_of_reject hKind hVerdict
  intro hNil
  exact .inl (TokenStream.push_fault_of_nil hNil)

/- An operator that is rejected in front of the parser. -/
theorem State.fault?_of_reject_next
    {state : State}
    {opened : Nat}
    {fault : ParseError}
    (hKind : state.next.kind ≠ .endOfText)
    (hNumber : state.next.kind ≠ .number)
    (hVerdict :
      Scanner.verdict ⟨.operator, opened⟩ state.next =
        .reject fault) :
    Scanner.fault? ⟨.operator, opened⟩
      state.window.ahead = some fault := by
  apply Scanner.fault?_of_reject hKind hVerdict
  intro _
  right
  rintro (hMode | hKind)
  · cases hMode
  · exact hNumber hKind

------------------------------------------------------------
-- Agreement
------------------------------------------------------------

/-
  A state behind an operand agrees with an expected fault when
  that is what the scanner finds from there.
-/
structure Agrees
    (text : List Char)
    (depth : Nat)
    (fault? : Option ParseError)
    (state : State) : Prop where
  settled : state.window.Settled text
  depth_eq : state.depth = depth
  fault_eq : state.operatorFault? = fault?

/-
  An action scans an operand when it leaves the fault to find
  as it was, or fails with it, or runs out of room.
-/
def Scans
    (text : List Char)
    (action : Parser Expr)
    (state : State) : Prop :=
  action.Ends state
    (fun _ after =>
      Agrees text state.depth state.operandFault? after)
    (fun fault _ =>
      fault = .tooDeep ∨ state.operandFault? = some fault)

/-
  An action scans above a minimum when it scans an operand
  that is not followed by an operator above the minimum.
-/
def ScansAbove
    (text : List Char)
    (minimum : Int)
    (action : Parser Expr)
    (state : State) : Prop :=
  action.Ends state
    (fun _ after =>
      Agrees text state.depth state.operandFault? after ∧
        after.next.kind.precedence ≤ minimum)
    (fun fault _ =>
      fault = .tooDeep ∨ state.operandFault? = some fault)

/-
  What is read above a minimum is scanned, wherever the parser
  stands in the text.
-/
def Faithful
    (text : List Char)
    (operand : Int → Parser Expr) : Prop :=
  ∀ minimum (state : State), 0 ≤ minimum →
    state.window.Settled text →
    ScansAbove text minimum (operand minimum) state

section Steps

variable {text : List Char}
variable {state : State}

/- A number leaves an operator to be scanned. -/
theorem number_agrees
    (hSettled : state.window.Settled text)
    (hNumber : state.token.kind = .number) :
    Agrees text state.depth state.operandFault? state := by
  have hKind : state.token.kind ≠ .endOfText := by
    simp [hNumber]
  have hFault :
      state.operandFault? = state.operatorFault? :=
    Scanner.fault?_of_goOn _ hKind
      (Scanner.verdict_of_number _ hNumber)
  exact ⟨hSettled, rfl, hFault.symm⟩

/- A missing operand is found by the scanner too. -/
theorem operandFault?_of_missing
    (hSettled : state.window.Settled text)
    (hOpening : state.token.kind ≠ .leftParen)
    (hSign : ¬ state.token.kind.IsSign)
    (hNumber : state.token.kind ≠ .number) :
    state.operandFault? =
      some (if state.token.kind = .endOfText ∧
          0 < state.depth then
        .unmatchedParenthesis state.token
      else
        .unexpectedToken "an expression" state.token) := by
  by_cases hEnd : state.token.kind = .endOfText
  · have hStream : state.window.stream = ([], none) :=
      TokenStream.push_of_end hEnd
    have hToken : state.token = .endOfText :=
      hSettled.token_eq hEnd
    unfold State.operandFault?
    rw [hStream, hToken]
    apply Scanner.fault?_of_reject_end
    by_cases hDepth : 0 < state.depth <;>
      simp [Scanner.verdict, Scanner.operandVerdict,
        Token.endOfText, hDepth]
  · rw [if_neg fun h => hEnd h.1]
    apply State.fault?_of_reject hEnd
    cases hKind : state.token.kind <;>
      simp_all [Scanner.verdict, Scanner.operandVerdict,
        Kind.IsSign]

/-
  A group is closed where the scanner closes it, and is left
  open with the fault that the scanner finds.
-/
theorem closing_scans
    {depth : Nat}
    {fault? : Option ParseError}
    (hLast : Agrees text (depth + 1) fault? state)
    (hNext : state.next.kind.precedence ≤ 0) :
    (expect .rightParen).Ends state
      (fun _ after =>
        after.window.Settled text ∧
          after.depth = depth + 1 ∧
          Scanner.fault? ⟨.operator, depth⟩
            after.window.ahead = fault?)
      (fun fault _ => fault? = some fault) := by
  have hFault :
      Scanner.fault? ⟨.operator, depth + 1⟩
        state.window.ahead = fault? := by
    rw [← hLast.depth_eq]
    exact hLast.fault_eq
  rw [expect, ends_bind, ends_lookahead, ends_ite]
  rcases Kind.end_or_parenthesis hNext with
    hEnd | hOpening | hClosing
  · have hAhead : state.window.ahead = ([], none) :=
      TokenStream.push_of_end hEnd
    have hToken : state.next = .endOfText :=
      hLast.settled.next_eq hEnd
    rw [if_neg (by simp [hEnd]), ends_ite,
      if_pos ⟨rfl, hEnd⟩, ends_fail, ← hFault, hAhead,
      hToken]
    apply Scanner.fault?_of_reject_end
    simp [Scanner.verdict, Scanner.operatorVerdict,
      Token.endOfText]
  · rw [if_neg (by simp [hOpening]), ends_ite,
      if_neg (by simp [hOpening]), ends_fail, ← hFault]
    apply State.fault?_of_reject_next
    · simp [hOpening]
    · simp [hOpening]
    · simp [Scanner.verdict, Scanner.operatorVerdict,
        hOpening, Kind.name]
  · rw [if_pos hClosing]
    have hVerdict :=
      Scanner.verdict_of_closing depth hClosing
    apply ends_advance_of_settled hLast.settled
    · intro after hAfter hToken hStream hDepth
      refine ⟨hAfter, hDepth.trans hLast.depth_eq, ?_⟩
      rw [← hToken] at hVerdict hClosing
      have hKind : after.token.kind ≠ .endOfText := by
        simp [hClosing]
      rw [← hFault, ← hStream]
      exact
        (Scanner.fault?_of_goOn _ hKind hVerdict).symm
    · intro fault after _ hAhead
      rw [← hFault, hAhead]
      exact
        Scanner.fault?_of_lexical fault (.inl ⟨_, hVerdict⟩)

/-
  An operator that the parser stands on is taken, and leaves
  an operand to be scanned; a number there is out of place.
-/
theorem takeOperator_scans
    (hSettled : state.window.Settled text)
    (hPositive : 0 < state.token.kind.precedence) :
    takeOperator.Ends state
      (fun token after =>
        0 ≤ token.kind.precedence ∧
          after.window.Settled text ∧
          after.depth = state.depth ∧
          after.operandFault? =
            Scanner.fault? ⟨.operator, state.depth⟩
              state.window.stream)
      (fun fault _ =>
        Scanner.fault? ⟨.operator, state.depth⟩
          state.window.stream = some fault) := by
  have hKind : state.token.kind ≠ .endOfText := by
    intro hEnd
    rw [hEnd] at hPositive
    exact absurd hPositive (by decide)
  rw [takeOperator, ends_bind, ends_current, ends_ite]
  split
  · next hBinary =>
      have hFault :
          Scanner.fault? ⟨.operator, state.depth⟩
              state.window.stream =
            Scanner.fault? ⟨.operand, state.depth⟩
              state.window.ahead :=
        Scanner.fault?_of_goOn _ hKind
          (Scanner.verdict_of_binary _ hBinary)
      rw [ends_bind, hFault]
      apply ends_advance_to_operand hSettled
      · intro after hAfter hDepth hSame
        exact
          ⟨Int.le_of_lt hPositive, hAfter, hDepth, hSame⟩
      · intro fault after hFound
        exact hFound
  · next hBinary =>
      have hNumber : state.token.kind = .number :=
        (Kind.binary_or_number hPositive).resolve_left
          hBinary
      refine State.fault?_of_reject hKind ?_
      simp [Scanner.verdict, Scanner.operatorVerdict,
        hNumber]

/-
  Where an operator is next, the parser moves to it and past
  it, and leaves an operand to be scanned.
-/
theorem operator_scans
    {depth : Nat}
    {fault? : Option ParseError}
    (hLeft : Agrees text depth fault? state)
    (hPositive : 0 < state.next.kind.precedence) :
    operator.Ends state
      (fun token after =>
        0 ≤ token.kind.precedence ∧
          after.window.Settled text ∧
          after.depth = depth ∧
          after.operandFault? = fault?)
      (fun fault _ => fault? = some fault) := by
  rcases hLeft with ⟨hSettled, rfl, rfl⟩
  rw [operator, ends_bind]
  apply ends_advance_of_settled hSettled
  · intro middle hMiddle hToken hStream hDepth
    have hFault :
        Scanner.fault? ⟨.operator, middle.depth⟩
            middle.window.stream =
          state.operatorFault? := by
      rw [hStream, hDepth]
      rfl
    rw [← hToken] at hPositive
    rw [← hDepth, ← hFault]
    exact takeOperator_scans hMiddle hPositive
  · -- the number that is out of place is not rejected before
    -- the fault behind it has been read
    intro fault after _ hAhead
    unfold State.operatorFault?
    rw [hAhead]
    apply Scanner.fault?_of_lexical
    rcases Kind.binary_or_number hPositive with
      hBinary | hNumber
    · exact .inl ⟨_, Scanner.verdict_of_binary _ hBinary⟩
    · right
      refine
        ⟨.unexpectedToken "operator" state.next, ?_,
          .inr hNumber⟩
      simp [Scanner.verdict, Scanner.operatorVerdict,
        hNumber]

end Steps

/-
  Every step of the parser leaves the fault to find as it was,
  or fails with it.
-/
theorem keeps_fault
    (text : List Char)
    (fault? : Option ParseError) :
    Keeps
      (fun opened state =>
        state.window.Settled text ∧ state.depth = opened ∧
          state.operandFault? = fault?)
      (fun opened state => Agrees text opened fault? state)
      (fun fault _ =>
        fault = .tooDeep ∨ fault? = some fault) where
  tooDeep := fun _ => .inl rfl
  number := by
    rintro opened state ⟨hSettled, rfl, rfl⟩ hNumber
    exact number_agrees hSettled hNumber
  missing := by
    rintro opened state ⟨hSettled, rfl, rfl⟩ hOpening
      hSign hNumber
    right
    exact
      operandFault?_of_missing hSettled hOpening hSign hNumber
  signed := by
    rintro opened state ⟨hSettled, rfl, rfl⟩ hSign
    have hFault :
        state.operandFault? =
          Scanner.fault? ⟨.operand, state.depth⟩
            state.window.ahead :=
      Scanner.fault?_of_goOn _ (hSign.ne id)
        (Scanner.verdict_of_sign _ hSign)
    rw [hFault]
    exact
      ends_advance_to_operand hSettled
        (fun _ hAfter hDepth hSame =>
          ⟨hAfter, hDepth, hSame⟩)
        (fun _ _ hFound => .inr hFound)
  opening := by
    rintro opened state ⟨hSettled, rfl, rfl⟩ hOpening
    have hKind : state.token.kind ≠ .endOfText := by
      simp [hOpening]
    have hFault :
        state.operandFault? =
          Scanner.fault? ⟨.operand, state.depth + 1⟩
            state.window.ahead :=
      Scanner.fault?_of_goOn _ hKind
        (Scanner.verdict_of_opening _ hOpening)
    have hEntered :
        Window.Settled text
          (State.window
            { state with depth := state.depth + 1 }) :=
      hSettled
    rw [hFault]
    exact
      ends_advance_to_operand hEntered
        (fun _ hAfter hDepth hSame =>
          ⟨hAfter, hDepth, hSame⟩)
        (fun _ _ hFound => .inr hFound)
  operator := by
    intro opened state hLeft hPositive
    exact
      (operator_scans hLeft hPositive).mono
        (fun _ _ hAfter => hAfter)
        (fun _ _ hFound => .inr hFound)
  closing := by
    intro opened state hLast hNext
    refine (closing_scans hLast hNext).mono ?_
      (fun _ _ hFound => .inr hFound)
    rintro _ after ⟨hAfter, hDepth, hFound⟩
    have hClosed : after.depth - 1 = opened := by
      rw [hDepth]
      rfl
    refine ⟨hAfter, hClosed, Eq.trans ?_ hFound⟩
    exact
      congrArg
        (fun depth =>
          Scanner.fault? ⟨.operator, depth⟩
            after.window.ahead)
        hClosed
  noted := fun h _ _ => ⟨h.settled, h.depth_eq, h.fault_eq⟩

/-
  What is read in a given room leaves the fault to find as it
  was.
-/
theorem calls_scan
    (text : List Char)
    (room : Nat) :
    Faithful text (expression room) ∧
      (∀ state : State, state.window.Settled text →
        Scans text (primary room) state) ∧
      (∀ state : State, state.window.Settled text →
        state.token.kind = .leftParen →
        Scans text (group room) state) := by
  have hCalls (state : State) :=
    (keeps_fault text state.operandFault?).calls room
  refine ⟨?_, ?_, ?_⟩
  · intro minimum state hMinimum hSettled
    exact
      (hCalls state).1 minimum _ state hMinimum
        ⟨hSettled, rfl, rfl⟩
  · intro state hSettled
    exact (hCalls state).2.1 _ state ⟨hSettled, rfl, rfl⟩
  · intro state hSettled hOpening
    exact
      (hCalls state).2.2 _ state ⟨hSettled, rfl, rfl⟩ hOpening

------------------------------------------------------------
-- Whole Texts
------------------------------------------------------------

/- Outside groups, the end of the text is all that may follow. -/
theorem ending_scans
    {text : List Char}
    {state : State}
    {fault? : Option ParseError}
    (hLast : Agrees text 0 fault? state)
    (hNext : state.next.kind.precedence ≤ 0) :
    (expect .endOfText).Ends state
      (fun _ _ => fault? = none)
      (fun fault _ => fault? = some fault) := by
  have hFault :
      Scanner.fault? ⟨.operator, 0⟩ state.window.ahead =
        fault? := by
    rw [← hLast.depth_eq]
    exact hLast.fault_eq
  rw [expect, ends_bind, ends_lookahead, ends_ite]
  split
  · next hEnd =>
      have hAhead : state.window.ahead = ([], none) :=
        TokenStream.push_of_end hEnd
      rw [hAhead] at hFault
      apply ends_advance_of_settled hLast.settled
      · intros
        exact hFault.symm
      · intro fault after hKind
        exact absurd hEnd hKind
  · next hKind =>
      rw [ends_ite, if_neg (by simp), ends_fail, ← hFault]
      have hParenthesis :=
        (Kind.end_or_parenthesis hNext).resolve_left hKind
      apply State.fault?_of_reject_next hKind
      · rcases hParenthesis with hOpening | hClosing
        · simp [hOpening]
        · simp [hClosing]
      · rcases hParenthesis with hOpening | hClosing
        · simp [Scanner.verdict, Scanner.operatorVerdict,
            hOpening, Kind.name]
        · simp [Scanner.verdict, Scanner.operatorVerdict,
            hClosing, Kind.name]

/- A whole text fails with the fault that the scanner finds. -/
theorem wholeText_scans
    (room : Nat)
    (text : String) :
    (do start; wholeText room).Ends
      (State.ofLexer (Lexer.ofText text))
      (fun _ _ => Scanner.faultOf? text = none)
      (fun fault _ =>
        fault = ParseError.tooDeep ∨
          Scanner.faultOf? text = some fault) := by
  rw [ends_bind]
  apply start_ends
  · intro state hSettled hStream hDepth
    have hFault :
        state.operandFault? = Scanner.faultOf? text := by
      unfold State.operandFault?
      rw [hStream, hDepth]
      rfl
    rw [wholeText, ends_bind]
    refine
      ((calls_scan text.toList room).1 0 state
        (Int.le_refl 0) hSettled).mono ?_ ?_
    · rintro node last ⟨hLast, hNext⟩
      rw [hDepth, hFault] at hLast
      rw [ends_bind]
      refine (ending_scans hLast hNext).mono ?_ ?_
      · intro _ after hNone
        exact hNone
      · intro fault after hFound
        exact .inr hFound
    · intro fault after hFails
      rwa [hFault] at hFails
  · intro fault tokens after hText hLength
    right
    unfold Scanner.faultOf?
    rw [hText]
    cases tokens with
    | nil => rfl
    | cons token others =>
        have hNil : others = [] :=
          List.eq_nil_of_length_eq_zero
            (Nat.le_zero.mp (Nat.le_of_succ_le_succ hLength))
        rw [hNil]
        exact Scanner.operand_fault?_of_lexical _ token fault

end Parser

/-
  A text that is not nested too deeply fails with exactly the
  fault that the scanner finds in it, and is parsed where the
  scanner finds none.
-/
theorem parseWithin_eq_error_iff_fault
    (limit : Nat)
    (text : String)
    (hDepth : parseWithin limit text ≠ .error .tooDeep) :
    (∀ fault,
      parseWithin limit text = .error fault ↔
        Scanner.faultOf? text = some fault) ∧
      ((∃ expr, parseWithin limit text = .ok expr) ↔
        Scanner.faultOf? text = none) := by
  have hScans :=
    Parser.wholeText_scans (Parser.roomWithin limit) text
  rcases hRun : parseRun limit text with
    ⟨found | expr, after⟩
  · rw [Parser.ends_of_error hRun] at hScans
    rw [parseWithin, hRun] at hDepth ⊢
    have hFound : Scanner.faultOf? text = some found := by
      rcases hScans with rfl | hFound
      · exact absurd rfl hDepth
      · exact hFound
    simp [hFound]
  · rw [Parser.ends_of_ok hRun] at hScans
    rw [parseWithin, hRun]
    simp [hScans]

/-
  A lexical fault wins over the number before it, which is out
  of place as well, but not over a parenthesis.
-/
theorem parse_lexical_faults :
    parse "2 3 ." ≠ .error .tooDeep ∧
      parse "2 3 ." =
        .error (.invalidNumber "." .number) ∧
      parse "2 ( ." ≠ .error .tooDeep ∧
      ∃ token, token.kind = .leftParen ∧
        parse "2 ( ." =
          .error (.unexpectedToken "END" token) := by
  have hNumber : parse "2 3 ." ≠ .error .tooDeep := by
    decide +kernel
  have hGroup : parse "2 ( ." ≠ .error .tooDeep := by
    decide +kernel
  refine ⟨hNumber, ?_, hGroup, ⟨.leftParen, "(", nofun⟩,
    rfl, ?_⟩
  · have hFaults :=
      parseWithin_eq_error_iff_fault depthLimit "2 3 ."
        hNumber
    refine (hFaults.1 _).mpr ?_
    decide +kernel
  · have hFaults :=
      parseWithin_eq_error_iff_fault depthLimit "2 ( ."
        hGroup
    refine (hFaults.1 _).mpr ?_
    decide +kernel

end ArithExpr
