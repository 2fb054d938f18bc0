import ArithExpr.Proofs.Grammar.Phrase
import ArithExpr.Proofs.Parser.Contract

/-
  What the grammar derives is read by the parser, in exactly
  the room that the derivation needs.

  Where the stream starts with the tokens of a phrase, and no
  operator behind them goes on with the phrase, the parser
  answers the tree of the phrase and stands behind its tokens.
  With less room than `Phrase.depth` it finds the phrase
  nested too deeply instead.

  Key definitions include:
    * `TokenStream.Loaded`
    * `TokenStream.precedence`
    * `Parser.Reads`
    * `Parser.Climbs`

  Main declarations:
    * `Parser.Climbs.reads`
    * `Parser.group_reads`
    * `Parser.operator_ends_of_ahead`
    * `Parser.climb_ends_of_phrase`
    * `Parser.climbs`
-/

------------------------------------------------------------
-- Streams Ahead
------------------------------------------------------------

namespace ArithExpr

/- A stream that does not start with a fault. -/
def TokenStream.Loaded (stream : TokenStream) : Prop :=
  stream.1 = [] → stream.2 = none

/- A stream that starts with a token is loaded. -/
theorem TokenStream.loaded_of_ne_nil
    {stream : TokenStream}
    (h : stream.1 ≠ []) :
    stream.Loaded :=
  fun hNil => absurd hNil h

/- How tightly the first token of a stream binds. -/
def TokenStream.precedence (stream : TokenStream) : Int :=
  match stream.1 with
  | [] => Kind.endOfText.precedence
  | token :: _ => token.kind.precedence

/- No operator binds more tightly than an operand. -/
theorem TokenStream.precedence_le_operand
    (stream : TokenStream) :
    stream.precedence ≤ Level.operand.precedence := by
  unfold precedence
  split <;> exact Kind.precedence_le_operand _

namespace Parser

/- The next token binds as the stream ahead does. -/
theorem Window.precedence_ahead
    (window : Window) :
    window.next.kind.precedence =
      window.ahead.precedence := by
  unfold ahead
  by_cases hEnd : window.next.kind = .endOfText
  · rw [TokenStream.push_of_end hEnd, hEnd]
    rfl
  · rw [TokenStream.push_of_ne_end hEnd]
    rfl

/- The stream of a window starts with its current token. -/
theorem Window.stream_eq_cons
    {window : Window}
    {token : Token}
    {others : List Token}
    {fault? : Option ParseError}
    (h : window.stream = (token :: others, fault?)) :
    window.token = token ∧
      window.ahead = (others, fault?) := by
  unfold stream at h
  by_cases hEnd : window.token.kind = .endOfText
  · rw [TokenStream.push_of_end hEnd] at h
    cases h
  · rw [TokenStream.push_of_ne_end hEnd] at h
    injection h with hTokens hFault
    injection hTokens with hToken hOthers
    exact ⟨hToken, Prod.ext hOthers hFault⟩

/- The parser can move where no fault follows at once. -/
theorem ends_advance_of_loaded
    {state : State}
    {token : Token}
    {behind : TokenStream}
    {answers : Unit → State → Prop}
    {fails : ParseError → State → Prop}
    (hAhead :
      state.window.ahead = (token :: behind.1, behind.2))
    (hLoaded : behind.Loaded)
    (hOk :
      ∀ after : State,
        after.window.stream =
            (token :: behind.1, behind.2) →
          after.depth = state.depth → answers () after) :
    advance.Ends state answers fails := by
  apply ends_shift
  · intro after hShift hDepth
    exact hOk after (hShift.stream_eq.trans hAhead) hDepth
  · intro fault lexer after hFault
    exfalso
    have hNext := Window.next_of_ahead_cons hAhead
    rw [← hNext.1] at hNext
    rw [Window.ahead_of_error hFault hNext.2] at hAhead
    injection hAhead with hTokens hFaults
    injection hTokens with _ hNil
    have hNone := hLoaded hNil.symm
    rw [hNone] at hFaults
    cases hFaults

/- The parser can move in front of a phrase. -/
theorem ends_advance_of_phrase
    {level : Level}
    {phrase : Phrase level}
    {state : State}
    {behind : TokenStream}
    {answers : Unit → State → Prop}
    {fails : ParseError → State → Prop}
    (hAhead :
      state.window.ahead =
        (phrase.tokens ++ behind.1, behind.2))
    (hLoaded : behind.Loaded)
    (hOk :
      ∀ after : State,
        after.window.stream =
            (phrase.tokens ++ behind.1, behind.2) →
          after.depth = state.depth → answers () after) :
    advance.Ends state answers fails := by
  rcases List.exists_cons_of_ne_nil phrase.tokens_ne_nil with
    ⟨token, others, hTokens⟩
  rw [hTokens, List.cons_append] at hAhead hOk
  have hOthers :
      TokenStream.Loaded
        (others ++ behind.1, behind.2) := by
    intro hNil
    exact hLoaded (List.append_eq_nil_iff.mp hNil).2
  exact ends_advance_of_loaded hAhead hOthers hOk

/- A token that is expected and stands ahead is taken. -/
theorem expect_ends_of_ahead
    {kind : Kind}
    {state : State}
    {token : Token}
    {behind : TokenStream}
    {answers : Unit → State → Prop}
    {fails : ParseError → State → Prop}
    (hKind : token.kind = kind)
    (hAhead :
      state.window.ahead = (token :: behind.1, behind.2))
    (hLoaded : behind.Loaded)
    (hOk :
      ∀ after : State,
        after.window.ahead = behind →
          after.depth = state.depth → answers () after) :
    (expect kind).Ends state answers fails := by
  have hNext : state.next = token :=
    (Window.next_of_ahead_cons hAhead).1
  rw [expect, ends_bind, ends_lookahead, hNext, ends_ite,
    if_pos hKind]
  refine ends_advance_of_loaded hAhead hLoaded ?_
  intro after hStream hDepth
  exact hOk after (Window.stream_eq_cons hStream).2 hDepth

------------------------------------------------------------
-- Exact Reading
------------------------------------------------------------

/-
  An action reads an expression in exactly the room that it
  needs: it answers the expression and stands in front of what
  is behind, or finds the expression nested too deeply.
-/
def Reads
    (action : Parser Expr)
    (state : State)
    (fits : Prop)
    (tree : Expr)
    (behind : TokenStream) : Prop :=
  action.Ends state
    (fun node after =>
      fits ∧ node = tree ∧ after.window.ahead = behind ∧
        after.depth = state.depth)
    (fun fault _ => ¬ fits ∧ fault = .tooDeep)

/-
  A phrase is climbed when the parser, started on its tokens,
  comes to stand behind them inside its loop over operators,
  with the tree of the phrase in hand.
-/
def Climbs
    {level : Level}
    (phrase : Phrase level) : Prop :=
  ∀ (room : Nat) (minimum : Int) (state : State)
    (behind : TokenStream)
    (answers : Expr → State → Prop)
    (fails : ParseError → State → Prop),
    (Level.above minimum).precedence ≤ level.precedence →
    behind.Loaded →
    behind.precedence ≤ level.precedence →
    state.window.stream =
      (phrase.tokens ++ behind.1, behind.2) →
    (phrase.depth ≤ room + 1 →
      ∀ after : State,
        after.window.ahead = behind →
        after.depth = state.depth →
        (climb (expression room) minimum phrase.tree).Ends
          after answers fails) →
    (¬ phrase.depth ≤ room + 1 →
      ∀ after, fails .tooDeep after) →
    (primary room >>=
      climb (expression room) minimum).Ends
        state answers fails

/-
  A phrase that is climbed is read by a call with a minimum
  that it binds more tightly than, when what is behind it does
  not.
-/
theorem Climbs.reads
    {level : Level}
    {phrase : Phrase level}
    (h : Climbs phrase)
    {room : Nat}
    {minimum : Int}
    {state : State}
    {behind : TokenStream}
    (hMinimum :
      (Level.above minimum).precedence ≤ level.precedence)
    (hLoaded : behind.Loaded)
    (hBehind : behind.precedence ≤ minimum)
    (hLevel : behind.precedence ≤ level.precedence)
    (hStream :
      state.window.stream =
        (phrase.tokens ++ behind.1, behind.2)) :
    Reads (expression room minimum) state
      (phrase.depth ≤ room) phrase.tree behind := by
  cases room with
  | zero =>
      refine ⟨?_, rfl⟩
      have hDepth := phrase.two_le_depth
      omega
  | succ room =>
      rw [expression]
      apply h room minimum state behind _ _ hMinimum
        hLoaded hLevel hStream
      · intro hFits after hAhead hDepth
        have hStop :
            after.next.kind.precedence ≤ minimum := by
          have hNext := after.window.precedence_ahead
          rw [hAhead] at hNext
          exact hNext ▸ hBehind
        rw [climb_ends_of_le hStop]
        exact ⟨hFits, rfl, hAhead, hDepth⟩
      · intro hFits after
        exact ⟨hFits, rfl⟩

/-
  An operand that is read by one call of `primary` is climbed.
-/
theorem climbs_of_primary
    {level : Level}
    {phrase : Phrase level}
    (h :
      ∀ room state behind,
        TokenStream.Loaded behind →
        state.window.stream =
          (phrase.tokens ++ behind.1, behind.2) →
        Reads (primary room) state
          (phrase.depth ≤ room + 1) phrase.tree behind) :
    Climbs phrase := by
  intro room minimum state behind answers fails _ hLoaded _
    hStream hFits hDeep
  rw [ends_bind]
  refine (h room state behind hLoaded hStream).mono ?_ ?_
  · rintro _ after ⟨hRoom, rfl, hAhead, hDepth⟩
    exact hFits hRoom after hAhead hDepth
  · rintro _ after ⟨hRoom, rfl⟩
    exact hDeep hRoom after

------------------------------------------------------------
-- Operands
------------------------------------------------------------

/- A number is climbed. -/
theorem climbs_number
    (token : Token)
    (hKind : token.kind = .number) :
    Climbs (.number token hKind) := by
  apply climbs_of_primary
  intro room state behind hLoaded hStream
  rcases Window.stream_eq_cons hStream with
    ⟨hToken, hAhead⟩
  cases room with
  | zero =>
      refine ⟨?_, rfl⟩
      exact Nat.not_succ_le_self 1
  | succ room =>
      subst hToken
      unfold Reads
      rw [primary_ends_of_number hKind]
      refine ⟨?_, rfl, hAhead, rfl⟩
      exact Nat.le_add_left 2 room

/- A sign is climbed when its operand is. -/
theorem climbs_signed
    (token : Token)
    (hSign : token.kind.IsSign)
    {inner : Phrase .operand}
    (hInner : Climbs inner) :
    Climbs (.signed token hSign inner) := by
  apply climbs_of_primary
  intro room state behind hLoaded hStream
  have hInnerDepth := inner.two_le_depth
  have hDepth :
      (Phrase.signed token hSign inner).depth =
        2 + inner.depth :=
    rfl
  rcases Window.stream_eq_cons hStream with
    ⟨hToken, hAhead⟩
  cases room with
  | zero =>
      refine ⟨?_, rfl⟩
      omega
  | succ room =>
      subst hToken
      unfold Reads
      rw [primary_ends_of_sign hSign, ends_bind]
      refine ends_advance_of_phrase hAhead hLoaded ?_
      intro middle hMiddle hMiddleDepth
      have hReads :
          Reads (expression room Kind.signPrecedence) middle
            (inner.depth ≤ room) inner.tree behind :=
        hInner.reads (Level.precedence_le_operand _) hLoaded
          behind.precedence_le_operand
          behind.precedence_le_operand hMiddle
      rw [ends_bind]
      refine hReads.mono ?_ ?_
      · rintro _ after ⟨hRoom, rfl, hAfter, hAfterDepth⟩
        refine ⟨?_, rfl, hAfter, ?_⟩
        · omega
        · exact hAfterDepth.trans hMiddleDepth
      · rintro _ after ⟨hRoom, rfl⟩
        refine ⟨?_, rfl⟩
        omega

/- A group is read when the sum inside it is climbed. -/
theorem group_reads
    {closing : Token}
    (hClosing : closing.kind = .rightParen)
    {inner : Phrase .sum}
    (hInner : Climbs inner)
    {room : Nat}
    {state : State}
    {behind : TokenStream}
    (hLoaded : behind.Loaded)
    (hAhead :
      state.window.ahead =
        (inner.tokens ++ closing :: behind.1, behind.2)) :
    Reads (group (room + 1)) state
      (inner.depth ≤ room) inner.tree behind := by
  let inside : TokenStream := (closing :: behind.1, behind.2)
  have hInside : inside.Loaded :=
    TokenStream.loaded_of_ne_nil (List.cons_ne_nil _ _)
  have hInsideAhead :
      state.window.ahead =
        (inner.tokens ++ inside.1, inside.2) :=
    hAhead
  have hMinimum : inside.precedence ≤ 0 := by
    change closing.kind.precedence ≤ 0
    rw [hClosing]
    decide
  have hLevel :
      inside.precedence ≤ Level.sum.precedence :=
    Int.le_trans hMinimum (by decide)
  unfold Reads
  rw [group, ends_bind, ends_enterGroup, ends_bind]
  refine ends_advance_of_phrase hInsideAhead hInside ?_
  intro middle hMiddle hMiddleDepth
  have hReads :
      Reads (expression room 0) middle
        (inner.depth ≤ room) inner.tree inside :=
    hInner.reads (Int.le_refl 1) hInside hMinimum hLevel
      hMiddle
  rw [ends_bind]
  refine hReads.mono ?_ (fun _ _ h => h)
  rintro _ last ⟨hRoom, rfl, hLast, hLastDepth⟩
  rw [ends_bind]
  refine expect_ends_of_ahead hClosing hLast hLoaded ?_
  intro after hAfter hAfterDepth
  refine ⟨hRoom, rfl, hAfter, ?_⟩
  change after.depth - 1 = state.depth
  rw [hAfterDepth, hLastDepth, hMiddleDepth]
  rfl

/- A group is climbed when the sum inside it is. -/
theorem climbs_group
    (opening closing : Token)
    (hOpening : opening.kind = .leftParen)
    (hClosing : closing.kind = .rightParen)
    {inner : Phrase .sum}
    (hInner : Climbs inner) :
    Climbs
      (.group opening closing hOpening hClosing inner) := by
  apply climbs_of_primary
  intro room state behind hLoaded hStream
  have hInnerDepth := inner.two_le_depth
  have hDepth :
      (Phrase.group opening closing hOpening hClosing
        inner).depth = 3 + inner.depth :=
    rfl
  simp only [Phrase.tokens, List.cons_append,
    List.append_assoc] at hStream
  rcases Window.stream_eq_cons hStream with
    ⟨hToken, hAhead⟩
  subst hToken
  cases room with
  | zero =>
      refine ⟨?_, rfl⟩
      omega
  | succ room =>
      unfold Reads
      rw [primary_ends_of_opening hOpening]
      cases room with
      | zero =>
          refine ⟨?_, rfl⟩
          omega
      | succ room =>
          refine
            (group_reads hClosing hInner hLoaded
              hAhead).mono ?_ ?_
          · rintro _ after ⟨hRoom, rfl, hAfter⟩
            refine ⟨?_, rfl, hAfter⟩
            omega
          · rintro _ after ⟨hRoom, rfl⟩
            refine ⟨?_, rfl⟩
            omega

------------------------------------------------------------
-- Operators
------------------------------------------------------------

/- A phrase is climbed as one of the level below it. -/
theorem climbs_single
    {level : Level}
    (hLevel : level ≠ .operand)
    {inner : Phrase level.tighter}
    (hInner : Climbs inner) :
    Climbs (.single hLevel inner) := by
  intro room minimum state behind answers fails hMinimum
    hLoaded hBehind
  have hTighter :=
    Int.le_of_lt (Level.precedence_lt_tighter hLevel)
  exact
    hInner room minimum state behind answers fails
      (Int.le_trans hMinimum hTighter) hLoaded
      (Int.le_trans hBehind hTighter)

/-
  An operator that is ahead is taken, and its right operand
  comes next.
-/
theorem operator_ends_of_ahead
    {level : Level}
    {token : Token}
    (hBinary : token.kind.IsBinary)
    {right : Phrase level}
    {state : State}
    {behind : TokenStream}
    (hLoaded : behind.Loaded)
    (hAhead :
      state.window.ahead =
        (token :: (right.tokens ++ behind.1), behind.2)) :
    operator.Ends state
      (fun found after =>
        found = token ∧
          after.window.stream =
            (right.tokens ++ behind.1, behind.2) ∧
          after.depth = state.depth)
      (fun _ _ => False) := by
  let inside : TokenStream :=
    (right.tokens ++ behind.1, behind.2)
  have hInside : inside.Loaded :=
    TokenStream.loaded_of_ne_nil
      (List.append_ne_nil_of_left_ne_nil
        right.tokens_ne_nil _)
  rw [operator, ends_bind]
  refine ends_advance_of_loaded hAhead hInside ?_
  intro first hFirst hFirstDepth
  rcases Window.stream_eq_cons hFirst with
    ⟨hToken, hFirstAhead⟩
  have hState : first.token = token := hToken
  rw [takeOperator, ends_bind, ends_current, hState,
    ends_ite, if_pos hBinary, ends_bind]
  refine ends_advance_of_phrase hFirstAhead hLoaded ?_
  intro second hSecond hSecondDepth
  exact ⟨rfl, hSecond, hSecondDepth.trans hFirstDepth⟩

/-
  An operator and its right operand are taken where the
  operator is ahead, and then the operators behind them.
-/
theorem climb_ends_of_phrase
    {level : Level}
    {token : Token}
    (hTakes : level.Takes token.kind)
    {right : Phrase level.tighter}
    (hRight : Climbs right)
    {room : Nat}
    {minimum : Int}
    {left : Expr}
    {state : State}
    {behind : TokenStream}
    {answers : Expr → State → Prop}
    {fails : ParseError → State → Prop}
    (hMinimum : minimum < level.precedence)
    (hLoaded : behind.Loaded)
    (hBehind : behind.precedence ≤ level.precedence)
    (hAhead :
      state.window.ahead =
        (token :: (right.tokens ++ behind.1), behind.2))
    (hFits :
      right.depth ≤ room →
        ∀ after : State,
          after.window.ahead = behind →
          after.depth = state.depth →
          (climb (expression room) minimum
            (.ofOperator token left right.tree)).Ends
            after answers fails)
    (hDeep :
      ¬ right.depth ≤ room → ∀ after, fails .tooDeep after) :
    (climb (expression room) minimum left).Ends
      state answers fails := by
  rcases Level.takes_iff.mp hTakes with
    ⟨hBinary, hPrecedence⟩
  have hNext : state.next = token :=
    (Window.next_of_ahead_cons hAhead).1
  have hTighter :=
    Level.precedence_lt_tighter
      (Level.ne_operand_of_takes hTakes)
  have hLess : minimum < state.next.kind.precedence := by
    rwa [hNext, hPrecedence]
  rw [climb_ends_of_lt hLess, extend, ends_bind]
  refine
    (operator_ends_of_ahead hBinary hLoaded hAhead).mono ?_
      (fun _ _ h => h.elim)
  rintro _ middle ⟨rfl, hMiddle, hMiddleDepth⟩
  have hReads :
      Reads (expression room level.precedence) middle
        (right.depth ≤ room) right.tree behind := by
    refine
      hRight.reads ?_ hLoaded hBehind
        (Int.le_trans hBehind (Int.le_of_lt hTighter))
        hMiddle
    exact Int.le_of_eq
      (congrArg Level.precedence (Level.above_precedence _))
  rw [ends_bind, hPrecedence]
  refine hReads.mono ?_ ?_
  · rintro _ after ⟨hRoom, rfl, hAfter, hAfterDepth⟩
    exact
      hFits hRoom _ hAfter (hAfterDepth.trans hMiddleDepth)
  · rintro _ after ⟨hRoom, rfl⟩
    exact hDeep hRoom after

/- An operator is climbed when both its operands are. -/
theorem climbs_binary
    {level : Level}
    (token : Token)
    (hTakes : level.Takes token.kind)
    {left : Phrase level}
    {right : Phrase level.tighter}
    (hLeft : Climbs left)
    (hRight : Climbs right) :
    Climbs (.binary token hTakes left right) := by
  intro room minimum state behind answers fails hMinimum
    hLoaded hBehind hStream hFits hDeep
  have hDepth :
      (Phrase.binary token hTakes left right).depth =
        max left.depth (1 + right.depth) :=
    rfl
  let inside : TokenStream :=
    (token :: (right.tokens ++ behind.1), behind.2)
  have hInside : inside.Loaded :=
    TokenStream.loaded_of_ne_nil (List.cons_ne_nil _ _)
  have hPrecedence : inside.precedence ≤ level.precedence :=
    Int.le_of_eq (Level.takes_iff.mp hTakes).2
  have hLess : minimum < level.precedence :=
    Level.lt_of_above_precedence_le
      (Level.ne_operand_of_takes hTakes) hMinimum
  simp only [Phrase.tokens, List.append_assoc,
    List.cons_append] at hStream
  refine
    hLeft room minimum state inside answers fails hMinimum
      hInside hPrecedence hStream ?_ ?_
  · intro hLeftRoom middle hMiddle hMiddleDepth
    refine
      climb_ends_of_phrase hTakes hRight hLess hLoaded
        hBehind hMiddle ?_ ?_
    · intro hRoom after hAfter hAfterDepth
      refine
        hFits ?_ after hAfter
          (hAfterDepth.trans hMiddleDepth)
      omega
    · intro hRoom
      refine hDeep ?_
      omega
  · intro hLeftRoom
    refine hDeep ?_
    omega

/- Every phrase is climbed. -/
theorem climbs
    {level : Level}
    (phrase : Phrase level) :
    Climbs phrase := by
  induction phrase with
  | number token hKind => exact climbs_number token hKind
  | signed token hSign inner ih =>
      exact climbs_signed token hSign ih
  | group opening closing hOpening hClosing inner ih =>
      exact climbs_group opening closing hOpening hClosing ih
  | single hLevel inner ih => exact climbs_single hLevel ih
  | binary token hTakes left right ihLeft ihRight =>
      exact climbs_binary token hTakes ihLeft ihRight

end Parser

end ArithExpr
