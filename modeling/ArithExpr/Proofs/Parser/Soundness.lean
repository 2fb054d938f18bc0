import ArithExpr.Proofs.Parser.Reading

/-
  What the parser reads is derived by the grammar.

  When `Parser.expression` answers with a minimum, the current
  tokens that it went through, from the first to the last, are
  the tokens of a phrase whose operators bind more tightly
  than the minimum; the answer is the tree of that phrase, and
  the next token does not go on with it.

  Key definitions include:
    * `Parser.Window.Covers`
    * `Parser.Derived`
    * `Parser.Climbed`
    * `Parser.Sound`

  Main declarations:
    * `Parser.Window.Covers.append`
    * `Parser.Window.Covers.stream_eq`
    * `Parser.Reading.covers`
    * `Parser.calls_derived`
    * `Parser.expression_derived`
-/

------------------------------------------------------------
-- Tokens Gone Through
------------------------------------------------------------

namespace ArithExpr

namespace Parser

/-
  The current tokens from one window to another one, the first
  and the last included.
-/
inductive Window.Covers :
    Window → List Token → Window → Prop
| here (window : Window) :
    window.Covers [window.token] window
| shift
    {window middle after : Window}
    {tokens : List Token}
    (hShift : window.Shifts middle)
    (hCovers : middle.Covers tokens after) :
    window.Covers (window.token :: tokens) after

namespace Window.Covers

/- Tokens are gone through one list after the other. -/
theorem append
    {window middle next after : Window}
    {front back : List Token}
    (hFront : window.Covers front middle)
    (hShift : middle.Shifts next)
    (hBack : next.Covers back after) :
    window.Covers (front ++ back) after := by
  induction hFront with
  | here window => exact .shift hShift hBack
  | shift hFirst _ ih => exact .shift hFirst (ih hShift)

/- The tokens gone through come first in the stream. -/
theorem stream_eq
    {window after : Window}
    {tokens : List Token}
    (h : window.Covers tokens after)
    (hKinds : ∀ token ∈ tokens, token.kind ≠ .endOfText) :
    window.stream =
      (tokens ++ after.ahead.1, after.ahead.2) := by
  induction h with
  | here window =>
      exact TokenStream.push_of_ne_end
        (hKinds _ List.mem_cons_self)
  | shift hShift hCovers ih =>
      have hRest := ih fun token hMem =>
        hKinds token (List.mem_cons_of_mem _ hMem)
      unfold stream
      rw [TokenStream.push_of_ne_end
        (hKinds _ List.mem_cons_self),
        ← hShift.stream_eq, hRest]
      rfl

end Window.Covers

------------------------------------------------------------
-- Answers That Are Derived
------------------------------------------------------------

/-
  An answer is derived from a level when it is the tree of a
  phrase of that level, and the parser went through the tokens
  of the phrase.
-/
def Derived
    (level : Level)
    (before : State)
    (node : Expr)
    (after : State) : Prop :=
  after.depth = before.depth ∧
    ∃ phrase : Phrase level,
      phrase.tree = node ∧
        before.window.Covers phrase.tokens after.window

/-
  While operators are taken, the phrase read so far has a
  level above the minimum, and the next token does not bind
  more tightly than that level.
-/
def Climbed
    (minimum : Int)
    (before : State)
    (node : Expr)
    (state : State) : Prop :=
  ∃ level : Level,
    (Level.above minimum).precedence ≤ level.precedence ∧
      Derived level before node state ∧
      state.next.kind.precedence ≤ level.precedence

/-
  What is read above a minimum is derived, and is not followed
  by an operator above the minimum.
-/
def Sound (operand : Int → Parser Expr) : Prop :=
  ∀ minimum state,
    (operand minimum).Ends state
      (fun node after =>
        Derived (.above minimum) state node after ∧
          after.next.kind.precedence ≤ minimum)
      (fun _ _ => True)

/- Reading a phrase goes through its tokens. -/
theorem Reading.covers
    {level : Level}
    {phrase : Phrase level}
    {before after : State}
    (h : Reading phrase before after) :
    after.depth = before.depth ∧
      before.window.Covers phrase.tokens after.window := by
  induction h with
  | number state hNumber => exact ⟨rfl, .here state.window⟩
  | signed hSign hMoves _ ih =>
      rcases hMoves.shifts with ⟨hShift, hDepth⟩
      exact ⟨ih.1.trans hDepth, .shift hShift ih.2⟩
  | @group before middle last after inner hOpening hClosing
      hMoves _ hLast ih =>
      rcases hMoves.shifts with ⟨hShift, hDepth⟩
      rcases hLast.shifts with ⟨hEnd, hAfter⟩
      have hCovers :=
        ih.2.append hEnd (.here after.window)
      have hToken : after.window.token = last.next :=
        hLast.token_eq
      rw [hToken] at hCovers
      refine ⟨?_, .shift hShift hCovers⟩
      change after.depth - 1 = before.depth
      rw [hAfter, ih.1, hDepth]
      rfl
  | single hLevel inner _ ih => exact ih
  | @binary level before middle between next after left right
      hTakes _ hFirst hSecond _ ihLeft ihRight =>
      rcases hFirst.shifts with ⟨hShift, hDepth⟩
      rcases hSecond.shifts with ⟨hShift', hDepth'⟩
      have hToken : between.window.token = middle.next :=
        hFirst.token_eq
      have hCovers := Window.Covers.shift hShift' ihRight.2
      rw [hToken] at hCovers
      refine ⟨?_, ihLeft.2.append hShift hCovers⟩
      exact
        ihRight.1.trans
          (hDepth'.trans (hDepth.trans ihLeft.1))

/- What was read is derived. -/
theorem HasRead.derived
    {level : Level}
    {before after : State}
    {node : Expr}
    (h : HasRead level before node after) :
    Derived level before node after := by
  rcases h with ⟨phrase, hTree, hReading⟩
  exact
    ⟨hReading.covers.1, phrase, hTree, hReading.covers.2⟩

/- What was read while operators are taken is derived. -/
theorem HasReadAbove.climbed
    {minimum : Int}
    {before state : State}
    {node : Expr}
    (h : HasReadAbove minimum before node state) :
    Climbed minimum before node state := by
  rcases h with ⟨level, hLevel, hNode, hNext⟩
  exact ⟨level, hLevel, hNode.derived, hNext⟩

/- An operator is taken by two shifts. -/
theorem operator_ends
    (state : State) :
    operator.Ends state
      (fun token after =>
        token = state.next ∧ token.kind.IsBinary ∧
          after.depth = state.depth ∧
          ∃ middle, state.window.Shifts middle ∧
            middle.Shifts after.window)
      (fun _ _ => True) := by
  refine (operator_moves state).mono ?_ (fun _ _ h => h)
  rintro token after
    ⟨hToken, hBinary, middle, hFirst, hSecond⟩
  exact
    ⟨hToken, hBinary,
      hSecond.shifts.2.trans hFirst.shifts.2,
      middle.window, hFirst.shifts.1, hSecond.shifts.1⟩

/- What is read in a given room is derived. -/
theorem calls_derived
    (room : Nat) :
    Sound (expression room) ∧
      (∀ state,
        (primary room).Ends state
          (Derived .operand state)
          (fun _ _ => True)) ∧
      (∀ state : State, state.token.kind = .leftParen →
        (group room).Ends state
          (Derived .operand state)
          (fun _ _ => True)) := by
  rcases calls_read room with
    ⟨hExpression, hPrimary, hGroup⟩
  refine ⟨?_, ?_, ?_⟩
  · intro minimum state
    refine (hExpression minimum state).mono ?_
      (fun _ _ h => h)
    exact fun _ _ h => ⟨h.1.derived, h.2⟩
  · intro state
    refine (hPrimary state).mono ?_ (fun _ _ h => h)
    exact fun _ _ h => h.derived
  · intro state hOpening
    refine (hGroup state hOpening).mono ?_ (fun _ _ h => h)
    exact fun _ _ h => h.derived

/- A whole expression is a sum. -/
theorem expression_derived
    (room : Nat)
    (state : State) :
    (expression room 0).Ends state
      (Derived .sum state)
      (fun _ _ => True) := by
  refine ((calls_derived room).1 0 state).mono ?_
    (fun _ _ h => h)
  exact fun _ _ h => h.1

end Parser

end ArithExpr
