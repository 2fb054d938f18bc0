import ArithExpr.Proofs.Parser.Calls
import ArithExpr.Proofs.Parser.Soundness
import Mathlib.Data.List.Infix
import Mathlib.Tactic.Ring

/-
  How many calls can be active at once.

  Outside groups the minimum rises with every right operand
  that is being read, and only a sign or a group is read above
  the tightest operator.  So the calls that are active are
  bounded by the groups that are open and the signs in a row,
  whatever the length of the text and whatever is wrong with
  it.

  Key definitions include:
    * `openedBy`
    * `mostOpened`
    * `signsAhead`
    * `longestSignRun`
    * `callBound`
    * `Parser.Located`
    * `Parser.Procedure.allowance`
    * `Parser.Fits`

  Main declarations:
    * `Phrase.countP_parentheses`
    * `Parser.Located.over`
    * `Parser.Call.Makes.fits`
    * `Parser.Fits.le_callBound`
    * `active_calls_le`
-/

------------------------------------------------------------
-- Groups and Signs of a Stream
------------------------------------------------------------

namespace ArithExpr

/- The groups that tokens open and do not close. -/
def openedBy (tokens : List Token) : Nat :=
  (tokens.countP fun token => token.kind = .leftParen) -
    tokens.countP fun token => token.kind = .rightParen

/- The largest number of groups that are open at once. -/
def mostOpened (tokens : List Token) : Nat :=
  (tokens.inits.map openedBy).max?.getD 0

/- The number of signs in a row at the start of tokens. -/
def signsAhead (tokens : List Token) : Nat :=
  (tokens.takeWhile fun token => token.kind.IsSign).length

/- The largest number of signs in a row. -/
def longestSignRun (tokens : List Token) : Nat :=
  (tokens.tails.map signsAhead).max?.getD 0

/- The number of calls that tokens can make active at once. -/
def callBound (tokens : List Token) : Nat :=
  7 * mostOpened tokens +
    2 * longestSignRun tokens * (mostOpened tokens + 1) + 6

/- Tokens in front open no more than the most. -/
theorem openedBy_le_mostOpened
    (front back : List Token) :
    openedBy front ≤ mostOpened (front ++ back) := by
  apply List.le_max?_getD_of_mem
  apply List.mem_map_of_mem
  exact (List.mem_inits _ _).mpr (List.prefix_append _ _)

/- The number of signs in a row at the end of tokens. -/
def signsBehind (tokens : List Token) : Nat :=
  signsAhead tokens.reverse

/- One more sign at the end makes the run longer. -/
theorem signsBehind_append_sign
    (tokens : List Token)
    {token : Token}
    (hSign : token.kind.IsSign) :
    signsBehind (tokens ++ [token]) =
      signsBehind tokens + 1 := by
  simp [signsBehind, signsAhead, hSign]

/- Signs in a row are no more than the longest run. -/
theorem signsBehind_le_longestSignRun
    (front back : List Token) :
    signsBehind front ≤ longestSignRun (front ++ back) := by
  let isSign : Token → Bool := fun token => token.kind.IsSign
  let run := (front.reverse.takeWhile isSign).reverse
  let others := (front.reverse.dropWhile isSign).reverse
  have hFront : front = others ++ run := by
    rw [← List.reverse_append,
      List.takeWhile_append_dropWhile, List.reverse_reverse]
  have hSigns : ∀ token ∈ run, isSign token = true := by
    intro token hMem
    exact List.mem_takeWhile_imp (List.mem_reverse.mp hMem)
  have hRun : signsBehind front ≤ signsAhead (run ++ back) := by
    have hLength : signsBehind front = run.length :=
      List.length_reverse.symm
    have hAhead :
        (run ++ back).takeWhile isSign =
          run ++ back.takeWhile isSign :=
      List.takeWhile_append_of_pos hSigns
    change _ ≤ ((run ++ back).takeWhile isSign).length
    rw [hLength, hAhead, List.length_append]
    exact Nat.le_add_right _ _
  refine Nat.le_trans hRun ?_
  apply List.le_max?_getD_of_mem
  apply List.mem_map_of_mem
  apply (List.mem_tails _ _).mpr
  rw [hFront, List.append_assoc]
  exact List.suffix_append _ _

/- A phrase closes as many groups as it opens. -/
theorem Phrase.countP_parentheses
    {level : Level}
    (phrase : Phrase level) :
    (phrase.tokens.countP fun token =>
        token.kind = .leftParen) =
      phrase.tokens.countP fun token =>
        token.kind = .rightParen := by
  induction phrase with
  | number token hKind => simp [tokens, hKind]
  | signed token hSign inner ih =>
      have hLeft : token.kind ≠ .leftParen := hSign.ne id
      have hRight : token.kind ≠ .rightParen := hSign.ne id
      simp [tokens, hLeft, hRight, ih]
  | group opening closing hOpening hClosing inner ih =>
      simp [tokens, hOpening, hClosing, ih]
  | single hLevel inner ih => exact ih
  | binary token hTakes left right ihLeft ihRight =>
      have hBinary := (Level.takes_iff.mp hTakes).1
      have hLeft : token.kind ≠ .leftParen := hBinary.ne id
      have hRight : token.kind ≠ .rightParen := hBinary.ne id
      simp [tokens, hLeft, hRight, ihLeft, ihRight]

end ArithExpr

------------------------------------------------------------
-- States in a Text
------------------------------------------------------------

namespace ArithExpr

namespace Parser

/-
  A state is located behind the first tokens of a text when
  its stream is what follows them, and the groups that it has
  entered are those that they leave open.
-/
structure Located
    (text : String)
    (front : List Token)
    (state : State) : Prop where
  stream_eq :
    Lexer.streamOf text.toList =
      (front ++ state.window.stream.1,
        state.window.stream.2)
  countP_eq :
    (front.countP fun token => token.kind = .leftParen) =
      (front.countP fun token => token.kind = .rightParen) +
        state.depth

/- The tokens that are gone through come behind the first. -/
theorem Located.over
    {text : String}
    {front tokens : List Token}
    {state after : State}
    {last : Window}
    (hState : Located text front state)
    (hCovers : state.window.Covers tokens last)
    (hKinds : ∀ token ∈ tokens, token.kind ≠ .endOfText)
    (hShift : last.Shifts after.window)
    (hDepth :
      (tokens.countP fun token =>
          token.kind = .leftParen) + state.depth =
        (tokens.countP fun token =>
          token.kind = .rightParen) + after.depth) :
    Located text (front ++ tokens) after := by
  refine ⟨?_, ?_⟩
  · rw [hState.stream_eq, hCovers.stream_eq hKinds,
      hShift.stream_eq, List.append_assoc]
  · have hFront := hState.countP_eq
    rw [List.countP_append, List.countP_append]
    omega

/- The groups that a state has entered are open in the text. -/
theorem Located.depth_le
    {text : String}
    {front : List Token}
    {state : State}
    (h : Located text front state) :
    state.depth ≤
      mostOpened (Lexer.streamOf text.toList).1 := by
  have hOpened : openedBy front = state.depth := by
    rw [openedBy, h.countP_eq, Nat.add_sub_cancel_left]
  rw [h.stream_eq, ← hOpened]
  exact openedBy_le_mostOpened front _

/- A parenthesis that a state stands on opens one more. -/
theorem Located.depth_lt
    {text : String}
    {front : List Token}
    {state : State}
    (h : Located text front state)
    (hOpening : state.token.kind = .leftParen) :
    state.depth <
      mostOpened (Lexer.streamOf text.toList).1 := by
  have hKind : state.token.kind ≠ .endOfText := by
    simp [hOpening]
  have hStream :
      state.window.stream =
        (state.token :: state.window.ahead.1,
          state.window.ahead.2) :=
    TokenStream.push_of_ne_end hKind
  have hOpened :
      openedBy (front ++ [state.token]) = state.depth + 1 := by
    have hFront := h.countP_eq
    simp [openedBy, hOpening]
    omega
  have hMost :=
    openedBy_le_mostOpened (front ++ [state.token])
      state.window.ahead.1
  rw [hOpened, List.append_assoc,
    List.singleton_append] at hMost
  rw [h.stream_eq, hStream]
  exact hMost

/- The signs in front of a state are in a row in the text. -/
theorem Located.signsBehind_le
    {text : String}
    {front : List Token}
    {state : State}
    (h : Located text front state) :
    signsBehind front ≤
      longestSignRun (Lexer.streamOf text.toList).1 := by
  rw [h.stream_eq]
  exact signsBehind_le_longestSignRun front _

end Parser

end ArithExpr

------------------------------------------------------------
-- Allowances
------------------------------------------------------------

namespace ArithExpr

/-
  How many calls of `expression` are active at most when one
  is made for the level, groups apart.
-/
def Level.rank : Level → Nat
| .sum => 1
| .product => 2
| .quotient => 3
| .remainder => 4
| .operand => 5

/- A tighter level has a higher rank. -/
theorem Level.rank_le_rank
    {looser level : Level}
    (h : looser.precedence ≤ level.precedence) :
    looser.rank ≤ level.rank := by
  revert h
  cases looser <;> cases level <;> decide

/- The operands of a level are one rank higher. -/
theorem Level.rank_tighter
    {level : Level}
    (hLevel : level ≠ .operand) :
    level.tighter.rank = level.rank + 1 := by
  revert hLevel
  cases level <;> decide

/- No rank is higher than that of an operand. -/
theorem Level.rank_le_five
    (level : Level) :
    level.rank ≤ 5 := by
  cases level <;> decide

namespace Parser

/-
  How many calls can be active since the last group was
  entered when a procedure is called, the call included and
  the signs in front of it given.
-/
def Procedure.allowance
    (signs : Nat) : Procedure → Nat
| .expression minimum =>
    if minimum < Kind.signPrecedence then
      (Level.above minimum).rank
    else
      5 + 2 * signs
| .primary => 6 + 2 * signs
| .group => 7 + 2 * signs

/- An expression leaves room for its operand. -/
theorem Procedure.allowance_expression_lt
    (minimum : Int)
    (signs : Nat) :
    (expression minimum).allowance signs <
      primary.allowance signs := by
  have hRank := (Level.above minimum).rank_le_five
  unfold allowance
  dsimp only
  split <;> omega

/-
  An operator above the minimum leaves room for its right
  operand.
-/
theorem Procedure.allowance_lt_of_lt
    {minimum : Int}
    {kind : Kind}
    (hBinary : kind.IsBinary)
    (hLess : minimum < kind.precedence)
    (signs others : Nat) :
    (expression minimum).allowance signs <
      (expression kind.precedence).allowance others := by
  rcases Level.exists_takes hBinary with ⟨level, hTakes⟩
  have hPrecedence := (Level.takes_iff.mp hTakes).2
  have hLevel := Level.ne_operand_of_takes hTakes
  have hTighter := Level.precedence_lt_tighter hLevel
  have hOperand := Level.precedence_le_operand level.tighter
  have hSign : Level.operand.precedence = Kind.signPrecedence :=
    rfl
  rw [hPrecedence] at hLess ⊢
  have hRank :
      (Level.above minimum).rank < level.tighter.rank := by
    rw [Level.rank_tighter hLevel]
    have hLe :=
      Level.rank_le_rank (Level.above_precedence_le hLess)
    omega
  unfold allowance
  dsimp only
  rw [if_pos (by omega), if_pos (by omega),
    Level.above_precedence]
  exact hRank

end Parser

end ArithExpr

------------------------------------------------------------
-- Calls That Fit
------------------------------------------------------------

namespace ArithExpr

namespace Parser

/- A call that comes to its loop has read a phrase. -/
theorem Call.AtLoop.hasReadAbove
    {room : Nat}
    {minimum : Int}
    {before state : State}
    {node : Expr}
    (h : AtLoop room minimum before node state) :
    HasReadAbove minimum before node state := by
  induction h with
  | enter hPrimary =>
      have hRead := (calls_read room).2.1 before
      rw [ends_of_ok hPrimary] at hRead
      exact
        ⟨.operand, Level.precedence_le_operand _, hRead,
          Kind.precedence_le_operand _⟩
  | again _ hLess hExtend ih =>
      have hRead := extend_read (calls_read room).1 ih hLess
      rwa [ends_of_ok hExtend] at hRead

/-
  A call fits a text as one of a number of active calls when
  it is located in the text, and the groups that it has
  entered and the signs in front of it allow for the number.
-/
structure Fits
    (text : String)
    (count : Nat)
    (front : List Token)
    (call : Call) : Prop where
  located : Located text front call.state
  count_le :
    count ≤
      (7 + 2 * longestSignRun
          (Lexer.streamOf text.toList).1) *
        call.state.depth +
      call.procedure.allowance (signsBehind front)
  opening :
    call.procedure = .group →
      call.state.token.kind = .leftParen

/- Moving on shifts the window and opens no group. -/
theorem shifts_of_advance
    {state after : State}
    (hAdvance : advance.run state = (.ok (), after)) :
    state.window.Shifts after.window ∧
      after.depth = state.depth := by
  have hEnds :
      advance.Ends state
        (fun _ after =>
          state.window.Shifts after.window ∧
            after.depth = state.depth)
        (fun _ _ => True) := by
    apply ends_shift
    · intro after hShift hDepth
      exact ⟨hShift, hDepth⟩
    · intros
      trivial
  rwa [ends_of_ok hAdvance] at hEnds

section Steps

variable {text : String}
variable {count : Nat}
variable {front : List Token}
variable {room : Nat}
variable {state after : State}

/-
  A call that starts in the same state fits where it is
  allowed for.
-/
theorem Fits.same_state
    {procedure callee : Procedure}
    {room' : Nat}
    (h : Fits text count front ⟨procedure, room, state⟩)
    (hLess :
      procedure.allowance (signsBehind front) <
        callee.allowance (signsBehind front))
    (hOpening :
      callee = .group → state.token.kind = .leftParen) :
    Fits text (count + 1) front ⟨callee, room', state⟩ := by
  have hCount := h.count_le
  refine ⟨h.located, ?_, hOpening⟩
  dsimp only at hCount ⊢
  omega

/-
  The right operand of an operator fits: all that was read
  before it has closed its groups, and the operator binds more
  tightly than the minimum.
-/
theorem Fits.rightOperand
    {minimum : Int}
    {before : State}
    {left : Expr}
    {token : Token}
    (h :
      Fits text count front
        ⟨.expression minimum, room + 1, before⟩)
    (hLoop :
      Call.AtLoop room minimum before left state)
    (hLess : minimum < state.next.kind.precedence)
    (hOperator : operator.run state = (.ok token, after)) :
    ∃ front, Fits text (count + 1) front
      ⟨.expression token.kind.precedence, room, after⟩ := by
  rcases hLoop.hasReadAbove.climbed with
    ⟨level, _, ⟨hDepth, phrase, _, hCovers⟩, _⟩
  have hTaken := operator_ends state
  rw [ends_of_ok hOperator] at hTaken
  rcases hTaken with
    ⟨rfl, hBinary, hSame, middle, hFirst, hSecond⟩
  have hLast : middle.token = state.next := hFirst.token_eq
  have hOver :
      before.window.Covers
        (phrase.tokens ++ [state.next]) middle := by
    rw [← hLast]
    exact hCovers.append hFirst (.here middle)
  have hKinds :
      ∀ token ∈ phrase.tokens ++ [state.next],
        token.kind ≠ .endOfText := by
    intro token hMem
    rcases List.mem_append.mp hMem with hMem | hMem
    · exact phrase.kind_ne_endOfText token hMem
    · rw [List.mem_singleton.mp hMem]
      exact hBinary.ne id
  have hLeft : state.next.kind ≠ .leftParen := hBinary.ne id
  have hRight : state.next.kind ≠ .rightParen := hBinary.ne id
  have hBalance := phrase.countP_parentheses
  have hLocated :=
    h.located.over hOver hKinds hSecond (by
      simp [hLeft, hRight]
      omega)
  refine ⟨_, hLocated, ?_, nofun⟩
  have hCount := h.count_le
  have hAllowed :=
    Procedure.allowance_lt_of_lt hBinary hLess
      (signsBehind front)
      (signsBehind (front ++ (phrase.tokens ++ [state.next])))
  dsimp only at hCount ⊢
  rw [hSame, hDepth]
  omega

/- The operand of a sign fits: the sign is in front of it. -/
theorem Fits.signed
    (h : Fits text count front ⟨.primary, room + 1, state⟩)
    (hSign : state.token.kind.IsSign)
    (hAdvance : advance.run state = (.ok (), after)) :
    ∃ front, Fits text (count + 1) front
      ⟨.expression Kind.signPrecedence, room, after⟩ := by
  rcases shifts_of_advance hAdvance with ⟨hShift, hDepth⟩
  have hLeft : state.token.kind ≠ .leftParen := hSign.ne id
  have hRight : state.token.kind ≠ .rightParen := hSign.ne id
  have hEnd : state.token.kind ≠ .endOfText := hSign.ne id
  have hLocated :=
    h.located.over (.here state.window)
      (by simpa [State.window] using hEnd) hShift (by
        simp [State.window, hLeft, hRight, hDepth])
  refine ⟨_, hLocated, ?_, nofun⟩
  have hCount := h.count_le
  have hSigns := signsBehind_append_sign front hSign
  have hAllowed :
      (Procedure.expression Kind.signPrecedence).allowance
          (signsBehind front + 1) =
        Procedure.primary.allowance (signsBehind front) + 1 := by
    simp only [Procedure.allowance, Int.lt_irrefl, if_false]
    omega
  change _ ≤ _ + Procedure.allowance
    (signsBehind (front ++ [state.token])) _
  dsimp only at hCount ⊢
  rw [hDepth, hSigns, hAllowed]
  omega

/-
  What is inside a group fits: the group that is entered
  allows for as many signs as there are in a row.
-/
theorem Fits.inside
    (h : Fits text count front ⟨.group, room + 1, state⟩)
    (hAdvance :
      advance.run { state with depth := state.depth + 1 } =
        (.ok (), after)) :
    ∃ front, Fits text (count + 1) front
      ⟨.expression 0, room, after⟩ := by
  rcases shifts_of_advance hAdvance with ⟨hShift, hDepth⟩
  have hOpening : state.token.kind = .leftParen := h.opening rfl
  have hLocated :=
    h.located.over (.here state.window)
      (by simp [State.window, hOpening]) hShift (by
        simp [State.window, hOpening, hDepth]
        omega)
  refine ⟨_, hLocated, ?_, nofun⟩
  have hCount := h.count_le
  have hSigns := h.located.signsBehind_le
  have hFirst :
      ∀ signs, (Procedure.expression 0).allowance signs = 1 :=
    fun _ => rfl
  dsimp only [Procedure.allowance] at hCount
  dsimp only at hSigns ⊢
  rw [hFirst, hDepth, Nat.mul_succ]
  omega

end Steps

/- A call that is made fits as one more active call. -/
theorem Call.Makes.fits
    {text : String}
    {count : Nat}
    {front : List Token}
    {caller callee : Call}
    (hMakes : caller.Makes callee)
    (h : Fits text count front caller) :
    ∃ front, Fits text (count + 1) front callee := by
  cases hMakes with
  | operand =>
      exact
        ⟨front, h.same_state
          (Procedure.allowance_expression_lt _ _) nofun⟩
  | rightOperand hLoop hLess hOperator =>
      exact h.rightOperand hLoop hLess hOperator
  | parenthesis hOpening =>
      have hLess :
          Procedure.primary.allowance (signsBehind front) <
            Procedure.group.allowance (signsBehind front) := by
        simp only [Procedure.allowance]
        omega
      exact ⟨front, h.same_state hLess fun _ => hOpening⟩
  | signed hSign hAdvance => exact h.signed hSign hAdvance
  | inside hAdvance => exact h.inside hAdvance

/- The latest of some active calls fits with their number. -/
theorem Active.fits
    {limit : Nat}
    {text : String}
    {calls : List Call}
    (h : Active limit text calls) :
    ∃ call callers front, calls = call :: callers ∧
      Fits text calls.length front call := by
  induction h with
  | @first state hStart =>
      have hEnds :
          start.Ends (State.ofLexer (Lexer.ofText text))
            (fun _ state =>
              state.window.stream =
                  Lexer.streamOf text.toList ∧
                state.depth = 0)
            (fun _ _ => True) := by
        apply start_ends
        · intro state _ hStream hDepth
          exact ⟨hStream, hDepth⟩
        · intros
          trivial
      rw [ends_of_ok hStart] at hEnds
      refine ⟨_, _, [], rfl, ⟨?_, ?_⟩, ?_, nofun⟩
      · rw [hEnds.1]
        rfl
      · rw [hEnds.2]
        rfl
      · exact Nat.le_add_left 1 _
  | next _ hMakes ih =>
      rcases ih with ⟨caller, callers, front, hCalls, hFits⟩
      cases hCalls
      rcases hMakes.fits hFits with ⟨front, hCallee⟩
      exact ⟨_, _, front, rfl, hCallee⟩

/- As many active calls as fit are within the bound. -/
theorem Fits.le_callBound
    {text : String}
    {count : Nat}
    {front : List Token}
    {call : Call}
    (h : Fits text count front call) :
    count ≤
      callBound (Lexer.streamOf text.toList).1 := by
  rcases call with ⟨procedure, room, state⟩
  have hCount := h.count_le
  have hSigns := h.located.signsBehind_le
  have hDepth := h.located.depth_le
  have hOpened := h.located.depth_lt
  have hOpening := h.opening
  dsimp only at hCount hDepth hOpened hOpening
  generalize (Lexer.streamOf text.toList).1 = tokens at *
  have hBound :
      callBound tokens =
        (7 + 2 * longestSignRun tokens) *
            mostOpened tokens +
          (6 + 2 * longestSignRun tokens) := by
    unfold callBound
    ring
  have hProduct :=
    Nat.mul_le_mul_left (7 + 2 * longestSignRun tokens)
      hDepth
  rw [hBound]
  cases procedure with
  | expression minimum =>
      have hLess :=
        Procedure.allowance_expression_lt minimum
          (signsBehind front)
      have hPrimary :
          Procedure.primary.allowance (signsBehind front) =
            6 + 2 * signsBehind front :=
        rfl
      omega
  | primary =>
      simp only [Procedure.allowance] at hCount
      omega
  | group =>
      have hNext :=
        Nat.mul_le_mul_left (7 + 2 * longestSignRun tokens)
          (hOpened (hOpening rfl))
      rw [Nat.mul_succ] at hNext
      simp only [Procedure.allowance] at hCount
      omega

end Parser

------------------------------------------------------------
-- The Bound of a Text
------------------------------------------------------------

/-
  While a text is parsed, no more calls are active at once
  than its groups and its signs in a row allow for, whatever
  the limit.  A text is too deep exactly when as many calls as
  the limit are active, and so never where the limit is above
  the bound.
-/
theorem active_calls_le
    (limit : Nat)
    (text : String) :
    (∀ calls, Parser.Active limit text calls →
      calls.length ≤
        callBound (Lexer.ofText text).scan.1) ∧
      (parseWithin limit text = .error .tooDeep ↔
        ∃ calls, Parser.Active limit text calls ∧
          limit ≤ calls.length) ∧
      (callBound (Lexer.ofText text).scan.1 < limit →
        parseWithin limit text ≠ .error .tooDeep) := by
  have hBound :
      ∀ calls, Parser.Active limit text calls →
        calls.length ≤
          callBound (Lexer.ofText text).scan.1 := by
    intro calls hActive
    rcases hActive.fits with ⟨_, _, _, _, hFits⟩
    exact hFits.le_callBound
  refine
    ⟨hBound, parseWithin_eq_tooDeep_iff_active limit text,
      ?_⟩
  intro hLimit hDeep
  rcases
    (parseWithin_eq_tooDeep_iff_active limit text).mp hDeep
    with ⟨calls, hActive, hLe⟩
  have hCalls := hBound calls hActive
  omega

/-
  A signed group and a group that is never closed make no more
  than seventeen calls active, and so a limit of eighteen is
  high enough.
-/
theorem active_calls_of_open_group :
    callBound (Lexer.ofText "-(1+2)*(3").scan.1 = 17 ∧
      (∀ calls, Parser.Active 18 "-(1+2)*(3" calls →
        calls.length ≤ 17) ∧
      parseWithin 18 "-(1+2)*(3" ≠ .error .tooDeep := by
  have hBound :
      callBound (Lexer.ofText "-(1+2)*(3").scan.1 = 17 := by
    decide +kernel
  rcases active_calls_le 18 "-(1+2)*(3" with
    ⟨hCalls, _, hFits⟩
  rw [hBound] at hCalls hFits
  exact ⟨hBound, hCalls, hFits (by decide)⟩

end ArithExpr
