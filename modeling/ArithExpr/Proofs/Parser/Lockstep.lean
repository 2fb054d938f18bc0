import ArithExpr.Proofs.Parser.Contract

/-
  Runs of the parser that go on in step.

  Two runs are in step when the states that they come to are
  alike.  Once moving on keeps states alike, and so do entering
  a group and noting a node, every call keeps them alike,
  whatever it calls in turn: this is one induction over the
  room of calls and over the operators that a loop takes.  A
  run in step with itself keeps an invariant.

  Key definitions include:
    * `Parser.EndsInStep`
    * `Parser.Lockstep`
    * `Parser.Lockstep.InStep`
    * `Parser.Lockstep.Nests`
    * `Parser.Lockstep.alone`

  Main declarations:
    * `Parser.Lockstep.InStep.bind`
    * `Parser.Lockstep.Nests.climb`
    * `Parser.Lockstep.Nests.calls`
    * `Parser.Lockstep.Nests.parse`
    * `Parser.Lockstep.InStep.ends`
-/

------------------------------------------------------------
-- Records
------------------------------------------------------------

namespace ArithExpr

/- The token that was read, if that is what was noted. -/
def Record.token? : Record → Option Token
| .token found => some found
| .sign _ | .operator _ => none

/- The text that a record quotes. -/
def Record.literal : Record → String
| .token found => found.literal
| .sign literal => literal
| .operator literal => literal

------------------------------------------------------------
-- Actions in Step
------------------------------------------------------------

namespace Parser

variable {α β : Type}

/-
  Two runs end in step when they give one answer in states
  that are alike, or raise one fault.  The first run may have
  less room, and is then nested too deeply wherever the other
  goes on.
-/
inductive EndsInStep
    (alike failed : State → State → Prop)
    (roomier : Prop)
    (answers : α → Prop) :
    Except ParseError α × State →
      Except ParseError α × State → Prop
| answer
    {answer : α}
    {left right : State}
    (hAnswer : answers answer)
    (hAlike : alike left right) :
    EndsInStep alike failed roomier answers
      (.ok answer, left) (.ok answer, right)
| fault
    {fault : ParseError}
    {left right : State}
    (hFailed : failed left right) :
    EndsInStep alike failed roomier answers
      (.error fault, left) (.error fault, right)
| refused
    {left : State}
    {other : Except ParseError α × State}
    (hRoomier : roomier) :
    EndsInStep alike failed roomier answers
      (.error .tooDeep, left) other

/-
  What keeps two runs in step.  States that are alike hold the
  same tokens, with texts that are as asked for; moving on
  leads to states that are alike, or to one fault behind which
  the states are as is asked for then.
-/
structure Lockstep where
  alike : State → State → Prop
  failed : State → State → Prop
  quotes : String → Prop
  roomier : Prop
  token_eq :
    ∀ left right, alike left right → left.token = right.token
  next_eq :
    ∀ left right, alike left right → left.next = right.next
  quotes_token :
    ∀ left right, alike left right →
      quotes left.token.literal
  failed_of_alike :
    ∀ left right, alike left right → failed left right
  moves :
    ∀ left right, alike left right →
      EndsInStep alike failed roomier (fun _ => True)
        left.advance right.advance

namespace Lockstep

variable {pace : Lockstep}

/-
  Two actions are in step when they end in step from states
  that are alike.
-/
def InStep
    (pace : Lockstep)
    (answers : α → Prop)
    (action other : Parser α) : Prop :=
  ∀ left right, pace.alike left right →
    EndsInStep pace.alike pace.failed pace.roomier answers
      (action.run left) (other.run right)

/- Two actions one after the other are in step. -/
theorem InStep.bind
    {first first' : Parser α}
    {second second' : α → Parser β}
    {between : α → Prop}
    {answers : β → Prop}
    (hFirst : pace.InStep between first first')
    (hSecond :
      ∀ answer, between answer →
        pace.InStep answers (second answer)
          (second' answer)) :
    pace.InStep answers (first >>= second)
      (first' >>= second') := by
  intro left right h
  have hEnds := hFirst left right h
  rw [run_bind, run_bind]
  generalize first.run left = leftEnd at hEnds ⊢
  generalize first'.run right = rightEnd at hEnds ⊢
  cases hEnds with
  | answer hAnswer hAlike =>
      exact hSecond _ hAnswer _ _ hAlike
  | fault hFailed => exact .fault hFailed
  | refused hRoomier => exact .refused hRoomier

/- Less may be said about the answer. -/
theorem InStep.mono
    {action other : Parser α}
    {answers answers' : α → Prop}
    (h : pace.InStep answers action other)
    (hAnswers : ∀ answer, answers answer → answers' answer) :
    pace.InStep answers' action other := by
  intro left right hAlike
  have hEnds := h left right hAlike
  generalize action.run left = leftEnd at hEnds ⊢
  generalize other.run right = rightEnd at hEnds ⊢
  cases hEnds with
  | answer hAnswer hAfter =>
      exact .answer (hAnswers _ hAnswer) hAfter
  | fault hFailed => exact .fault hFailed
  | refused hRoomier => exact .refused hRoomier

/- The chosen actions are in step. -/
theorem InStep.ite
    {condition : Prop}
    [Decidable condition]
    {first first' second second' : Parser α}
    {answers : α → Prop}
    (hFirst : pace.InStep answers first first')
    (hSecond : pace.InStep answers second second') :
    pace.InStep answers
      (if condition then first else second)
      (if condition then first' else second') := by
  split
  · exact hFirst
  · exact hSecond

section Steps

variable (pace)

/- An answer is in step with itself. -/
theorem inStep_pure
    {answers : α → Prop}
    {answer : α}
    (hAnswer : answers answer) :
    pace.InStep answers (pure answer) (pure answer) :=
  fun _ _ h => .answer hAnswer h

/- A fault is in step with itself. -/
theorem inStep_fail
    (answers : α → Prop)
    (fault : ParseError) :
    pace.InStep answers (fail fault) (fail fault) :=
  fun _ _ h => .fault (pace.failed_of_alike _ _ h)

/- A given outcome is in step with itself. -/
theorem inStep_ofExcept
    (outcome : Except ParseError α) :
    pace.InStep (fun _ => True) (ofExcept outcome)
      (ofExcept outcome) := by
  cases outcome with
  | ok answer => exact pace.inStep_pure trivial
  | error fault => exact pace.inStep_fail _ fault

/- The current tokens are the same. -/
theorem inStep_current :
    pace.InStep (fun token => pace.quotes token.literal)
      current current := by
  intro left right h
  rw [run_current, run_current, ← pace.token_eq _ _ h]
  exact .answer (pace.quotes_token _ _ h) h

/- The next tokens are the same. -/
theorem inStep_lookahead :
    pace.InStep (fun _ => True) lookahead lookahead := by
  intro left right h
  rw [run_lookahead, run_lookahead, ← pace.next_eq _ _ h]
  exact .answer trivial h

/- Moving on is in step with itself. -/
theorem inStep_advance :
    pace.InStep (fun _ => True) advance advance :=
  pace.moves

/- Expecting a token. -/
theorem inStep_expect
    (kind : Kind) :
    pace.InStep (fun _ => True) (expect kind)
      (expect kind) := by
  refine pace.inStep_lookahead.bind fun next _ => ?_
  refine pace.inStep_advance.ite ?_
  exact (pace.inStep_fail _ _).ite (pace.inStep_fail _ _)

/- Moving past an operator. -/
theorem inStep_operator :
    pace.InStep (fun token => pace.quotes token.literal)
      operator operator := by
  refine pace.inStep_advance.bind fun _ _ => ?_
  refine pace.inStep_current.bind fun token hToken => ?_
  refine InStep.ite ?_ (pace.inStep_fail _ _)
  refine pace.inStep_advance.bind fun _ _ => ?_
  exact pace.inStep_pure hToken

/- Loading the first two tokens. -/
theorem inStep_start :
    pace.InStep (fun _ => True) start start :=
  pace.inStep_advance.bind fun _ _ => pace.inStep_advance

end Steps

------------------------------------------------------------
-- Calls in Step
------------------------------------------------------------

/-
  What keeps two runs in step over groups and nodes: states
  that are alike have the same groups open, and stay alike
  when that number is changed and when a node is noted.
-/
structure Nests (pace : Lockstep) : Prop where
  depth_eq :
    ∀ left right, pace.alike left right →
      left.depth = right.depth
  depth :
    ∀ left right depth, pace.alike left right →
      pace.alike { left with depth } { right with depth }
  record :
    ∀ left right entry, pace.alike left right →
      entry.token? = none →
        pace.quotes entry.literal →
          pace.alike (left.record entry) (right.record entry)

namespace Nests

/- Looking at the number of open groups. -/
theorem openGroups
    (h : pace.Nests) :
    pace.InStep (fun _ => True) openGroups openGroups := by
  intro left right hAlike
  rw [run_openGroups, run_openGroups,
    ← h.depth_eq _ _ hAlike]
  exact .answer trivial hAlike

/- Entering a group. -/
theorem enterGroup
    (h : pace.Nests) :
    pace.InStep (fun _ => True) enterGroup enterGroup := by
  intro left right hAlike
  rw [run_enterGroup, run_enterGroup,
    ← h.depth_eq _ _ hAlike]
  exact .answer trivial (h.depth _ _ _ hAlike)

/- Leaving a group. -/
theorem leaveGroup
    (h : pace.Nests) :
    pace.InStep (fun _ => True) leaveGroup leaveGroup := by
  intro left right hAlike
  rw [run_leaveGroup, run_leaveGroup,
    ← h.depth_eq _ _ hAlike]
  exact .answer trivial (h.depth _ _ _ hAlike)

/- Noting a node. -/
theorem note
    (h : pace.Nests)
    (entry : Record)
    (hEntry : entry.token? = none)
    (hQuotes : pace.quotes entry.literal) :
    pace.InStep (fun _ => True) (Parser.record entry)
      (Parser.record entry) :=
  fun _ _ hAlike =>
    .answer trivial (h.record _ _ _ hAlike hEntry hQuotes)

section Loop

variable {operand operand' : Int → Parser Expr}

/- One more operator, if right operands are in step. -/
theorem extend
    (h : pace.Nests)
    (hOperand :
      ∀ minimum,
        pace.InStep (fun _ => True) (operand minimum)
          (operand' minimum))
    (left : Expr) :
    pace.InStep (fun _ => True) (Parser.extend operand left)
      (Parser.extend operand' left) := by
  refine pace.inStep_operator.bind fun token hToken => ?_
  refine (hOperand _).bind fun right _ => ?_
  refine
    (h.note (.operator token.literal) rfl hToken).bind
      fun _ _ => ?_
  exact pace.inStep_pure trivial

/-
  The loop over operators, if right operands are in step.
  Both runs take the same operators, and the first of them
  uses up what is left to read.
-/
theorem climb
    (h : pace.Nests)
    (hOperand :
      ∀ minimum,
        pace.InStep (fun _ => True) (operand minimum)
          (operand' minimum))
    (minimum : Int)
    (node : Expr) :
    pace.InStep (fun _ => True)
      (Parser.climb operand minimum node)
      (Parser.climb operand' minimum node) := by
  intro left right hAlike
  induction hRemaining : left.remaining
    using Nat.strong_induction_on
    generalizing node left right with
  | h remaining ih =>
      have hNext := pace.next_eq _ _ hAlike
      by_cases hLess : minimum < left.next.kind.precedence
      · have hRight :
            minimum < right.next.kind.precedence := by
          rwa [← hNext]
        rw [run_climb_of_lt hLess, run_climb_of_lt hRight,
          run_bind, run_bind]
        have hEnds :=
          h.extend hOperand node left right hAlike
        generalize (Parser.extend operand' node).run right =
          rightEnd at hEnds ⊢
        rcases hRun :
            (Parser.extend operand node).run left with
          ⟨fault | longer, after⟩
        · rw [hRun] at hEnds
          cases hEnds with
          | fault hFailed => exact .fault hFailed
          | refused hRoomier => exact .refused hRoomier
        · rw [hRun] at hEnds
          cases hEnds with
          | answer _ hAfter =>
              refine ih _ ?_ longer after _ hAfter rfl
              rw [← hRemaining]
              exact extend_remaining_lt hRun
      · have hLe := Int.not_lt.mp hLess
        have hRight :
            right.next.kind.precedence ≤ minimum := by
          rwa [← hNext]
        rw [run_climb_of_le hLe, run_climb_of_le hRight]
        exact .answer trivial hAlike

end Loop

/-
  Every call is in step with itself, and with more room too
  where a run may be nested too deeply.  The induction is on
  the room, which every call makes smaller.
-/
theorem calls
    (h : pace.Nests)
    (room extra : Nat)
    (hExtra : extra = 0 ∨ pace.roomier) :
    (∀ minimum,
      pace.InStep (fun _ => True) (expression room minimum)
        (expression (room + extra) minimum)) ∧
      pace.InStep (fun _ => True) (primary room)
        (primary (room + extra)) ∧
      pace.InStep (fun _ => True) (group room)
        (group (room + extra)) := by
  induction room with
  | zero =>
      rcases hExtra with rfl | hRoomier
      · simp only [expression, primary, group]
        exact
          ⟨fun _ => pace.inStep_fail _ _,
            pace.inStep_fail _ _, pace.inStep_fail _ _⟩
      · simp only [expression, primary, group]
        exact
          ⟨fun _ _ _ _ => .refused hRoomier,
            fun _ _ _ => .refused hRoomier,
            fun _ _ _ => .refused hRoomier⟩
  | succ room ih =>
      rcases ih with ⟨ihExpression, ihPrimary, ihGroup⟩
      rw [Nat.add_right_comm]
      refine ⟨?_, ?_, ?_⟩
      · intro minimum
        simp only [expression]
        refine ihPrimary.bind fun left _ => ?_
        exact h.climb ihExpression minimum left
      · simp only [primary]
        refine pace.inStep_current.bind fun token hToken => ?_
        refine ihGroup.ite (InStep.ite ?_ (InStep.ite ?_ ?_))
        · refine pace.inStep_advance.bind fun _ _ => ?_
          refine (ihExpression _).bind fun inner _ => ?_
          refine
            (h.note (.sign token.literal) rfl hToken).bind
              fun _ _ => ?_
          exact pace.inStep_pure trivial
        · exact pace.inStep_ofExcept _
        · refine h.openGroups.bind fun depth _ => ?_
          exact
            (pace.inStep_fail _ _).ite (pace.inStep_fail _ _)
      · simp only [group]
        refine h.enterGroup.bind fun _ _ => ?_
        refine pace.inStep_advance.bind fun _ _ => ?_
        refine (ihExpression 0).bind fun inner _ => ?_
        refine (pace.inStep_expect _).bind fun _ _ => ?_
        refine h.leaveGroup.bind fun _ _ => ?_
        exact pace.inStep_pure trivial

/- A text that is read to its end. -/
theorem wholeText
    (h : pace.Nests)
    (room extra : Nat)
    (hExtra : extra = 0 ∨ pace.roomier) :
    pace.InStep (fun _ => True) (Parser.wholeText room)
      (Parser.wholeText (room + extra)) := by
  refine ((h.calls room extra hExtra).1 0).bind fun node _ => ?_
  refine (pace.inStep_expect _).bind fun _ _ => ?_
  exact pace.inStep_pure trivial

/- A text that is parsed. -/
theorem parse
    (h : pace.Nests)
    (room extra : Nat)
    (hExtra : extra = 0 ∨ pace.roomier) :
    pace.InStep (fun _ => True)
      (do
        start
        Parser.wholeText room)
      (do
        start
        Parser.wholeText (room + extra)) :=
  pace.inStep_start.bind fun _ _ => h.wholeText room extra hExtra

end Nests

------------------------------------------------------------
-- One Run
------------------------------------------------------------

section Alone

variable {invariant fails : State → Prop}
variable {quotes : String → Prop}

/-
  A run in step with itself.  What moving on keeps is an
  invariant, and what a fault leaves may be less than that.
-/
def alone
    (invariant fails : State → Prop)
    (quotes : String → Prop)
    (hToken :
      ∀ state, invariant state → quotes state.token.literal)
    (hFails : ∀ state, invariant state → fails state)
    (hAdvance :
      ∀ state, invariant state →
        Parser.advance.Ends state
          (fun _ => invariant) (fun _ => fails)) :
    Lockstep where
  alike left right := left = right ∧ invariant left
  failed left right := left = right ∧ fails left
  quotes := quotes
  roomier := False
  token_eq _ _ h := congrArg State.token h.1
  next_eq _ _ h := congrArg State.next h.1
  quotes_token _ _ h := hToken _ h.2
  failed_of_alike _ _ h := ⟨h.1, hFails _ h.2⟩
  moves := by
    rintro left right ⟨rfl, hLeft⟩
    have hEnds := hAdvance left hLeft
    rcases hRun : Parser.advance.run left with
      ⟨fault | _, after⟩
    · rw [ends_of_error hRun] at hEnds
      rw [run_advance] at hRun
      rw [hRun]
      exact .fault ⟨rfl, hEnds⟩
    · rw [ends_of_ok hRun] at hEnds
      rw [run_advance] at hRun
      rw [hRun]
      exact .answer trivial ⟨rfl, hEnds⟩

variable
  {hToken :
    ∀ state, invariant state → quotes state.token.literal}
  {hFails : ∀ state, invariant state → fails state}
  {hAdvance :
    ∀ state, invariant state →
      Parser.advance.Ends state
        (fun _ => invariant) (fun _ => fails)}

/-
  An invariant has to be kept when the number of open groups
  is changed and when a node is noted.
-/
theorem nests_alone
    (hDepth :
      ∀ state depth, invariant state →
        invariant { state with depth })
    (hRecord :
      ∀ state entry, invariant state →
        entry.token? = none → quotes entry.literal →
          invariant (state.record entry)) :
    (alone invariant fails quotes hToken hFails
      hAdvance).Nests where
  depth_eq _ _ h := congrArg State.depth h.1
  depth := by
    rintro state _ depth ⟨rfl, hState⟩
    exact ⟨rfl, hDepth state depth hState⟩
  record := by
    rintro state _ entry ⟨rfl, hState⟩ hEntry hQuotes
    exact ⟨rfl, hRecord state entry hState hEntry hQuotes⟩

/- An action in step with itself keeps the invariant. -/
theorem InStep.ends
    {action : Parser α}
    {answers : α → Prop}
    (h :
      (alone invariant fails quotes hToken hFails
        hAdvance).InStep answers action action)
    {state : State}
    (hState : invariant state) :
    action.Ends state
      (fun answer after => answers answer ∧ invariant after)
      (fun _ => fails) := by
  have hEnds := h state state ⟨rfl, hState⟩
  rcases hRun : action.run state with ⟨fault | answer, after⟩
  · rw [ends_of_error hRun]
    rw [hRun] at hEnds
    cases hEnds with
    | fault hFailed => exact hFailed.2
    | refused hRoomier => exact hRoomier.elim
  · rw [ends_of_ok hRun]
    rw [hRun] at hEnds
    cases hEnds with
    | answer hAnswer hAlike => exact ⟨hAnswer, hAlike.2⟩

/- However such an action ends, the invariant is kept. -/
theorem InStep.run
    {action : Parser α}
    {answers : α → Prop}
    {hToken :
      ∀ state, invariant state →
        quotes state.token.literal}
    {hAdvance :
      ∀ state, invariant state →
        Parser.advance.Ends state
          (fun _ => invariant) (fun _ => invariant)}
    (h :
      (alone invariant invariant quotes hToken (fun _ h => h)
        hAdvance).InStep answers action action)
    {state : State}
    (hState : invariant state) :
    invariant (action.run state).2 := by
  have hEnds := h.ends hState
  rcases hRun : action.run state with ⟨fault | answer, after⟩
  · rwa [ends_of_error hRun] at hEnds
  · rw [ends_of_ok hRun] at hEnds
    exact hEnds.2

end Alone

end Lockstep

end Parser

end ArithExpr
