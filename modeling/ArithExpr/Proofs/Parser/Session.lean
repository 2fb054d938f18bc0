import ArithExpr.Parser.Session
import ArithExpr.Proofs.Parser.Groups

/-
  Runs of steps on one parser, and the groups they leave open.

  A run goes on after a fault from the state that the fault
  has left behind.  A step that answers leaves the number of
  open groups as it was; a step that fails leaves it raised by
  the groups that were active when the fault was raised, and
  no step ever lowers it.

  Key definitions include:
    * `Parser.reached`
    * `Parser.Step.call?`
    * `Parser.Step.ending`
    * `Parser.Raised`
    * `Parser.LeavesOpen`
    * `Parser.DepthExact`
    * `Parser.DepthInside`

  Main declarations:
    * `Parser.getElem?_replay`
    * `Parser.perform_of_call`
    * `Parser.Raised.depth_eq`
    * `Parser.perform_depth`
    * `Parser.replay_depth`
-/

------------------------------------------------------------
-- Runs of Steps
------------------------------------------------------------

namespace ArithExpr

namespace Parser

/- The state that some steps leave behind. -/
def reached
    (room : Nat)
    (state : State) : List Step → State
| [] => state
| step :: steps =>
    reached room ((perform room step).run state).2 steps

section Replay

variable (room : Nat)
variable (state : State)

/- The state behind some steps is where others start. -/
theorem reached_append
    (front back : List Step) :
    reached room state (front ++ back) =
      reached room (reached room state front) back := by
  induction front generalizing state with
  | nil => rfl
  | cons step front ih => exact ih _

/- A step is answered as from where the others have led. -/
theorem getElem?_replay
    (front : List Step)
    (step : Step)
    (back : List Step) :
    (replay room state
        (front ++ step :: back))[front.length]? =
      some
        ((perform room step).run
          (reached room state front)) := by
  induction front generalizing state with
  | nil => rfl
  | cons first front ih => exact ih _

end Replay

------------------------------------------------------------
-- Steps as Calls
------------------------------------------------------------

/- The call that a step makes, if it makes one. -/
def Step.call?
    (room : Nat)
    (state : State) : Step → Option Call
| .expression minimum =>
    some ⟨.expression minimum, room, state⟩
| .primary => some ⟨.primary, room, state⟩
| .group => some ⟨.group, room, state⟩
| .wholeText => some ⟨.expression 0, room, state⟩
| .advance | .expect _ | .pull => none

/- What a step does behind its call. -/
def Step.ending : Step → Parser Unit
| .wholeText => Parser.expect .endOfText
| _ => pure ()

section Steps

variable {room : Nat}
variable {state : State}
variable {step : Step}

/- A step makes its call in the state that it starts in. -/
theorem Step.state_of_call
    {call : Call}
    (hCall : step.call? room state = some call) :
    call.state = state := by
  cases step <;> cases hCall <;> rfl

/- A step makes its call, and then comes to its end. -/
theorem perform_of_call
    {call : Call}
    (hCall : step.call? room state = some call) :
    perform room step =
      (do
        let node ← call.action
        step.ending
        pure (.expr node)) := by
  cases step with
  | wholeText =>
      cases hCall
      rw [perform, wholeText]
      simp only [bind_assoc, pure_bind]
      rfl
  | expression minimum => cases hCall; rfl
  | primary => cases hCall; rfl
  | group => cases hCall; rfl
  | advance => cases hCall
  | expect kind => cases hCall
  | pull => cases hCall

/- The end of a step neither enters nor leaves a group. -/
theorem Step.keepsDepth_ending
    (step : Step) :
    KeepsDepth step.ending := by
  cases step with
  | wholeText => exact keepsDepth_expect .endOfText
  | _ =>
      intro depth
      exact (atDepth depth).inStep_pure trivial

/- An answer that is handed on keeps the number of groups. -/
theorem KeepsDepth.map
    {α β : Type}
    {action : Parser α}
    (h : KeepsDepth action)
    (reply : α → β) :
    KeepsDepth (do
      let answer ← action
      pure (reply answer)) :=
  fun depth =>
    (h depth).bind fun _ _ =>
      (atDepth depth).inStep_pure trivial

/- A step without a call keeps the number of groups. -/
theorem perform_keepsDepth
    (hCall : step.call? room state = none) :
    KeepsDepth (perform room step) := by
  cases step with
  | advance => exact keepsDepth_advance.map fun _ => Reply.done
  | expect kind =>
      exact (keepsDepth_expect kind).map fun _ => Reply.done
  | pull => exact keepsDepth_pull.map Reply.token
  | expression minimum => cases hCall
  | primary => cases hCall
  | group => cases hCall
  | wholeText => cases hCall

/- A step fails in its call, or at its end behind it. -/
theorem perform_error_cases
    {call : Call}
    {fault : ParseError}
    {after : State}
    (hCall : step.call? room state = some call)
    (hRun :
      (perform room step).run state = (.error fault, after)) :
    call.action.run call.state = (.error fault, after) ∨
      ∃ node last,
        call.action.run call.state = (.ok node, last) ∧
          step.ending.run last = (.error fault, after) := by
  rw [perform_of_call hCall, run_bind,
    ← Step.state_of_call hCall] at hRun
  rcases hAction : call.action.run call.state with
    ⟨found | node, last⟩
  · rw [hAction] at hRun
    cases hRun
    exact .inl rfl
  · rw [hAction] at hRun
    simp only [run_bind] at hRun
    rcases hEnding : step.ending.run last with
      ⟨found | _, final⟩
    · rw [hEnding] at hRun
      cases hRun
      exact .inr ⟨node, last, rfl, hEnding⟩
    · rw [hEnding] at hRun
      cases hRun

end Steps

------------------------------------------------------------
-- Faults of Steps
------------------------------------------------------------

/-
  The calls that are active when a step raises a fault.  There
  are none when the step makes no call, has no room for one,
  or fails behind it.
-/
inductive Raised
    (room : Nat)
    (state : State)
    (step : Step)
    (fault : ParseError)
    (after : State) : List Call → Prop
| inside
    {call : Call}
    {calls : List Call}
    (hCall : step.call? room state = some call)
    (hUnwinds : call.Unwinds calls fault after) :
    Raised room state step fault after calls
| outside
    (hRun :
      (perform room step).run state = (.error fault, after))
    (hCall :
      ∀ call, step.call? room state = some call →
        call.room = 0 ∨
          ∃ node last,
            call.action.run call.state = (.ok node, last)) :
    Raised room state step fault after []

section Raised

variable {room : Nat}
variable {state : State}
variable {step : Step}
variable {fault : ParseError}
variable {after : State}

/- A fault that is raised outside calls leaves the number. -/
theorem depth_of_outside
    (hRun :
      (perform room step).run state = (.error fault, after))
    (hCall :
      ∀ call, step.call? room state = some call →
        call.room = 0 ∨
          ∃ node last,
            call.action.run call.state = (.ok node, last)) :
    after.depth = state.depth := by
  cases hStep : step.call? room state with
  | none => exact (perform_keepsDepth hStep).depth_eq hRun
  | some call =>
      have hState := Step.state_of_call hStep
      rcases perform_error_cases hStep hRun with
        hError | ⟨node, last, hOk, hEnding⟩
      · rcases hCall call hStep with
          hRoom | ⟨node, last, hOk⟩
        · rw [Call.run_of_room_eq_zero hRoom] at hError
          cases hError
          exact congrArg State.depth hState
        · rw [hOk] at hError
          cases hError
      · rw [step.keepsDepth_ending.depth_eq hEnding,
          Call.depth_of_answer hOk, hState]

/- A fault leaves the groups of the calls that were active. -/
theorem Raised.depth_eq
    {calls : List Call}
    (h : Raised room state step fault after calls) :
    after.depth = state.depth + groupsIn calls := by
  cases h with
  | inside hCall hUnwinds =>
      rw [hUnwinds.depth_eq, Step.state_of_call hCall]
  | outside hRun hCall => exact depth_of_outside hRun hCall

/- A step that fails raises its fault among some calls. -/
theorem exists_raised
    (hRun :
      (perform room step).run state = (.error fault, after)) :
    ∃ calls, Raised room state step fault after calls := by
  cases hStep : step.call? room state with
  | none =>
      refine ⟨[], .outside hRun ?_⟩
      intro call hCall
      rw [hStep] at hCall
      cases hCall
  | some call =>
      have hOutside
          (hNone :
            call.room = 0 ∨
              ∃ node last,
                call.action.run call.state =
                  (.ok node, last)) :
          Raised room state step fault after [] := by
        apply Raised.outside hRun
        intro other hOther
        rw [hStep] at hOther
        cases hOther
        exact hNone
      rcases perform_error_cases hStep hRun with
        hError | ⟨node, last, hOk, _⟩
      · rcases Call.exists_unwinds hError with
          hRoom | ⟨calls, hUnwinds⟩
        · exact ⟨[], hOutside (.inl hRoom)⟩
        · exact ⟨calls, .inside hStep hUnwinds⟩
      · exact ⟨[], hOutside (.inr ⟨node, last, hOk⟩)⟩

end Raised

/-
  A step that fails raises its fault among some calls, and the
  number of open groups is raised by the groups among them.
  It is as it was where the step makes no call.
-/
structure LeavesOpen
    (room : Nat)
    (state : State)
    (step : Step)
    (fault : ParseError)
    (after : State) : Prop where
  exists_raised :
    ∃ calls, Raised room state step fault after calls
  depth_eq :
    ∀ calls, Raised room state step fault after calls →
      after.depth = state.depth + groupsIn calls
  depth_eq_of_none :
    step.call? room state = none → after.depth = state.depth

/-
  A step that answers leaves the number of open groups as it
  was, and a step that fails leaves open the groups that were
  active.
-/
theorem perform_depth
    (room : Nat)
    (step : Step)
    (state : State) :
    (perform room step).Ends state
      (fun _ after => after.depth = state.depth)
      (LeavesOpen room state step) := by
  rcases hRun : (perform room step).run state with
    ⟨fault | reply, after⟩
  · rw [ends_of_error hRun]
    refine ⟨exists_raised hRun, ?_, ?_⟩
    · exact fun _ hRaised => hRaised.depth_eq
    · exact fun hNone =>
        (perform_keepsDepth hNone).depth_eq hRun
  · rw [ends_of_ok hRun]
    cases hStep : step.call? room state with
    | none => exact (perform_keepsDepth hStep).depth_eq hRun
    | some call =>
        have hState := Step.state_of_call hStep
        rw [perform_of_call hStep, run_bind, ← hState] at hRun
        rcases hAction : call.action.run call.state with
          ⟨fault | node, last⟩
        · rw [hAction] at hRun
          cases hRun
        · rw [hAction] at hRun
          have hEnding :
              KeepsDepth (do
                step.ending
                pure (Reply.expr node)) :=
            step.keepsDepth_ending.map fun _ => Reply.expr node
          rw [hEnding.depth_eq hRun,
            Call.depth_of_answer hAction, hState]

/- No step lowers the number of open groups. -/
theorem depth_le_perform
    (room : Nat)
    (step : Step)
    (state : State) :
    state.depth ≤ ((perform room step).run state).2.depth := by
  have hEnds := perform_depth room step state
  rcases hRun : (perform room step).run state with
    ⟨fault | reply, after⟩
  · rcases (ends_of_error hRun).mp hEnds with
      ⟨⟨calls, hRaised⟩, _, _⟩
    exact hRaised.depth_eq ▸ Nat.le_add_right _ _
  · exact Nat.le_of_eq ((ends_of_ok hRun).mp hEnds).symm

/- No run lowers the number of open groups. -/
theorem depth_le_reached
    (room : Nat)
    (state : State)
    (steps : List Step) :
    state.depth ≤ (reached room state steps).depth := by
  induction steps generalizing state with
  | nil => exact Nat.le_refl _
  | cons step steps ih =>
      exact
        Nat.le_trans (depth_le_perform room step state) (ih _)

/-
  In a run of steps each step is performed where the ones in
  front of it have led: one that answers leaves the number of
  open groups as it was, and one that fails leaves open the
  groups that were active.  The number is never lowered.
-/
structure DepthExact
    (room : Nat)
    (start : State)
    (steps : List Step) : Prop where
  step_depth :
    ∀ front step back, steps = front ++ step :: back →
      let state := reached room start front
      (replay room start steps)[front.length]? =
          some ((perform room step).run state) ∧
        (perform room step).Ends state
          (fun _ after => after.depth = state.depth)
          (LeavesOpen room state step)
  depth_le :
    ∀ front back, steps = front ++ back →
      (reached room start front).depth ≤
        (reached room start steps).depth

/-
  While a whole text is parsed, the number of open groups is
  that of the groups that are active, each of them entered at
  a parenthesis, and it decides how the end of the text in
  place of an operand is reported.
-/
structure DepthInside
    (limit : Nat)
    (text : String)
    (call : Call)
    (callers : List Call) : Prop where
  depth_eq :
    ∀ state, call.Passes state →
      state.depth = groupsIn (call :: callers)
  located :
    ∃ front, Located text front call.state ∧
      (call.procedure = .group →
        call.state.token.kind = .leftParen)
  end_of_operand :
    call.procedure = .primary →
      0 < call.room →
      call.state.token.kind = .endOfText →
        parseWithin limit text =
          .error
            (if 0 < groupsIn callers then
              .unmatchedParenthesis call.state.token
            else
              .unexpectedToken "an expression"
                call.state.token)

/- Inside active calls the number of open groups is theirs. -/
theorem Active.depthInside
    {limit : Nat}
    {text : String}
    {call : Call}
    {callers : List Call}
    (h : Active limit text (call :: callers)) :
    DepthInside limit text call callers where
  depth_eq _ hPasses := h.depth_of_passes hPasses
  located := h.located
  end_of_operand := by
    rcases call with ⟨procedure, room, state⟩
    rintro rfl hRoom hEnd
    cases room with
    | zero => exact absurd hRoom (Nat.lt_irrefl 0)
    | succ room => exact h.end_of_operand hEnd

/-
  The number of open groups is exact on every path: over any
  run of steps; inside a call, where it is what the call found,
  and one more in a group, so that a group is never taken off
  nothing; and while a whole text is parsed.
-/
theorem replay_depth
    (room : Nat)
    (start : State)
    (steps : List Step) :
    DepthExact room start steps ∧
      (∀ (call : Call) (state : State), call.Passes state →
        state.depth =
          call.state.depth + call.procedure.opens) ∧
      ∀ limit text call callers,
        Active limit text (call :: callers) →
          DepthInside limit text call callers := by
  refine
    ⟨⟨?_, ?_⟩, fun _ _ hPasses => hPasses.depth_eq,
      fun _ _ _ _ hActive => hActive.depthInside⟩
  · rintro front step back rfl state
    exact
      ⟨getElem?_replay room start front step back,
        perform_depth room step state⟩
  · rintro front back rfl
    rw [reached_append]
    exact depth_le_reached room _ back

/-
  A group that is not closed is still counted when a group is
  asked for where no parenthesis stands, and that one is
  counted as well.  Where the text ends in a group, the
  parenthesis is named.
-/
theorem depth_of_groups_left_open :
    let start := (ofText "(1 2").2
    let state := reached 9 start [.expression 0]
    state.depth = 1 ∧
      (∃ fault after calls,
        (perform 9 .group).run state = (.error fault, after) ∧
          Raised 9 state .group fault after calls ∧
          after.depth = 2 ∧
          groupsIn calls = 1) ∧
      parseWithin 9 "(" =
        .error (.unmatchedParenthesis .endOfText) := by
  dsimp only
  have hDepth :
      (reached 9 (ofText "(1 2").2 [.expression 0]).depth =
        1 := by
    decide +kernel
  have hAfter :
      ((perform 9 .group).run
        (reached 9 (ofText "(1 2").2
          [.expression 0])).2.depth = 2 := by
    decide +kernel
  refine ⟨hDepth, ?_, ?_⟩
  · have hEnds :=
      (replay_depth 9 (ofText "(1 2").2
        [.expression 0, .group]).1.step_depth
        [.expression 0] .group [] rfl
    generalize reached 9 (ofText "(1 2").2 [.expression 0] =
      state at *
    rcases hRun : (perform 9 .group).run state with
      ⟨fault | reply, after⟩
    · rw [hRun] at hAfter
      rcases (ends_of_error hRun).mp hEnds.2 with
        ⟨⟨calls, hRaised⟩, hGroups, _⟩
      have hCalls := hGroups calls hRaised
      rw [hAfter, hDepth] at hCalls
      exact
        ⟨fault, after, calls, rfl, hRaised, hAfter,
          (Nat.add_left_cancel hCalls).symm⟩
    · rw [hRun] at hAfter
      have hKept := (ends_of_ok hRun).mp hEnds.2
      rw [hAfter, hDepth] at hKept
      cases hKept
  · let first := (ofText "(").2
    let inside := State.advance { first with depth := 1 }
    have hActive :
        Active 9 "("
          [⟨.primary, 4, inside.2⟩,
            ⟨.expression 0, 5, inside.2⟩,
            ⟨.group, 6, first⟩,
            ⟨.primary, 7, first⟩,
            ⟨.expression 0, 8, first⟩] := by
      refine .next (.next (.next (.next (.first ?_) .operand)
        (.parenthesis ?_)) (.inside ?_)) .operand
      · rfl
      · decide +kernel
      · rfl
    exact
      ((replay_depth 9 first []).2.2 9 "(" _ _
        hActive).end_of_operand rfl (by decide)
          (by decide +kernel)

end Parser

end ArithExpr
