import ArithExpr.Parser.State

/-
  Parser actions: what answers or fails, moves the parser to a
  new state in both cases, and never adds to what is left to
  read.

  Key definitions include:
    * `Parser`
    * `Parser.pure`
    * `Parser.bind`
    * `Parser.fail`
    * `Parser.ofExcept`
    * `Parser.advance`
    * `Parser.pull`

  A run of actions is taken apart by:
    * `Parser.run_pure`
    * `Parser.run_bind`
    * `Parser.bind_remaining_lt`
-/

namespace ArithExpr

------------------------------------------------------------
-- Actions
------------------------------------------------------------

/- An action that never adds to what is left to read. -/
structure Parser (α : Type) where
  run : Parser.State → Except ParseError α × Parser.State
  remaining_le :
    ∀ state, (run state).2.remaining ≤ state.remaining

namespace Parser

variable {α β : Type}

/- Two actions are equal when they run alike. -/
@[ext] theorem ext
    {left right : Parser α}
    (h : ∀ state, left.run state = right.run state) :
    left = right := by
  cases left
  cases right
  have hRun := funext h
  cases hRun
  rfl

/- Answer without doing anything. -/
protected def pure (answer : α) : Parser α where
  run state := (.ok answer, state)
  remaining_le _ := Nat.le_refl _

/- Perform an action, and then one that depends on its answer. -/
protected def bind
    (first : Parser α)
    (second : α → Parser β) : Parser β where
  run state :=
    match first.run state with
    | (.ok answer, after) => (second answer).run after
    | (.error fault, after) => (.error fault, after)
  remaining_le state := by
    have hFirst := first.remaining_le state
    split
    · next answer after hRun =>
        rw [hRun] at hFirst
        exact Nat.le_trans
          ((second answer).remaining_le after) hFirst
    · next hRun =>
        rw [hRun] at hFirst
        exact hFirst

instance : Monad Parser where
  pure := Parser.pure
  bind := Parser.bind

/- Fail without doing anything. -/
def fail (fault : ParseError) : Parser α where
  run state := (.error fault, state)
  remaining_le _ := Nat.le_refl _

/- Answer or fail without doing anything. -/
def ofExcept (outcome : Except ParseError α) : Parser α where
  run state := (outcome, state)
  remaining_le _ := Nat.le_refl _

------------------------------------------------------------
-- Looking at the State
------------------------------------------------------------

/- The token under consideration. -/
def current : Parser Token where
  run state := (.ok state.token, state)
  remaining_le _ := Nat.le_refl _

/- The token after the current one. -/
def lookahead : Parser Token where
  run state := (.ok state.next, state)
  remaining_le _ := Nat.le_refl _

/- The number of groups that have been entered and not left. -/
def openGroups : Parser Nat where
  run state := (.ok state.depth, state)
  remaining_le _ := Nat.le_refl _

------------------------------------------------------------
-- Changing the State
------------------------------------------------------------

/- Enter a group. -/
def enterGroup : Parser Unit where
  run state :=
    (.ok (), { state with depth := state.depth + 1 })
  remaining_le _ := Nat.le_refl _

/- Leave a group. -/
def leaveGroup : Parser Unit where
  run state :=
    (.ok (), { state with depth := state.depth - 1 })
  remaining_le _ := Nat.le_refl _

/- Note a record. -/
def record (entry : Record) : Parser Unit where
  run state := (.ok (), state.record entry)
  remaining_le _ := Nat.le_refl _

/- Move on by one token. -/
def advance : Parser Unit where
  run := State.advance
  remaining_le := State.advance_remaining_le

/- Take a token from the lexer without looking at it. -/
def pull : Parser Token where
  run := State.pull
  remaining_le := State.pull_remaining_le

------------------------------------------------------------
-- Taking Runs Apart
------------------------------------------------------------

/- Answering changes nothing. -/
@[simp] theorem run_pure
    (answer : α)
    (state : State) :
    (pure answer : Parser α).run state =
      (.ok answer, state) :=
  rfl

/- The second action runs where the first one answered. -/
@[simp] theorem run_bind
    (first : Parser α)
    (second : α → Parser β)
    (state : State) :
    (first >>= second).run state =
      match first.run state with
      | (.ok answer, after) => (second answer).run after
      | (.error fault, after) => (.error fault, after) :=
  rfl

/- A choice of actions runs the one that was chosen. -/
@[simp] theorem run_ite
    (condition : Prop)
    [Decidable condition]
    (first second : Parser α)
    (state : State) :
    (if condition then first else second).run state =
      if condition then first.run state
      else second.run state := by
  split <;> rfl

/- Failing changes nothing. -/
@[simp] theorem run_fail
    (fault : ParseError)
    (state : State) :
    (fail fault : Parser α).run state =
      (.error fault, state) :=
  rfl

/- A given outcome changes nothing. -/
@[simp] theorem run_ofExcept
    (outcome : Except ParseError α)
    (state : State) :
    (ofExcept outcome).run state = (outcome, state) :=
  rfl

/- Looking at the current token changes nothing. -/
@[simp] theorem run_current
    (state : State) :
    current.run state = (.ok state.token, state) :=
  rfl

/- Looking at the next token changes nothing. -/
@[simp] theorem run_lookahead
    (state : State) :
    lookahead.run state = (.ok state.next, state) :=
  rfl

/- Looking at the number of open groups changes nothing. -/
@[simp] theorem run_openGroups
    (state : State) :
    openGroups.run state = (.ok state.depth, state) :=
  rfl

/- Entering a group counts it. -/
@[simp] theorem run_enterGroup
    (state : State) :
    enterGroup.run state =
      (.ok (), { state with depth := state.depth + 1 }) :=
  rfl

/- Leaving a group takes it off the count. -/
@[simp] theorem run_leaveGroup
    (state : State) :
    leaveGroup.run state =
      (.ok (), { state with depth := state.depth - 1 }) :=
  rfl

/- Noting a record adds it at the end. -/
@[simp] theorem run_record
    (entry : Record)
    (state : State) :
    (record entry).run state =
      (.ok (), state.record entry) :=
  rfl

/- Moving on is a step of the state. -/
@[simp] theorem run_advance
    (state : State) :
    advance.run state = state.advance :=
  rfl

/- Taking a token from the lexer is a step of the state. -/
@[simp] theorem run_pull
    (state : State) :
    pull.run state = state.pull :=
  rfl

/- Actions in order obey the laws of a monad. -/
instance : LawfulMonad Parser := LawfulMonad.mk' Parser
  (fun action => by
    apply Parser.ext
    intro state
    change (match action.run state with
      | (.ok answer, after) => (.ok answer, after)
      | (.error fault, after) => (.error fault, after)) =
        action.run state
    rcases action.run state with ⟨_ | _, _⟩ <;> rfl)
  (fun _ _ => rfl)
  (fun first second third => by
    apply Parser.ext
    intro state
    simp only [run_bind]
    rcases first.run state with ⟨_ | _, _⟩ <;> rfl)

/-
  A run that uses something up in its first action has used
  something up at its end.
-/
theorem bind_remaining_lt
    {first : Parser α}
    {second : α → Parser β}
    {state : State}
    (h :
      (first.run state).2.remaining < state.remaining) :
    ((first >>= second).run state).2.remaining <
      state.remaining := by
  rw [run_bind]
  rcases hRun : first.run state with ⟨_ | answer, after⟩
  · rw [hRun] at h
    exact h
  · rw [hRun] at h
    exact Nat.lt_of_le_of_lt
      ((second answer).remaining_le after) h

end Parser

end ArithExpr
