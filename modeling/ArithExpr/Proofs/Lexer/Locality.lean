import ArithExpr.Lexer.Session
import ArithExpr.Proofs.Lexer.Tiling

/-
  A lexer sees only what lies behind its position.

  Every step reads the characters that are left and moves on
  over some of them.  So a lexer that is set into the middle
  of a text answers as a new one does on the rest of the text,
  with its position always the same distance ahead.  Only the
  reading of a number, where no character is left, moves on
  beyond the end.

  Key definitions include:
    * `Lexer.Step.Reads`
    * `Lexer.reached`
    * `Lexer.Overruns`
    * `Lexer.Shifted`

  Main declarations:
    * `Lexer.Shifted.perform`
    * `Lexer.Shifted.replay`
    * `Lexer.exists_perform_eq_advance`
    * `Lexer.replay_shifted`
-/

------------------------------------------------------------
-- Runs of Steps
------------------------------------------------------------

namespace ArithExpr

namespace Lexer

/- A step that reads, and does not set the position. -/
def Step.Reads : Step → Prop
| .next | .readNumber | .peek | .skipBlanks => True
| .seek _ => False

instance (step : Step) : Decidable step.Reads := by
  cases step <;> unfold Step.Reads <;> infer_instance

/- The lexer that some steps leave behind. -/
def reached (lexer : Lexer) : List Step → Lexer
| [] => lexer
| step :: steps => (lexer.perform step).2.reached steps

/- A number is read where no character is left. -/
def Overruns
    (lexer : Lexer)
    (step : Step) : Prop :=
  step = .readNumber ∧ lexer.text.length ≤ lexer.index

/- The steps behind others start where these have led. -/
theorem replay_append
    (lexer : Lexer)
    (front back : List Step) :
    lexer.replay (front ++ back) =
      lexer.replay front ++
        (lexer.reached front).replay back := by
  induction front generalizing lexer with
  | nil => rfl
  | cons step front ih =>
      exact congrArg (lexer.perform step :: ·) (ih _)

/- Every step is answered once. -/
@[simp] theorem length_replay
    (lexer : Lexer)
    (steps : List Step) :
    (lexer.replay steps).length = steps.length := by
  induction steps generalizing lexer with
  | nil => rfl
  | cons step steps ih => exact congrArg (· + 1) (ih _)

/- A step is answered as from where the others have led. -/
theorem getElem?_replay
    (lexer : Lexer)
    (front : List Step)
    (step : Step)
    (back : List Step) :
    (lexer.replay (front ++ step :: back))[front.length]? =
      some ((lexer.reached front).perform step) := by
  rw [replay_append,
    List.getElem?_append_right (by simp), length_replay,
    Nat.sub_self]
  rfl

------------------------------------------------------------
-- The Same Characters Ahead
------------------------------------------------------------

/-
  Two lexers have the same characters left, and the first one
  is a number of characters ahead of the second one.
-/
structure Shifted
    (offset : Nat)
    (left right : Lexer) : Prop where
  rest_eq : left.rest = right.rest
  index_eq : left.index = offset + right.index

namespace Shifted

variable {offset : Nat}
variable {left right : Lexer}

/- Both may move on by the same number of characters. -/
theorem advance
    (h : Shifted offset left right)
    (count : Nat) :
    Shifted offset (left.advance count)
      (right.advance count) where
  rest_eq := congrArg (List.drop count) h.rest_eq
  index_eq := by
    change left.index + count = offset + (right.index + count)
    rw [h.index_eq, Nat.add_assoc]

/- Both skip the same blanks. -/
theorem skipBlanks
    (h : Shifted offset left right) :
    Shifted offset left.skipBlanks right.skipBlanks := by
  unfold Lexer.skipBlanks
  rw [h.rest_eq]
  exact h.advance _

/- Both see the same character. -/
theorem peek?_eq
    (h : Shifted offset left right) :
    left.peek? = right.peek? :=
  congrArg List.head? h.rest_eq

/- Both read the same number, or the same fault. -/
theorem readNumber
    (h : Shifted offset left right) :
    left.readNumber.1 = right.readNumber.1 ∧
      Shifted offset left.readNumber.2
        right.readNumber.2 := by
  have hTail : left.numberTail = right.numberTail := by
    unfold numberTail
    rw [h.rest_eq]
  unfold Lexer.readNumber
  rw [h.rest_eq, hTail]
  exact ⟨rfl, h.advance _⟩

/- Both read the same token where no blank is left to skip. -/
theorem readToken
    (h : Shifted offset left right) :
    left.readToken.1 = right.readToken.1 ∧
      Shifted offset left.readToken.2 right.readToken.2 := by
  unfold Lexer.readToken
  rw [h.peek?_eq]
  cases right.peek? with
  | none => exact ⟨rfl, h⟩
  | some c =>
      dsimp only
      cases Token.ofOperator? c with
      | none => exact h.readNumber
      | some token => exact ⟨rfl, h.advance 1⟩

/- Both answer a step that reads alike, and stay as far apart. -/
theorem perform
    (h : Shifted offset left right)
    {step : Step}
    (hReads : step.Reads) :
    (left.perform step).1 = (right.perform step).1 ∧
      Shifted offset (left.perform step).2
        (right.perform step).2 := by
  cases step with
  | next =>
      rcases h.skipBlanks.readToken with ⟨hAnswer, hAfter⟩
      exact
        ⟨congrArg (Except.map Reply.token) hAnswer, hAfter⟩
  | readNumber =>
      rcases h.readNumber with ⟨hAnswer, hAfter⟩
      exact
        ⟨congrArg (Except.map Reply.token) hAnswer, hAfter⟩
  | peek =>
      exact
        ⟨congrArg (Except.ok ∘ Reply.character) h.peek?_eq,
          h⟩
  | skipBlanks => exact ⟨rfl, h.skipBlanks⟩
  | seek index => exact hReads.elim

/- Both answer all steps that read alike. -/
theorem replay
    (h : Shifted offset left right)
    {steps : List Step}
    (hReads : ∀ step ∈ steps, step.Reads) :
    ((left.replay steps).map fun answer =>
        (answer.1, answer.2.index)) =
      (right.replay steps).map fun answer =>
        (answer.1, offset + answer.2.index) := by
  induction steps generalizing left right with
  | nil => rfl
  | cons step steps ih =>
      rcases List.forall_mem_cons.mp hReads with
        ⟨hStep, hSteps⟩
      rcases h.perform hStep with ⟨hAnswer, hAfter⟩
      exact
        congrArg₂ List.cons
          (Prod.ext hAnswer hAfter.index_eq)
          (ih hAfter hSteps)

end Shifted

------------------------------------------------------------
-- Positions
------------------------------------------------------------

/-
  A step that reads moves on, and over characters that are
  left unless it is a number that is read where there are
  none.
-/
theorem exists_perform_eq_advance
    (lexer : Lexer)
    {step : Step}
    (hReads : step.Reads) :
    ∃ count,
      (lexer.perform step).2 = lexer.advance count ∧
        (¬ lexer.Overruns step →
          count ≤ lexer.rest.length) := by
  cases step with
  | next =>
      rcases lexer.exists_next_eq_advance with
        ⟨count, hCount, hNext⟩
      exact ⟨count, hNext, fun _ => hCount⟩
  | readNumber =>
      refine ⟨1 + lexer.numberTail.length, rfl, ?_⟩
      intro hInside
      have hLess : lexer.index < lexer.text.length :=
        Nat.lt_of_not_le fun hEnd => hInside ⟨rfl, hEnd⟩
      have hRest :
          lexer.rest.length =
            lexer.text.length - lexer.index := by
        rw [lexer.rest_eq, List.length_drop]
      have hTail :=
        (List.takeWhile_sublist
          (fun c => decide (IsNumberPart c))
          (l := lexer.rest.drop 1)).length_le
      rw [List.length_drop] at hTail
      unfold numberTail
      omega
  | peek => exact ⟨0, rfl, fun _ => Nat.zero_le _⟩
  | skipBlanks =>
      exact
        ⟨_, rfl, fun _ =>
          (List.takeWhile_sublist _).length_le⟩
  | seek index => exact hReads.elim

/- No step that reads moves back or changes the text. -/
theorem index_le_perform
    (lexer : Lexer)
    {step : Step}
    (hReads : step.Reads) :
    (lexer.perform step).2.text = lexer.text ∧
      lexer.index ≤ (lexer.perform step).2.index := by
  rcases lexer.exists_perform_eq_advance hReads with
    ⟨count, hAfter, _⟩
  rw [hAfter]
  exact ⟨rfl, Nat.le_add_right _ _⟩

/-
  A step that reads does not move on beyond the end, unless
  the lexer is there already or the step overruns it.
-/
theorem perform_index_le
    {lexer : Lexer}
    {step : Step}
    (hReads : step.Reads)
    (hInside : ¬ lexer.Overruns step) :
    (lexer.perform step).2.index ≤
      max lexer.index lexer.text.length := by
  rcases lexer.exists_perform_eq_advance hReads with
    ⟨count, hAfter, hCount⟩
  have hLeft := hCount hInside
  rw [lexer.rest_eq, List.length_drop] at hLeft
  rw [hAfter]
  change lexer.index + count ≤ _
  omega

/- Steps that read leave the text as it is. -/
theorem reached_text
    (lexer : Lexer)
    {steps : List Step}
    (hReads : ∀ step ∈ steps, step.Reads) :
    (lexer.reached steps).text = lexer.text := by
  induction steps generalizing lexer with
  | nil => rfl
  | cons step steps ih =>
      rcases List.forall_mem_cons.mp hReads with
        ⟨hStep, hSteps⟩
      exact
        (ih _ hSteps).trans (lexer.index_le_perform hStep).1

/-
  Steps of which none overruns the end lead no further than
  the end or the first position, whichever comes last.
-/
theorem reached_index_le
    {lexer : Lexer}
    {steps : List Step}
    (hReads : ∀ step ∈ steps, step.Reads)
    (hInside :
      ∀ front step back, steps = front ++ step :: back →
        ¬ (lexer.reached front).Overruns step) :
    (lexer.reached steps).index ≤
      max lexer.index lexer.text.length := by
  induction steps generalizing lexer with
  | nil => exact Nat.le_max_left _ _
  | cons step steps ih =>
      rcases List.forall_mem_cons.mp hReads with
        ⟨hStep, hSteps⟩
      have hFirst :=
        perform_index_le hStep (hInside [] step steps rfl)
      have hOthers := @ih (lexer.perform step).2 hSteps (by
        rintro front other back rfl
        exact hInside (step :: front) other back rfl)
      rw [(lexer.index_le_perform hStep).1] at hOthers
      exact
        Nat.le_trans hOthers
          (Nat.max_le.mpr ⟨hFirst, Nat.le_max_right _ _⟩)

------------------------------------------------------------
-- Rests of Texts
------------------------------------------------------------

/- A position in a text is the start of what lies behind it. -/
theorem shifted_seek
    (text : String)
    (start : Nat) :
    Shifted start ((ofText text).seek start)
      (ofText
        (String.ofList (text.toList.drop start))) where
  rest_eq := String.toList_ofList.symm
  index_eq := rfl

/-
  Lexing is local.  From any position of a text, one beyond
  the end included, all steps that read are answered as on the
  text behind the position, with all positions the same
  distance ahead.  No step moves back, and none moves on
  beyond the end, unless a number is read where no character
  is left.
-/
theorem replay_shifted
    (text : String)
    (start : Nat)
    (steps : List Step)
    (hReads : ∀ step ∈ steps, step.Reads) :
    let inside := (ofText text).seek start
    let fresh :=
      ofText (String.ofList (text.toList.drop start))
    ((inside.replay steps).map fun answer =>
        (answer.1, answer.2.index)) =
      ((fresh.replay steps).map fun answer =>
        (answer.1, start + answer.2.index)) ∧
      (∀ front step back, steps = front ++ step :: back →
        let here := inside.reached front
        let answer := here.perform step
        (inside.replay steps)[front.length]? = some answer ∧
          here.index ≤ answer.2.index ∧
          (¬ here.Overruns step →
            answer.2.index ≤
              max here.index text.length)) ∧
      ((∀ front step back, steps = front ++ step :: back →
          ¬ (inside.reached front).Overruns step) →
        (inside.reached steps).index ≤
          max start text.length) := by
  intro inside fresh
  have hLength : inside.text.length = text.length :=
    String.length_toList
  refine ⟨(shifted_seek text start).replay hReads, ?_, ?_⟩
  · rintro front step back rfl here answer
    rcases List.forall_mem_append.mp hReads with
      ⟨hFront, hBack⟩
    have hStep := (List.forall_mem_cons.mp hBack).1
    have hHere : here.text.length = text.length := by
      rw [inside.reached_text hFront, hLength]
    refine
      ⟨inside.getElem?_replay front step back,
        (here.index_le_perform hStep).2, ?_⟩
    intro hInside
    rw [← hHere]
    exact perform_index_le hStep hInside
  · intro hInside
    rw [← hLength]
    exact reached_index_le hReads hInside

/-
  From the second character on, an operator is read as a
  number and is a fault, and so is the nothing behind the
  last character, which is moved over all the same.
-/
theorem replay_behind_first_digit :
    let steps : List Step :=
      [.peek, .readNumber, .next, .readNumber, .next]
    (∀ step ∈ steps, step.Reads) ∧
      (((ofText "1+2").seek 1).replay steps).map
          (fun answer => (answer.1, answer.2.index)) =
        [(.ok (.character '+'), 1),
          (.error (.invalidNumber "+2" .number), 3),
          (.ok (.token .endOfText), 3),
          (.error (.invalidNumber "" .number), 4),
          (.ok (.token .endOfText), 4)] := by
  intro steps
  have hReads : ∀ step ∈ steps, step.Reads := by decide
  refine ⟨hReads, ?_⟩
  rw [(replay_shifted "1+2" 1 steps hReads).1]
  decide +kernel

end Lexer

end ArithExpr
