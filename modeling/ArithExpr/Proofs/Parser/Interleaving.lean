import ArithExpr.Proofs.Lexer.Tiling
import ArithExpr.Proofs.Parser.Notes
import ArithExpr.Proofs.Parser.Session
import ArithExpr.Proofs.Parser.Windows

/-
  Two readers of one stream.

  The parser and whoever takes tokens from its lexer share one
  position.  Every request of either of them is answered with
  the next outcome of the stream, a fault included, so that
  together they lose nothing and get nothing twice.  The two
  tokens of the parser are told by its own requests: the next
  token is the latest that it was given, and the current one
  is what was next before its latest request.

  Key definitions include:
    * `Parser.Request`
    * `Parser.Window.hearing`
    * `Parser.requests`
    * `Parser.Hears`
    * `Parser.requestsOf`
    * `Parser.Expects`
    * `Parser.Follows`

  Main declarations:
    * `Parser.Lockstep.Nests.perform`
    * `Parser.Window.next_hearing`
    * `Parser.Window.token_hearing`
    * `Parser.Hears.trans`
    * `Parser.perform_hears`
    * `Parser.reached_hears`
    * `Parser.requests_follow_stream`
-/

------------------------------------------------------------
-- Requests
------------------------------------------------------------

namespace ArithExpr

namespace Parser

/-
  A request for a token: whether the parser makes it for its
  window, and what the lexer answers.
-/
structure Request where
  byParser : Bool
  outcome : Except ParseError Token

namespace Request

/- The token that the parser is given for its window. -/
def received? : Request → Option Token
| ⟨true, .ok token⟩ => some token
| ⟨true, .error _⟩ | ⟨false, _⟩ => none

/- The token that is noted, whoever is given it. -/
def noted? (request : Request) : Option Token :=
  match request.outcome with
  | .ok token =>
      if token.kind = .endOfText then none else some token
  | .error _ => none

/- A token that was taken directly is not for the window. -/
theorem received?_of_direct
    {request : Request}
    (h : request.byParser = false) :
    request.received? = none := by
  rcases request with ⟨byParser, outcome⟩
  cases h
  rfl

/- A fault is no token. -/
theorem received?_of_error
    {request : Request}
    {fault : ParseError}
    (h : request.outcome = .error fault) :
    request.received? = none := by
  rcases request with ⟨byParser, outcome⟩
  cases h
  cases byParser <;> rfl

/-
  A fault and direct requests behind it give the parser no
  token.
-/
theorem received_of_error
    {front back : List Request}
    {latest : Request}
    {fault : ParseError}
    (hLatest : latest.outcome = .error fault)
    (hBack :
      ∀ request ∈ back, request.byParser = false) :
    (front ++ latest :: back).filterMap received? =
      front.filterMap received? := by
  have hNone : back.filterMap received? = [] := by
    apply List.filterMap_eq_nil_iff.mpr
    intro request hMem
    exact received?_of_direct (hBack request hMem)
  rw [List.filterMap_append,
    List.filterMap_cons_none (received?_of_error hLatest),
    hNone, List.append_nil]

end Request

end Parser

------------------------------------------------------------
-- Answers
------------------------------------------------------------

namespace Lexer

/- Calls come one number after the other. -/
theorem after_add
    (lexer : Lexer)
    (first second : Nat) :
    lexer.after (first + second) =
      (lexer.after first).after second := by
  induction second with
  | zero => rfl
  | succ second ih =>
      rw [← Nat.add_assoc, after, ih]
      rfl

/- What is answered after some calls, from there on. -/
theorem outcome_add
    (lexer : Lexer)
    (first second : Nat) :
    lexer.outcome (first + second) =
      (lexer.after first).outcome second := by
  unfold outcome
  rw [after_add]

/-
  Requests are answered by a lexer when their outcomes are the
  first that it has, each of them once and in order.
-/
def Answers
    (lexer : Lexer)
    (requests : List Parser.Request) : Prop :=
  requests.map Parser.Request.outcome =
    (List.range requests.length).map lexer.outcome

/- Requests are answered from where others have led. -/
theorem answers_append
    {lexer : Lexer}
    {front back : List Parser.Request} :
    lexer.Answers (front ++ back) ↔
      lexer.Answers front ∧
        (lexer.after front.length).Answers back := by
  have hOutcomes :
      (lexer.outcome ∘ fun call => front.length + call) =
        (lexer.after front.length).outcome := by
    funext call
    exact lexer.outcome_add front.length call
  unfold Answers
  rw [List.map_append, List.length_append, List.range_add,
    List.map_append, List.map_map, hOutcomes]
  constructor
  · intro hSame
    exact List.append_inj hSame (by simp)
  · rintro ⟨hFront, hBack⟩
    rw [hFront, hBack]

/- The first request is answered before the others. -/
theorem answers_cons
    {lexer : Lexer}
    {request : Parser.Request}
    {requests : List Parser.Request} :
    lexer.Answers (request :: requests) ↔
      request.outcome = lexer.next.1 ∧
        lexer.next.2.Answers requests := by
  have hFirst :
      lexer.Answers [request] ↔
        request.outcome = lexer.next.1 := by
    simp [Answers, outcome, after]
  rw [← List.singleton_append, answers_append, hFirst]
  rfl

end Lexer

------------------------------------------------------------
-- Windows along Requests
------------------------------------------------------------

namespace Parser

namespace Window

/-
  A request moves the window on if the parser makes it, and
  only takes the lexer with it otherwise.
-/
def heard
    (window : Window)
    (request : Request) : Window :=
  if request.byParser then
    window.advanced
  else
    { window with lexer := window.lexer.next.2 }

/- The window that requests lead to. -/
def hearing
    (window : Window)
    (requests : List Request) : Window :=
  requests.foldl heard window

/- Requests lead on from where others have led. -/
theorem hearing_append
    (window : Window)
    (front back : List Request) :
    window.hearing (front ++ back) =
      (window.hearing front).hearing back :=
  List.foldl_append

/- A move makes the next token the current one. -/
theorem advanced_token
    (window : Window) :
    window.advanced.token = window.next := by
  unfold advanced
  split <;> rfl

/- A request takes the lexer behind one more call. -/
theorem heard_lexer
    (window : Window)
    (request : Request) :
    (window.heard request).lexer = window.lexer.next.2 := by
  unfold heard advanced
  split
  · split
    · next hNext =>
        rw [hNext]
        rfl
    · next hNext => rw [hNext]
  · rfl

/- A request gives the window its token if it gets one. -/
theorem heard_next
    {window : Window}
    {request : Request}
    (hOutcome : request.outcome = window.lexer.next.1) :
    (window.heard request).next =
      request.received?.getD window.next := by
  rcases request with ⟨byParser, outcome⟩
  unfold heard advanced
  cases byParser with
  | false => rfl
  | true =>
      rcases hNext : window.lexer.next with
        ⟨fault | token, lexer⟩
      · rw [hNext] at hOutcome
        cases hOutcome
        rfl
      · rw [hNext] at hOutcome
        cases hOutcome
        rfl

/- Requests take the lexer behind as many calls. -/
theorem hearing_lexer
    (window : Window)
    (requests : List Request) :
    (window.hearing requests).lexer =
      window.lexer.after requests.length := by
  induction requests generalizing window with
  | nil => rfl
  | cons request requests ih =>
      rw [List.length_cons, Lexer.after_succ,
        ← window.heard_lexer request]
      exact ih _

/-
  The next token is the latest that the parser was given, or
  the one that it had.
-/
theorem next_hearing
    {window : Window}
    {requests : List Request}
    (h : window.lexer.Answers requests) :
    (window.hearing requests).next =
      (requests.filterMap
        Request.received?).getLast?.getD window.next := by
  induction requests generalizing window with
  | nil => rfl
  | cons request requests ih =>
      rcases Lexer.answers_cons.mp h with
        ⟨hOutcome, hAnswers⟩
      rw [← window.heard_lexer request] at hAnswers
      have hNext := heard_next hOutcome
      rw [List.filterMap_cons]
      change ((window.heard request).hearing requests).next =
        _
      rw [ih hAnswers, hNext]
      cases request.received? with
      | none => rfl
      | some token =>
          rw [List.getLast?_cons]
          rfl

/- The next token is the latest that the parser was given. -/
theorem getLast?_received
    {window : Window}
    {requests : List Request}
    (hAnswers : window.lexer.Answers requests)
    (hReceived :
      ∃ request ∈ requests, request.received?.isSome) :
    (requests.filterMap Request.received?).getLast? =
      some (window.hearing requests).next := by
  rw [next_hearing hAnswers]
  rcases hReceived with ⟨request, hMem, hSome⟩
  rcases Option.isSome_iff_exists.mp hSome with
    ⟨token, hToken⟩
  have hTokens :
      token ∈ requests.filterMap Request.received? :=
    List.mem_filterMap.mpr ⟨request, hMem, hToken⟩
  rw [List.getLast?_eq_some_getLast
    (List.ne_nil_of_mem hTokens)]
  rfl

/-
  The current token is what was next before the latest request
  of the parser, if it has made one.
-/
theorem token_hearing
    (window : Window)
    {requests : List Request}
    (h : ∃ request ∈ requests, request.byParser = true) :
    ∃ front latest back,
      requests = front ++ latest :: back ∧
        latest.byParser = true ∧
        (∀ request ∈ back, request.byParser = false) ∧
        (window.hearing requests).token =
          (window.hearing front).next := by
  induction requests using List.reverseRecOn with
  | nil => simp at h
  | append_singleton front latest ih =>
      rw [hearing_append]
      change ∃ _ _ _, _ ∧ _ ∧ _ ∧
        ((window.hearing front).heard latest).token = _
      unfold heard
      cases hLatest : latest.byParser with
      | true =>
          refine ⟨front, latest, [], rfl, hLatest, nofun, ?_⟩
          exact advanced_token _
      | false =>
          rcases ih (by simpa [hLatest] using h) with
            ⟨front, earlier, back, rfl, hEarlier, hBack,
              hToken⟩
          refine
            ⟨front, earlier, back ++ [latest], by simp,
              hEarlier, ?_, hToken⟩
          simpa [or_imp, forall_and, hLatest] using hBack

/-
  Behind two tokens that the parser was given, the current one
  is the latest that it had before its latest request.  It is
  the next one as well if that request met a fault.
-/
theorem exists_latest
    {window : Window}
    {requests others : List Request}
    {token second : Token}
    (hAnswers : window.lexer.Answers requests)
    (hStart :
      requests =
        ⟨true, .ok token⟩ :: ⟨true, .ok second⟩ :: others) :
    ∃ front latest back,
      requests = front ++ latest :: back ∧
        latest.byParser = true ∧
        (∀ request ∈ back, request.byParser = false) ∧
        (window.hearing requests).token =
          (window.hearing front).next ∧
        (front.filterMap Request.received?).getLast? =
          some (window.hearing requests).token ∧
        ∀ fault, latest.outcome = .error fault →
          (window.hearing requests).token =
            (window.hearing requests).next := by
  have hMem :
      (⟨true, .ok token⟩ : Request) ∈ requests := by
    rw [hStart]
    exact List.mem_cons_self
  rcases window.token_hearing ⟨_, hMem, rfl⟩ with
    ⟨front, latest, back, rfl, hLatest, hBack, hToken⟩
  -- the second request is not direct, so the first is in front
  have hFirst :
      ∃ request ∈ front, request.received?.isSome := by
    cases front with
    | nil =>
        cases hStart
        cases hBack _ List.mem_cons_self
    | cons request front =>
        rcases List.cons.inj hStart with ⟨rfl, _⟩
        exact ⟨_, List.mem_cons_self, rfl⟩
  have hFront := (Lexer.answers_append.mp hAnswers).1
  have hReceived := getLast?_received hFront hFirst
  rw [← hToken] at hReceived
  refine
    ⟨front, latest, back, rfl, hLatest, hBack, hToken,
      hReceived, ?_⟩
  intro fault hFault
  have hNext := getLast?_received hAnswers ⟨_, hMem, rfl⟩
  rw [Request.received_of_error hFault hBack,
    hReceived] at hNext
  exact Option.some.inj hNext

end Window

------------------------------------------------------------
-- Actions That Ask
------------------------------------------------------------

/- The first requests that are made from a state. -/
def State.requests
    (byParser : Bool)
    (state : State)
    (asked : Nat) : List Request :=
  (List.range asked).map fun call =>
    ⟨byParser, state.lexer.outcome call⟩

section Requests

variable (byParser : Bool)
variable (state : State)

/- As many requests are made as are asked for. -/
@[simp] theorem State.length_requests
    (asked : Nat) :
    (state.requests byParser asked).length = asked := by
  simp [requests]

/- Requests come one number after the other. -/
theorem State.requests_add
    {after : State}
    {first : Nat}
    (hLexer : after.lexer = state.lexer.after first)
    (second : Nat) :
    state.requests byParser (first + second) =
      state.requests byParser first ++
        after.requests byParser second := by
  unfold requests
  rw [List.range_add, List.map_append, List.map_map, hLexer]
  simp only [Function.comp_def, Lexer.outcome_add]

end Requests

/-
  What an action asks its lexer for, as many tokens as are
  counted while it runs.
-/
def requests
    {α : Type}
    (action : Parser α)
    (byParser : Bool)
    (state : State) : List Request :=
  state.requests byParser (action.asks state)

/- Steps of a parser keep runs in step, direct requests apart. -/
theorem Lockstep.Nests.perform
    {pace : Lockstep}
    (h : pace.Nests)
    (room : Nat)
    {step : Step}
    (hStep : step ≠ .pull) :
    pace.InStep (fun _ => True) (perform room step)
      (perform room step) := by
  rcases h.calls room 0 (.inl rfl) with
    ⟨hExpression, hPrimary, hGroup⟩
  have hReply {α : Type} (reply : α → Reply) (answer : α) :
      True →
        pace.InStep (fun _ => True)
          (pure (reply answer) : Parser Reply)
          (pure (reply answer)) :=
    fun _ => pace.inStep_pure trivial
  cases step with
  | advance => exact pace.inStep_advance.bind (hReply _)
  | expect kind =>
      exact (pace.inStep_expect kind).bind (hReply _)
  | expression minimum =>
      exact (hExpression minimum).bind (hReply _)
  | primary => exact hPrimary.bind (hReply _)
  | group => exact hGroup.bind (hReply _)
  | wholeText =>
      exact (h.wholeText room 0 (.inl rfl)).bind (hReply _)
  | pull => exact absurd rfl hStep

------------------------------------------------------------
-- States along Requests
------------------------------------------------------------

/- Moving on notes what taking a token directly notes. -/
theorem State.advance_log
    (state : State) :
    state.advance.2.log =
      ({ state with token := state.next }).pull.2.log := by
  unfold advance
  split <;> next hPull => rw [hPull]

/-
  Requests lead from one state to another when they are
  answered in turn, move the window as they say, and leave
  notes of just the tokens that were given.
-/
structure Hears
    (before : State)
    (requests : List Request)
    (after : State) : Prop where
  answers : before.lexer.Answers requests
  window_eq : after.window = before.window.hearing requests
  noted_eq :
    Record.tokensIn after.log.toList =
      Record.tokensIn before.log.toList ++
        requests.filterMap Request.noted?

namespace Hears

variable {before after : State}
variable {requests : List Request}

/- No request leads nowhere. -/
theorem refl
    (state : State) :
    Hears state [] state :=
  ⟨rfl, rfl, (List.append_nil _).symm⟩

/- The lexer is as many calls further. -/
theorem lexer_eq
    (h : Hears before requests after) :
    after.lexer = before.lexer.after requests.length := by
  have hWindow := congrArg Window.lexer h.window_eq
  rw [Window.hearing_lexer] at hWindow
  exact hWindow

/- The current token is the one that the requests lead to. -/
theorem token_eq
    (h : Hears before requests after) :
    after.token = (before.window.hearing requests).token :=
  congrArg Window.token h.window_eq

/- The next token is the one that the requests lead to. -/
theorem next_eq
    (h : Hears before requests after) :
    after.next = (before.window.hearing requests).next :=
  congrArg Window.next h.window_eq

/- Requests lead on from where others have led. -/
theorem trans
    {middle : State}
    {front back : List Request}
    (hFront : Hears before front middle)
    (hBack : Hears middle back after) :
    Hears before (front ++ back) after := by
  refine ⟨?_, ?_, ?_⟩
  · rw [Lexer.answers_append, ← hFront.lexer_eq]
    exact ⟨hFront.answers, hBack.answers⟩
  · rw [hBack.window_eq, hFront.window_eq,
      Window.hearing_append]
  · rw [hBack.noted_eq, hFront.noted_eq,
      List.filterMap_append, List.append_assoc]

/- The number of open groups is not told by requests. -/
theorem depth
    (h : Hears before requests after)
    (depth : Nat) :
    Hears before requests { after with depth } :=
  ⟨h.answers, h.window_eq, h.noted_eq⟩

/- Neither are the notes of signs and operators. -/
theorem record
    (h : Hears before requests after)
    {entry : Record}
    (hEntry : entry.token? = none) :
    Hears before requests (after.record entry) := by
  refine ⟨h.answers, h.window_eq, ?_⟩
  rw [← h.noted_eq]
  simp [State.record, Record.tokensIn, hEntry]

/- Taking a token directly is one direct request. -/
theorem pull
    (state : State) :
    Hears state [⟨false, state.lexer.next.1⟩]
      state.pull.2 := by
  refine ⟨Lexer.answers_cons.mpr ⟨rfl, rfl⟩, ?_, ?_⟩
  · unfold State.window
    rw [state.pull_lexer, state.pull_token, state.pull_next]
    rfl
  · unfold State.pull State.recordToken
    rcases state.lexer.next with ⟨fault | token, lexer⟩
    · simp [Request.noted?, State.asking]
    · by_cases hEnd : token.kind = .endOfText <;>
        simp [Request.noted?, hEnd, State.record,
          State.asking, Record.tokensIn, Record.token?]

/- Moving on is one request of the parser. -/
theorem advance
    (state : State) :
    Hears state [⟨true, state.lexer.next.1⟩]
      state.advance.2 := by
  have hPull := pull { state with token := state.next }
  refine
    ⟨Lexer.answers_cons.mpr ⟨rfl, rfl⟩,
      state.advance_window, ?_⟩
  rw [state.advance_log]
  exact hPull.noted_eq

end Hears

------------------------------------------------------------
-- Runs of Two Readers
------------------------------------------------------------

/-
  The parser alone has asked for tokens, as many as have been
  counted.
-/
def Asked (before after : State) : Prop :=
  ∃ count, after.asked = before.asked + count ∧
    Hears before (before.requests true count) after

section Asked

variable {before : State}

/- Moving on asks for one token more. -/
theorem Asked.advance
    {state : State}
    (h : Asked before state) :
    advance.Ends state
      (fun _ => Asked before) (fun _ => Asked before) := by
  have hAfter : Asked before state.advance.2 := by
    rcases h with ⟨count, hCount, hHears⟩
    refine ⟨count + 1, ?_, ?_⟩
    · rw [state.advance_asked, hCount, Nat.add_assoc]
    · have hLexer := hHears.lexer_eq
      rw [State.length_requests] at hLexer
      rw [before.requests_add true hLexer]
      exact hHears.trans (.advance state)
  apply ends_advance
  · intro token lexer hNext
    rwa [State.advance_of_ok hNext] at hAfter
  · intro fault lexer hNext
    rwa [State.advance_of_error hNext] at hAfter

/- A run in which the parser alone asks for tokens. -/
def askedRun (before : State) : Lockstep :=
  .alone (Asked before) (Asked before) (fun _ => True)
    (fun _ _ => trivial) (fun _ h => h) (fun _ h => h.advance)

/- Groups and nodes ask for nothing. -/
theorem askedRun_nests : (askedRun before).Nests := by
  apply Lockstep.nests_alone
  · rintro state depth ⟨count, hCount, hHears⟩
    exact ⟨count, hCount, hHears.depth depth⟩
  · rintro state entry ⟨count, hCount, hHears⟩ hEntry _
    exact ⟨count, hCount, hHears.record hEntry⟩

/- What an action asks for leads to where it leads. -/
theorem hears_of_inStep
    {α : Type}
    {action : Parser α}
    {answers : α → Prop}
    (h : (askedRun before).InStep answers action action) :
    Hears before (action.requests true before)
      (action.run before).2 := by
  have hNone : Asked before before := ⟨0, rfl, .refl before⟩
  rcases h.run hNone with ⟨count, hCount, hHears⟩
  have hAsks : action.asks before = count := by
    rw [asks, hCount, Nat.add_sub_cancel_left]
  rwa [requests, hAsks]

end Asked

/- The first two requests lead to where a parser starts. -/
theorem start_hears
    (state : State) :
    Hears state (start.requests true state)
      (start.run state).2 :=
  hears_of_inStep (askedRun state).inStep_start

/- Whether the parser makes the requests of a step. -/
def Step.byParser : Step → Bool
| .pull => false
| _ => true

/- The requests of a step lead to where it leads. -/
theorem perform_hears
    (room : Nat)
    (step : Step)
    (state : State) :
    Hears state
      ((perform room step).requests step.byParser state)
      ((perform room step).run state).2 := by
  by_cases hPull : step = .pull
  · cases hPull
    have hRun :
        ((perform room .pull).run state).2 =
          state.pull.2 := by
      rw [perform, run_bind, run_pull]
      rcases state.pull with ⟨fault | token, after⟩ <;> rfl
    have hAsks : (perform room .pull).asks state = 1 := by
      rw [asks, hRun, state.pull_asked,
        Nat.add_sub_cancel_left]
    rw [hRun, Step.byParser, requests, hAsks]
    exact .pull state
  · have hByParser : step.byParser = true := by
      cases step with
      | pull => exact absurd rfl hPull
      | _ => rfl
    rw [hByParser]
    exact
      hears_of_inStep (askedRun_nests.perform room hPull)

/- The requests of some steps, in order. -/
def requestsIn
    (room : Nat)
    (state : State) : List Step → List Request
| [] => []
| step :: steps =>
    (perform room step).requests step.byParser state ++
      requestsIn room ((perform room step).run state).2 steps

/- The requests of a run lead to where it leads. -/
theorem reached_hears
    (room : Nat)
    (state : State)
    (steps : List Step) :
    Hears state (requestsIn room state steps)
      (reached room state steps) := by
  induction steps generalizing state with
  | nil => exact .refl state
  | cons step steps ih =>
      exact (perform_hears room step state).trans (ih _)

/- The requests of a run on a text, the first two included. -/
def requestsOf
    (room : Nat)
    (text : String)
    (steps : List Step) : List Request :=
  start.requests true (State.ofLexer (Lexer.ofText text)) ++
    requestsIn room (ofText text).2 steps

/- A parser that can start is given the first two tokens. -/
theorem start_of_ok
    {state : State}
    {first second : Token}
    (hFirst : state.lexer.outcome 0 = .ok first)
    (hSecond : state.lexer.outcome 1 = .ok second) :
    (start.run state).1 = .ok () ∧
      start.requests true state =
        [⟨true, .ok first⟩, ⟨true, .ok second⟩] := by
  rcases hNext : state.lexer.next with ⟨outcome, lexer⟩
  have hOutcome : outcome = .ok first := by
    rw [← hFirst, Lexer.outcome, Lexer.after, hNext]
  cases hOutcome
  have hAfter : lexer = state.lexer.after 1 := by
    rw [Lexer.after, Lexer.after, hNext]
  rcases hLast : lexer.next with ⟨outcome, last⟩
  have hOutcome : outcome = .ok second := by
    rw [← hSecond, Lexer.outcome, ← hAfter, hLast]
  cases hOutcome
  have hMoved := state.moved_lexer first lexer
  have hRun :
      start.run state =
        (.ok (),
          (state.moved first lexer).moved second last) := by
    rw [start, run_bind, run_advance,
      State.advance_of_ok hNext]
    dsimp only
    rw [run_advance,
      State.advance_of_ok (hMoved.symm ▸ hLast)]
  have hAsks : start.asks state = 2 := by
    rw [asks, hRun, State.moved_asked, State.moved_asked,
      Nat.add_assoc, Nat.add_sub_cancel_left]
  refine ⟨congrArg Prod.fst hRun, ?_⟩
  rw [requests, hAsks]
  change
    [Request.mk true (state.lexer.outcome 0),
      Request.mk true (state.lexer.outcome 1)] = _
  rw [hFirst, hSecond]

/- The requests of a run on a text lead to where it leads. -/
theorem requestsOf_hears
    (room : Nat)
    (text : String)
    (steps : List Step) :
    Hears (State.ofLexer (Lexer.ofText text))
      (requestsOf room text steps)
      (reached room (ofText text).2 steps) :=
  (start_hears _).trans (reached_hears room _ steps)

/-
  Where the first two tokens of a text can be read, a parser
  can start, and is given them before anything else.
-/
theorem requestsOf_of_ok
    {text : String}
    (hStart :
      ∀ call < 2,
        ((Lexer.ofText text).outcome call).isOk = true)
    (room : Nat)
    (steps : List Step) :
    (ofText text).1 = .ok () ∧
      ∃ token second,
        requestsOf room text steps =
          ⟨true, .ok token⟩ :: ⟨true, .ok second⟩ ::
            requestsIn room (ofText text).2 steps := by
  have hFirst := hStart 0 (by decide)
  have hSecond := hStart 1 (by decide)
  rcases hToken : (Lexer.ofText text).outcome 0 with
    fault | token
  · rw [hToken] at hFirst
    cases hFirst
  rcases hOther : (Lexer.ofText text).outcome 1 with
    fault | second
  · rw [hOther] at hSecond
    cases hSecond
  rcases
    @start_of_ok (State.ofLexer (Lexer.ofText text)) token
      second hToken hOther with ⟨hOk, hTwo⟩
  refine ⟨hOk, token, second, ?_⟩
  rw [requestsOf, hTwo]
  rfl

/-
  Expecting a token moves on if it is next, and asks for
  nothing otherwise.
-/
structure Expects (kind : Kind) (state : State) : Prop where
  taken :
    state.next.kind = kind →
      (expect kind).run state = state.advance ∧
        (expect kind).requests true state =
          [⟨true, state.lexer.next.1⟩]
  refused :
    state.next.kind ≠ kind →
      (∃ fault,
        (expect kind).run state = (.error fault, state)) ∧
        (expect kind).requests true state = []

/- A token that is expected is taken only if it is next. -/
theorem expects
    (kind : Kind)
    (state : State) :
    Expects kind state := by
  have hRun :
      (expect kind).run state =
        if state.next.kind = kind then
          state.advance
        else if kind = .rightParen ∧
            state.next.kind = .endOfText then
          (.error (.unmatchedParenthesis state.next), state)
        else
          (.error (.unexpectedToken kind.name state.next),
            state) := by
    rw [expect, run_bind, run_lookahead]
    simp only [run_ite, run_advance, run_fail]
  constructor
  · intro hKind
    rw [if_pos hKind] at hRun
    have hAsks : (expect kind).asks state = 1 := by
      rw [asks, hRun, state.advance_asked,
        Nat.add_sub_cancel_left]
    refine ⟨hRun, ?_⟩
    rw [requests, hAsks]
    rfl
  · intro hKind
    rw [if_neg hKind] at hRun
    have hFails :
        ∃ fault,
          (expect kind).run state = (.error fault, state) := by
      rw [hRun]
      split
      · exact ⟨_, rfl⟩
      · exact ⟨_, rfl⟩
    refine ⟨hFails, ?_⟩
    rcases hFails with ⟨fault, hFault⟩
    have hAsks : (expect kind).asks state = 0 := by
      rw [asks, hFault, Nat.sub_self]
    rw [requests, hAsks]
    rfl

/-
  What requests say about a parser that has come to a state.
  They are answered with the first outcomes of the lexer,
  which are the end of the text from some call on, and the
  lexer is as many calls further; the tokens among them are
  those that were noted.  The next token is the latest that
  the parser was given, and the current one is what was next
  before its latest request, which is the next token itself
  if that request met a fault.
-/
structure Follows
    (lexer : Lexer)
    (requests : List Request)
    (state : State) : Prop where
  outcomes_eq :
    requests.map Request.outcome =
      (List.range requests.length).map lexer.outcome
  ends :
    ∃ count, ∀ call, count ≤ call →
      lexer.outcome call = .ok .endOfText
  lexer_eq : state.lexer = lexer.after requests.length
  window_eq :
    state.window =
      (State.ofLexer lexer).window.hearing requests
  noted_eq :
    Record.tokensIn state.log.toList =
      requests.filterMap Request.noted?
  next_eq :
    (requests.filterMap Request.received?).getLast? =
      some state.next
  token_eq :
    ∃ front latest back,
      requests = front ++ latest :: back ∧
        latest.byParser = true ∧
        (∀ request ∈ back, request.byParser = false) ∧
        state.token =
          ((State.ofLexer lexer).window.hearing front).next ∧
        (front.filterMap Request.received?).getLast? =
          some state.token ∧
        ∀ fault, latest.outcome = .error fault →
          state.token = state.next

/-
  Requests that lead from the start of a parser, the first two
  of which it makes and is given a token for, are followed.
-/
theorem Hears.follows
    {text : String}
    {requests others : List Request}
    {state : State}
    {token second : Token}
    (h :
      Hears (State.ofLexer (Lexer.ofText text)) requests
        state)
    (hStart :
      requests =
        ⟨true, .ok token⟩ :: ⟨true, .ok second⟩ :: others) :
    Follows (Lexer.ofText text) requests state where
  outcomes_eq := h.answers
  ends := by
    rcases (Lexer.ofText text).exists_calls with
      ⟨count, _, _, hEnds, _⟩
    refine ⟨count, ?_⟩
    intro call hCall
    exact
      (Lexer.outcome_of_ends (Nat.zero_le _) hEnds hCall).1
  lexer_eq := h.lexer_eq
  window_eq := h.window_eq
  noted_eq := h.noted_eq
  next_eq := by
    have hReceived :
        ∃ request ∈ requests, request.received?.isSome :=
      ⟨_, hStart ▸ List.mem_cons_self, rfl⟩
    rw [h.next_eq]
    exact
      @Window.getLast?_received
        (State.ofLexer (Lexer.ofText text)).window requests
        h.answers hReceived
  token_eq := by
    rw [h.token_eq, h.next_eq]
    exact Window.exists_latest h.answers hStart

/-
  The parser and the direct requests follow one stream.  In a
  run on a text whose first two tokens can be read, the
  requests of both are answered from the stream of the text,
  each of them once and in order, faults included, and tell
  the two tokens of the parser.  A token that is expected is
  asked for only if it is next.
-/
theorem requests_follow_stream
    (room : Nat)
    (text : String)
    (steps : List Step)
    (hStart :
      ∀ call < 2,
        ((Lexer.ofText text).outcome call).isOk = true) :
    (ofText text).1 = .ok () ∧
      Follows (Lexer.ofText text) (requestsOf room text steps)
        (reached room (ofText text).2 steps) ∧
      ∀ kind state, Expects kind state := by
  rcases requestsOf_of_ok hStart room steps with
    ⟨hOk, token, second, hRequests⟩
  have hHears := requestsOf_hears room text steps
  exact ⟨hOk, hHears.follows hRequests, expects⟩

/-
  A fault that the parser meets, two tokens that are taken
  directly, a token that is expected in vain and a group that
  fails: the parser stands on the tokens that it was given
  itself, and no outcome of the stream is left out.
-/
theorem requests_of_two_readers :
    let text := "1 + .. (2) 3"
    let steps : List Step :=
      [.advance, .pull, .advance, .expect .rightParen, .pull,
        .group]
    let requests := requestsOf 9 text steps
    let state := reached 9 (ofText text).2 steps
    (∀ call < 2,
      ((Lexer.ofText text).outcome call).isOk = true) ∧
      requests.map Request.byParser =
        [true, true, true, false, true, false, true,
          true] ∧
      requests.map Request.outcome =
        (List.range 8).map (Lexer.ofText text).outcome ∧
      (requests.filterMap Request.received?).getLast? =
        some state.next ∧
      state.token.literal = "3" ∧
      state.next = .endOfText := by
  dsimp only
  have hStart :
      ∀ call < 2,
        ((Lexer.ofText "1 + .. (2) 3").outcome call).isOk =
          true := by
    decide +kernel
  refine ⟨hStart, ?_⟩
  have hFollows :=
    (requests_follow_stream 9 "1 + .. (2) 3"
      [.advance, .pull, .advance, .expect .rightParen,
        .pull, .group] hStart).2.1
  have hOutcomes := hFollows.outcomes_eq
  have hMakers :
      (requestsOf 9 "1 + .. (2) 3"
        [.advance, .pull, .advance, .expect .rightParen,
          .pull, .group]).map Request.byParser =
        [true, true, true, false, true, false, true,
          true] := by
    decide +kernel
  have hLength := congrArg List.length hMakers
  rw [List.length_map] at hLength
  rw [hLength] at hOutcomes
  refine ⟨hMakers, hOutcomes, hFollows.next_eq, ?_, ?_⟩
  · decide +kernel
  · decide +kernel

end Parser

end ArithExpr
