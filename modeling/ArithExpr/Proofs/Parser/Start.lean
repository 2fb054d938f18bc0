import ArithExpr.Proofs.Lexer.Tiling
import ArithExpr.Proofs.Parser.Contract

/-
  What a parser sees of a whole text.

  A window of a text is settled: its lexer is inside the text,
  and the end of the text stands in it only as its own token
  and with nothing left behind it.  The parser starts with a
  settled window on the stream of the text, and every shift
  keeps a window settled.

  Key definitions include:
    * `Parser.Window.Settled`

  Main declarations:
    * `Parser.Window.Shifts.settled`
    * `Parser.ends_advance_of_settled`
    * `Parser.start_ends`
-/

------------------------------------------------------------
-- Settled Windows
------------------------------------------------------------

namespace ArithExpr

namespace Parser

/-
  A window of a text whose lexer is inside the text, and where
  the end of the text is one token with nothing behind it.
-/
structure Window.Settled
    (text : List Char)
    (window : Window) : Prop where
  text_eq : window.lexer.text = text
  index_le : window.lexer.index ≤ text.length
  rest_eq :
    window.next.kind = .endOfText → window.lexer.rest = []
  next_eq :
    window.next.kind = .endOfText →
      window.next = .endOfText
  token_eq :
    window.token.kind = .endOfText →
      window.token = .endOfText

namespace Window

/- A move inside a text leads to a settled window. -/
theorem settled_moved
    {text : List Char}
    {window : Window}
    {token : Token}
    {lexer : Lexer}
    (hText : window.lexer.text = text)
    (hIndex : window.lexer.index ≤ text.length)
    (hNext :
      window.next.kind = .endOfText →
        window.next = .endOfText)
    (h : window.lexer.next = (.ok token, lexer)) :
    (window.moved token lexer).Settled text := by
  subst hText
  have hInside := Lexer.next_inside hIndex
  rw [h] at hInside
  exact
    { text_eq := hInside.1
      index_le := hInside.2
      rest_eq := fun hEnd => (Lexer.next_end h hEnd).2
      next_eq := fun hEnd => (Lexer.next_end h hEnd).1
      token_eq := hNext }

/- A shift keeps a window settled. -/
theorem Shifts.settled
    {text : List Char}
    {window after : Window}
    (hShift : window.Shifts after)
    (hSettled : window.Settled text) :
    after.Settled text := by
  rcases hShift with ⟨token, lexer, hNext, rfl⟩
  exact
    settled_moved hSettled.text_eq hSettled.index_le
      hSettled.next_eq hNext

/- A lexer with nothing left stands at the end of the text. -/
theorem Settled.index_eq
    {text : List Char}
    {window : Window}
    (hSettled : window.Settled text)
    (hEnd : window.next.kind = .endOfText) :
    window.lexer.index = text.length := by
  have hRest := hSettled.rest_eq hEnd
  have hIndex := hSettled.index_le
  rw [window.lexer.rest_eq, hSettled.text_eq,
    List.drop_eq_nil_iff] at hRest
  exact Nat.le_antisymm hIndex hRest

/- Behind the end of the text the parser can still move. -/
theorem Settled.next_of_end
    {text : List Char}
    {window : Window}
    (hSettled : window.Settled text)
    (hEnd : window.next.kind = .endOfText) :
    window.lexer.next = (.ok .endOfText, window.lexer) :=
  Lexer.next_of_nil (hSettled.rest_eq hEnd)

end Window

/-
  A settled parser can move, unless a fault follows the next
  token at once.
-/
theorem ends_advance_of_settled
    {text : List Char}
    {state : State}
    {answers : Unit → State → Prop}
    {fails : ParseError → State → Prop}
    (hSettled : state.window.Settled text)
    (hOk :
      ∀ after : State,
        after.window.Settled text →
          after.token = state.next →
          after.window.stream = state.window.ahead →
          after.depth = state.depth → answers () after)
    (hError :
      ∀ fault after,
        state.next.kind ≠ .endOfText →
          state.window.ahead = ([state.next], some fault) →
          fails fault after) :
    advance.Ends state answers fails := by
  apply ends_shift
  · intro after hShift hDepth
    exact
      hOk after (hShift.settled hSettled) hShift.token_eq
        hShift.stream_eq hDepth
  · intro fault lexer after hFault
    have hKind : state.next.kind ≠ .endOfText := by
      intro hEnd
      have hNext := hSettled.next_of_end hEnd
      change state.lexer.next = _ at hNext
      rw [hFault] at hNext
      cases hNext
    exact
      hError fault after hKind
        (Window.ahead_of_error hFault hKind)

------------------------------------------------------------
-- The Start of a Text
------------------------------------------------------------

/-
  The parser starts on the stream of the text, unless one of
  its first two tokens cannot be read.
-/
theorem start_ends
    {text : String}
    {answers : Unit → State → Prop}
    {fails : ParseError → State → Prop}
    (hOk :
      ∀ state : State,
        state.window.Settled text.toList →
          state.window.stream =
            Lexer.streamOf text.toList →
          state.depth = 0 → answers () state)
    (hError :
      ∀ fault tokens after,
        Lexer.streamOf text.toList = (tokens, some fault) →
          tokens.length ≤ 1 → fails fault after) :
    start.Ends (State.ofLexer (Lexer.ofText text))
      answers fails := by
  have hScan :
      (Lexer.ofText text).scan =
        Lexer.streamOf text.toList :=
    Lexer.scan_eq_streamOf _
  rw [start, ends_bind]
  apply ends_advance
  · intro token lexer hNext
    change (Lexer.ofText text).next = _ at hNext
    have hSettled :
        ((State.ofLexer (Lexer.ofText text)).moved
          token lexer).window.Settled text.toList := by
      rw [State.moved_window]
      exact
        Window.settled_moved rfl (Nat.zero_le _)
          (fun _ => rfl) hNext
    apply ends_shift
    · intro state hShift hDepth
      refine hOk state (hShift.settled hSettled) ?_ ?_
      · rw [hShift.stream_eq, State.moved_window, ← hScan,
          Lexer.scan_of_ok hNext]
        rfl
      · rw [hDepth, State.moved_depth]
        rfl
    · intro fault lexer' after hFault
      rw [State.moved_lexer] at hFault
      refine hError fault [token] after ?_ (Nat.le_refl 1)
      have hKind : token.kind ≠ .endOfText := by
        intro hEnd
        rw [Lexer.next_of_nil
          (Lexer.next_end hNext hEnd).2] at hFault
        cases hFault
      rw [← hScan, Lexer.scan_of_ok hNext,
        Lexer.scan_of_error hFault,
        TokenStream.push_of_ne_end hKind]
  · intro fault lexer hFault
    change (Lexer.ofText text).next = _ at hFault
    refine hError fault [] _ ?_ (Nat.zero_le 1)
    rw [← hScan, Lexer.scan_of_error hFault]

end Parser

end ArithExpr
