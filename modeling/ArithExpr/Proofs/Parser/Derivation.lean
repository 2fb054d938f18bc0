import ArithExpr.Proofs.Grammar.Unique
import ArithExpr.Proofs.Parser.Completeness
import ArithExpr.Proofs.Parser.Soundness
import ArithExpr.Proofs.Parser.Start

/-
  Parsing a whole text is deriving its tokens.

  A text that is parsed has a phrase for all its tokens, and
  the parser stops at the end of the text.  A text with a
  phrase for all its tokens is parsed as the tree of that
  phrase when the depth of the phrase stays below the limit,
  and is nested too deeply otherwise.

  Main declarations:
    * `Parser.wholeText_read`
    * `Parser.wholeText_derived`
    * `Parser.wholeText_reads`
    * `parseWithin_of_phrase`
    * `parseWithin_eq_ok_iff_derives`
-/

------------------------------------------------------------
-- Whole Texts
------------------------------------------------------------

namespace ArithExpr

namespace Parser

/- Going through tokens keeps a window settled. -/
theorem Window.Covers.settled
    {text : List Char}
    {window after : Window}
    {tokens : List Token}
    (hCovers : window.Covers tokens after)
    (hSettled : window.Settled text) :
    after.Settled text := by
  induction hCovers with
  | here window => exact hSettled
  | shift hShift _ ih => exact ih (hShift.settled hSettled)

/- The first two tokens are loaded by two moves. -/
theorem start_moves
    (state : State) :
    start.Ends state
      (fun _ after =>
        ∃ middle, state.Moves middle ∧ middle.Moves after)
      (fun _ _ => True) := by
  rw [start, ends_bind]
  apply ends_advance_moves
  intro middle hMiddle
  apply ends_advance_moves
  intro after hAfter
  exact ⟨middle, hMiddle, hAfter⟩

/- A phrase that is read to the end is all of the stream. -/
theorem Reading.stream_eq
    {level : Level}
    {phrase : Phrase level}
    {before last : State}
    (h : Reading phrase before last)
    (hEnd : last.next.kind = .endOfText) :
    before.window.stream = (phrase.tokens, none) := by
  have hAhead : last.window.ahead = ([], none) :=
    TokenStream.push_of_end hEnd
  rw [h.covers.2.stream_eq phrase.kind_ne_endOfText, hAhead,
    List.append_nil]

/-
  A text that is parsed is read as a phrase between two moves
  at its start and one at its end.
-/
theorem wholeText_read
    (room : Nat)
    (text : String) :
    (do start; wholeText room).Ends
      (State.ofLexer (Lexer.ofText text))
      (fun expr after =>
        ∃ (phrase : Phrase .sum) (first before last : State),
          phrase.tree = expr ∧
            Lexer.streamOf text.toList =
              (phrase.tokens, none) ∧
            (State.ofLexer (Lexer.ofText text)).Moves first ∧
            first.Moves before ∧
            before.window.Settled text.toList ∧
            Reading phrase before last ∧
            last.next.kind = Kind.endOfText ∧
            last.Moves after)
      (fun _ _ => True) := by
  have hStart :
      start.Ends (State.ofLexer (Lexer.ofText text))
        (fun _ state =>
          state.window.Settled text.toList ∧
            state.window.stream =
              Lexer.streamOf text.toList)
        (fun _ _ => True) :=
    start_ends (fun _ hSettled hStream _ =>
      ⟨hSettled, hStream⟩) (fun _ _ _ _ _ => trivial)
  rw [ends_bind]
  refine (hStart.and (start_moves _)).mono ?_
    (fun _ _ _ => trivial)
  rintro _ before
    ⟨⟨hSettled, hStream⟩, first, hFirst, hSecond⟩
  rw [wholeText, ends_bind]
  refine ((calls_read room).1 0 before).mono ?_
    (fun _ _ h => h)
  rintro node last ⟨⟨phrase, rfl, hReading⟩, _⟩
  rw [ends_bind]
  refine (expect_moves .endOfText last).mono ?_
    (fun _ _ h => h)
  rintro _ after ⟨hEnd, hLast⟩
  rw [hReading.stream_eq hEnd] at hStream
  exact
    ⟨phrase, first, before, last, rfl, hStream.symm, hFirst,
      hSecond, hSettled, hReading, hEnd, hLast⟩

/- A text that is parsed is derived, and read to its end. -/
theorem wholeText_derived
    (room : Nat)
    (text : String) :
    (do start; wholeText room).Ends
      (State.ofLexer (Lexer.ofText text))
      (fun expr after =>
        (∃ phrase : Phrase .sum,
          phrase.tree = expr ∧
            Lexer.streamOf text.toList =
              (phrase.tokens, none)) ∧
          after.lexer.index = text.length ∧
          after.token = Token.endOfText ∧
          after.next = Token.endOfText)
      (fun _ _ => True) := by
  refine (wholeText_read room text).mono ?_ (fun _ _ h => h)
  rintro expr after
    ⟨phrase, _, before, last, hTree, hStream, _, _, hSettled,
      hReading, hEnd, hLast⟩
  have hSettledLast := hReading.covers.2.settled hSettled
  have hAfter := hLast.shifts.1.settled hSettledLast
  have hToken : after.token = last.next := hLast.token_eq
  have hNext : after.next = .endOfText := by
    rcases hLast with ⟨token, lexer, hNext, rfl⟩
    have hSame := hSettledLast.next_of_end hEnd
    change last.lexer.next = _ at hSame
    rw [hSame] at hNext
    cases hNext
    exact State.moved_next _ _ _
  refine ⟨⟨phrase, hTree, hStream⟩, ?_, ?_, hNext⟩
  · rw [← String.length_toList]
    exact hAfter.index_eq (congrArg Token.kind hNext)
  · rw [hToken]
    exact hSettledLast.next_eq hEnd

/-
  A text that is derived is parsed in exactly the room that
  its derivation needs.
-/
theorem wholeText_reads
    (room : Nat)
    {text : String}
    {phrase : Phrase .sum}
    (hText :
      Lexer.streamOf text.toList = (phrase.tokens, none)) :
    (do start; wholeText room).Ends
      (State.ofLexer (Lexer.ofText text))
      (fun expr _ =>
        phrase.depth ≤ room ∧ expr = phrase.tree)
      (fun fault _ =>
        ¬ phrase.depth ≤ room ∧
          fault = ParseError.tooDeep) := by
  rw [ends_bind]
  apply start_ends
  · intro state hSettled hStream _
    let behind : TokenStream := ([], none)
    have hBehind : behind.precedence ≤ 0 := by decide
    have hReads :
        Reads (expression room 0) state
          (phrase.depth ≤ room) phrase.tree behind := by
      refine
        (climbs phrase).reads (Int.le_refl 1)
          (fun _ => rfl) hBehind
          (Int.le_trans hBehind (by decide)) ?_
      rw [hStream, hText, List.append_nil]
    have hDerived := expression_derived room state
    rw [wholeText, ends_bind]
    refine (hReads.and hDerived).mono ?_ (fun _ _ h => h.1)
    rintro node last
      ⟨⟨hFits, hTree, hAhead, _⟩, ⟨_, _, _, hCovers⟩⟩
    have hEnd : last.next.kind = .endOfText :=
      Window.next_of_ahead_nil hAhead
    have hLast := hCovers.settled hSettled
    rw [ends_bind, expect, ends_bind, ends_lookahead,
      ends_ite, if_pos hEnd]
    apply ends_advance_of_settled hLast
    · intro after _ _ _ _
      exact ⟨hFits, hTree⟩
    · intro fault after hKind
      exact absurd hEnd hKind
  · intro fault tokens after hFault
    rw [hText] at hFault
    cases hFault

end Parser

/-
  A text that is derived is parsed as its tree when the depth
  of the derivation stays below the limit, and is nested too
  deeply otherwise.
-/
theorem parseWithin_of_phrase
    (limit : Nat)
    {text : String}
    {phrase : Phrase .sum}
    (hText :
      Lexer.streamOf text.toList = (phrase.tokens, none)) :
    parseWithin limit text =
      if phrase.depth < limit then .ok phrase.tree
      else .error .tooDeep := by
  have hDepth := phrase.two_le_depth
  have hReads :=
    Parser.wholeText_reads (Parser.roomWithin limit) hText
  have hRoom :
      phrase.depth ≤ Parser.roomWithin limit ↔
        phrase.depth < limit := by
    unfold Parser.roomWithin
    omega
  rw [hRoom] at hReads
  rcases hRun : parseRun limit text with
    ⟨fault | expr, after⟩
  · rw [Parser.ends_of_error hRun] at hReads
    rw [parseWithin, hRun, if_neg hReads.1, hReads.2]
  · rw [Parser.ends_of_ok hRun] at hReads
    rw [parseWithin, hRun, if_pos hReads.1, hReads.2]

------------------------------------------------------------
-- Parsing and Deriving
------------------------------------------------------------

/- A text that is parsed is derived, and read to its end. -/
theorem parseRun_derived
    {limit : Nat}
    {text : String}
    {expr : Expr}
    {after : Parser.State}
    (hRun : parseRun limit text = (.ok expr, after)) :
    (∃ phrase : Phrase .sum,
      phrase.tree = expr ∧
        Lexer.streamOf text.toList =
          (phrase.tokens, none)) ∧
      after.lexer.index = text.length ∧
      after.token = .endOfText ∧
      after.next = .endOfText :=
  (Parser.ends_of_ok hRun).mp
    (Parser.wholeText_derived (Parser.roomWithin limit) text)

/-
  A text that is not nested too deeply is parsed as exactly
  those expressions that its tokens derive, which is at most
  one.  What is parsed is read to the end of the text.
-/
theorem parseWithin_eq_ok_iff_derives
    (limit : Nat)
    (text : String)
    (hDepth : parseWithin limit text ≠ .error .tooDeep) :
    (∀ expr,
      parseWithin limit text = .ok expr ↔
        ∃ tokens,
          tokenize text = .ok (tokens ++ [.endOfText]) ∧
            Derives tokens expr) ∧
      (∀ tokens left right,
        Derives tokens left → Derives tokens right →
          left = right) ∧
      (∀ expr after,
        parseRun limit text = (.ok expr, after) →
          after.lexer.index = text.length ∧
            after.token = .endOfText ∧
            after.next = .endOfText) := by
  refine ⟨?_, ?_, ?_⟩
  · intro expr
    constructor
    · intro hOk
      rcases hRun : parseRun limit text with ⟨_, after⟩
      rw [parseWithin, hRun] at hOk
      cases hOk
      rcases (parseRun_derived hRun).1 with
        ⟨phrase, hTree, hStream⟩
      refine ⟨phrase.tokens, ?_, phrase, rfl, hTree⟩
      exact tokenize_eq_ok_iff_streamOf.mpr
        ⟨phrase.tokens, hStream, rfl⟩
    · rintro ⟨_, hTokenize, phrase, rfl, rfl⟩
      rcases tokenize_eq_ok_iff_streamOf.mp hTokenize with
        ⟨tokens, hStream, hTokens⟩
      rw [← List.append_cancel_right hTokens] at hStream
      rw [parseWithin_of_phrase limit hStream] at hDepth ⊢
      split at hDepth
      · next hFits => rw [if_pos hFits]
      · exact absurd rfl hDepth
  · intro tokens left right hLeft hRight
    exact hLeft.unique hRight
  · intro expr after hRun
    exact (parseRun_derived hRun).2

/- A product with a group is derived, and read to its end. -/
theorem parse_product_of_group :
    parse "2*(3-1)" ≠ .error .tooDeep ∧
      ∃ expr tokens,
        parse "2*(3-1)" = .ok expr ∧
          tokenize "2*(3-1)" =
            .ok (tokens ++ [.endOfText]) ∧
          Derives tokens expr ∧
          (parseRun depthLimit "2*(3-1)").2.lexer.index =
            7 := by
  have hDepth : parse "2*(3-1)" ≠ .error .tooDeep := by
    decide +kernel
  refine ⟨hDepth, ?_⟩
  rcases parseWithin_eq_ok_iff_derives depthLimit "2*(3-1)"
    hDepth with ⟨hDerives, _, hEnd⟩
  have hIsOk : (parse "2*(3-1)").isOk = true := by
    decide +kernel
  rcases hRun : parseRun depthLimit "2*(3-1)" with
    ⟨fault | expr, after⟩
  · rw [parse, parseWithin, hRun] at hIsOk
    cases hIsOk
  · have hOk : parse "2*(3-1)" = .ok expr :=
      congrArg Prod.fst hRun
    rcases (hDerives expr).mp hOk with
      ⟨tokens, hTokenize, hTokens⟩
    exact
      ⟨expr, tokens, hOk, hTokenize, hTokens,
        (hEnd expr after hRun).1⟩

end ArithExpr
