import ArithExpr.Proofs.Lexer.Seam
import ArithExpr.Proofs.Lexer.Tiling
import ArithExpr.Proofs.Parser.Lockstep

/-
  Two runs of the parser on the same stream of tokens.

  Two states are alike when all that tells them apart is where
  their lexers stand, and both lexers scan the same stream.
  Two runs from states that are alike go on in step.  So the
  outcome of a text depends only on its stream, and blanks
  between its tokens never matter.

  Key definitions include:
    * `Parser.State.Alike`
    * `Parser.sameStream`

  Main declarations:
    * `Parser.State.Alike.advance`
    * `Parser.sameStream_nests`
    * `parseRun_congr`
    * `parseWithin_insertAt`
-/

------------------------------------------------------------
-- Lexers on the Same Stream
------------------------------------------------------------

namespace ArithExpr

namespace Lexer

/-
  A stream says what its lexer answers next, and what is
  scanned behind that answer.
-/
theorem next_of_scan
    (lexer : Lexer) :
    match lexer.scan with
    | ([], some fault) =>
        ∃ after, lexer.next = (.error fault, after)
    | ([], none) =>
        ∃ after, lexer.next = (.ok .endOfText, after) ∧
          after.scan = ([], none)
    | (token :: tokens, fault?) =>
        ∃ after, lexer.next = (.ok token, after) ∧
          after.scan = (tokens, fault?) := by
  rcases hNext : lexer.next with ⟨fault | token, after⟩
  · rw [scan_of_error hNext]
    exact ⟨after, rfl⟩
  · rw [scan_of_ok hNext]
    by_cases hEnd : token.kind = .endOfText
    · rcases next_end hNext hEnd with ⟨rfl, hRest⟩
      exact ⟨after, rfl, scan_of_nil hRest⟩
    · rw [TokenStream.push_of_ne_end hEnd]
      exact ⟨after, rfl, rfl⟩

/-
  Lexers that scan the same stream fail alike, or read the
  same token and scan the same stream behind it.
-/
theorem next_cases_of_scan_eq
    {left right : Lexer}
    (h : left.scan = right.scan) :
    (∃ fault left' right',
      left.next = (.error fault, left') ∧
        right.next = (.error fault, right')) ∨
      (∃ token left' right',
        left.next = (.ok token, left') ∧
          right.next = (.ok token, right') ∧
          left'.scan = right'.scan) := by
  have hLeft := left.next_of_scan
  have hRight := right.next_of_scan
  rw [h] at hLeft
  rcases hScan : right.scan with ⟨_ | ⟨token, tokens⟩, fault?⟩
  · rw [hScan] at hLeft hRight
    cases fault? with
    | none =>
        rcases hLeft with ⟨left', hLeft, hLeftScan⟩
        rcases hRight with ⟨right', hRight, hRightScan⟩
        exact
          .inr ⟨_, left', right', hLeft, hRight,
            hLeftScan.trans hRightScan.symm⟩
    | some fault =>
        rcases hLeft with ⟨left', hLeft⟩
        rcases hRight with ⟨right', hRight⟩
        exact .inl ⟨fault, left', right', hLeft, hRight⟩
  · rw [hScan] at hLeft hRight
    rcases hLeft with ⟨left', hLeft, hLeftScan⟩
    rcases hRight with ⟨right', hRight, hRightScan⟩
    exact
      .inr ⟨token, left', right', hLeft, hRight,
        hLeftScan.trans hRightScan.symm⟩

end Lexer

namespace Parser

------------------------------------------------------------
-- Alike States
------------------------------------------------------------

/-
  Two states that differ only in their lexers, which scan the
  same stream.
-/
structure State.Alike (left right : State) : Prop where
  scan_eq : left.lexer.scan = right.lexer.scan
  token_eq : left.token = right.token
  next_eq : left.next = right.next
  depth_eq : left.depth = right.depth
  log_eq : left.log = right.log

/- Alike states stay alike when both read the same token. -/
theorem State.Alike.moved
    {left right : State}
    {left' right' : Lexer}
    (h : left.Alike right)
    (token : Token)
    (hScan : left'.scan = right'.scan) :
    (left.moved token left').Alike
      (right.moved token right') := by
  have hLog :
      (left.moved token left').log =
        (right.moved token right').log := by
    unfold State.moved State.recordToken State.record
    split
    · exact h.log_eq
    · exact congrArg (·.push (.token token)) h.log_eq
  exact
    { scan_eq := by simpa using hScan
      token_eq := by simpa using h.next_eq
      next_eq := by simp
      depth_eq := by simpa using h.depth_eq
      log_eq := hLog }

/- Behind a fault only the records have to be the same. -/
def State.NotedAlike (left right : State) : Prop :=
  left.log = right.log

/- Moving on from states that are alike. -/
theorem State.Alike.advance
    {left right : State}
    (h : left.Alike right) :
    EndsInStep State.Alike State.NotedAlike False
      (fun _ => True) left.advance right.advance := by
  rcases Lexer.next_cases_of_scan_eq h.scan_eq with
    ⟨fault, left', right', hLeft, hRight⟩ |
      ⟨token, left', right', hLeft, hRight, hScan⟩
  · rw [State.advance_of_error hLeft,
      State.advance_of_error hRight]
    exact .fault h.log_eq
  · rw [State.advance_of_ok hLeft, State.advance_of_ok hRight]
    exact .answer trivial (h.moved token hScan)

/- Runs on the same stream. -/
def sameStream : Lockstep where
  alike := State.Alike
  failed := State.NotedAlike
  quotes _ := True
  roomier := False
  token_eq _ _ h := h.token_eq
  next_eq _ _ h := h.next_eq
  quotes_token _ _ _ := trivial
  failed_of_alike _ _ h := h.log_eq
  moves _ _ h := h.advance

/- Groups and nodes keep states alike. -/
theorem sameStream_nests : sameStream.Nests where
  depth_eq _ _ h := h.depth_eq
  depth _ _ _ h := { h with depth_eq := rfl }
  record _ _ entry h _ _ :=
    { h with log_eq := congrArg (·.push entry) h.log_eq }

end Parser

------------------------------------------------------------
-- Texts with One Stream
------------------------------------------------------------

/- Texts with one stream have the same tokens. -/
theorem tokenize_congr
    {left right : String}
    (h :
      Lexer.streamOf left.toList =
        Lexer.streamOf right.toList) :
    tokenize left = tokenize right := by
  have hScan :
      (Lexer.ofText left).scan = (Lexer.ofText right).scan :=
    h
  unfold tokenize
  rw [hScan]

/-
  Texts with one stream are parsed in the same way: their
  outcome is the same, and so are the records that are made.
-/
theorem parseRun_congr
    (limit : Nat)
    {left right : String}
    (h :
      Lexer.streamOf left.toList =
        Lexer.streamOf right.toList) :
    parseWithin limit left = parseWithin limit right ∧
      (parseRun limit left).2.log =
        (parseRun limit right).2.log := by
  have hAlike :
      (Parser.State.ofLexer (Lexer.ofText left)).Alike
        (Parser.State.ofLexer (Lexer.ofText right)) :=
    ⟨h, rfl, rfl, rfl, rfl⟩
  have hEnds :=
    Parser.sameStream_nests.parse (Parser.roomWithin limit)
      0 (.inl rfl) _ _ hAlike
  change Parser.EndsInStep _ _ _ _ (parseRun limit left)
    (parseRun limit right) at hEnds
  unfold parseWithin
  generalize parseRun limit left = leftEnd at hEnds ⊢
  generalize parseRun limit right = rightEnd at hEnds ⊢
  cases hEnds with
  | answer _ hAlike =>
      exact ⟨rfl, Parser.State.Alike.log_eq hAlike⟩
  | fault hLog => exact ⟨rfl, hLog⟩
  | refused hRoomier => exact hRoomier.elim

/-
  Blanks between the tokens of a text never matter, whether or
  not the text is accepted: the tokens are the same, and so is
  the outcome of parsing under every limit.
-/
theorem parseWithin_insertAt
    (limit : Nat)
    (text : String)
    (blanks : List Char)
    (position : Nat)
    (hBlanks : ∀ c ∈ blanks, IsBlank c)
    (hBetween : BetweenTokens text.toList position) :
    tokenize (insertAt text position blanks) =
        tokenize text ∧
      parseWithin limit (insertAt text position blanks) =
        parseWithin limit text := by
  have hStream := streamOf_insertAt hBlanks hBetween
  exact
    ⟨tokenize_congr hStream, (parseRun_congr limit hStream).1⟩

/-
  A blank in front of a fault, and behind an operator, leaves
  the fault as it is.
-/
theorem parse_blank_before_fault :
    insertAt "2 *.5.)" 3 ['\n', ' '] = "2 *\n .5.)" ∧
      tokenize "2 *\n .5.)" = tokenize "2 *.5.)" ∧
      parse "2 *\n .5.)" = parse "2 *.5.)" ∧
      parse "2 *.5.)" =
        .error (.invalidNumber ".5." .number) := by
  have hInsert :
      insertAt "2 *.5.)" 3 ['\n', ' '] = "2 *\n .5.)" := by
    decide +kernel
  have hBetween : BetweenTokens "2 *.5.)".toList 3 :=
    .inr (.inr (.inr ⟨'*', by decide, by decide⟩))
  have hBlanks : ∀ c ∈ ['\n', ' '], IsBlank c := by
    simp [IsBlank]
  have hSame :=
    parseWithin_insertAt depthLimit "2 *.5.)" ['\n', ' '] 3
      hBlanks hBetween
  rw [hInsert] at hSame
  exact ⟨hInsert, hSame.1, hSame.2, by decide +kernel⟩

end ArithExpr
