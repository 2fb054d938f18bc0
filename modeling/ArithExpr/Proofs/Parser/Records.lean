import ArithExpr.Proofs.Lexer.Tiling
import ArithExpr.Proofs.Parser.Notes

/-
  A record is written on one line.

  A record quotes the text of a token, and no token that is
  read holds a blank.  So a record holds no line feed, however
  parsing ends.

  Key definitions include:
    * `Unbroken`
    * `Parser.State.Unbroken`
    * `Parser.unbrokenRun`

  Main declarations:
    * `Lexer.next_unbroken`
    * `Parser.unbrokenRun_nests`
    * `unbroken_of_mem_trace`
    * `Token.IsLexeme.unbroken`
    * `Record.debugLine_one_line`
-/

------------------------------------------------------------
-- Texts without Blanks
------------------------------------------------------------

namespace ArithExpr

/- A text that holds no blank. -/
def Unbroken (text : String) : Prop :=
  ∀ c ∈ text.toList, ¬ IsBlank c

/- The end of the text is spelled by no characters. -/
theorem unbroken_endOfText :
    Unbroken Token.endOfText.literal :=
  List.forall_mem_nil _

/- A token that is read holds no blank. -/
theorem Lexer.next_unbroken
    {lexer after : Lexer}
    {token : Token}
    (h : lexer.next = (.ok token, after)) :
    Unbroken token.literal := by
  rcases lexer.ends_or_cuts with
    hEnds | ⟨gap, lexeme, behind, hCuts⟩
  · have hNext := hEnds.next_eq
    rw [h] at hNext
    cases hNext
    exact unbroken_endOfText
  · have hLiteral := hCuts.literal_eq
    rw [h] at hLiteral
    change token.literal.toList = lexeme at hLiteral
    unfold Unbroken
    rw [hLiteral]
    exact hCuts.not_isBlank

------------------------------------------------------------
-- Runs without Blanks
------------------------------------------------------------

namespace Parser

/-
  The tokens that a parser holds, and the records it has made,
  quote no blank.
-/
structure State.Unbroken (state : State) : Prop where
  token : ArithExpr.Unbroken state.token.literal
  next : ArithExpr.Unbroken state.next.literal
  log :
    ∀ entry ∈ state.log.toList,
      ArithExpr.Unbroken entry.literal

/- A record that quotes no blank may be added. -/
theorem State.Unbroken.record
    {state : State}
    (h : state.Unbroken)
    (entry : Record)
    (hEntry : ArithExpr.Unbroken entry.literal) :
    (state.record entry).Unbroken := by
  refine ⟨h.token, h.next, ?_⟩
  intro other hMem
  have hLog :
      (state.record entry).log.toList =
        state.log.toList ++ [entry] :=
    Array.toList_push
  rw [hLog] at hMem
  rcases List.mem_append.mp hMem with hMem | hMem
  · exact h.log other hMem
  · rw [List.mem_singleton.mp hMem]
    exact hEntry

/- Moving to a token that is read brings in no blank. -/
theorem State.Unbroken.moved
    {state : State}
    {token : Token}
    {lexer : Lexer}
    (h : state.Unbroken)
    (hNext : state.lexer.next = (.ok token, lexer)) :
    (state.moved token lexer).Unbroken := by
  have hToken := Lexer.next_unbroken hNext
  have hLog :
      ∀ entry ∈ (state.moved token lexer).log.toList,
        ArithExpr.Unbroken entry.literal := by
    by_cases hEnd : token.kind = .endOfText
    · rw [moved_log_of_end hEnd]
      exact h.log
    · rw [moved_log_of_ne_end hEnd]
      exact (h.record (.token token) hToken).log
  exact
    { token := by rw [moved_token]; exact h.next
      next := by rw [moved_next]; exact hToken
      log := hLog }

/- Moving on brings in a token that is read, or a fault. -/
theorem ends_advance_of_unbroken
    {state : State}
    (h : state.Unbroken) :
    advance.Ends state
      (fun _ => State.Unbroken) (fun _ => State.Unbroken) := by
  apply ends_advance
  · intro token lexer hNext
    exact h.moved hNext
  · intro fault lexer _
    exact ⟨h.next, h.next, h.log⟩

/- A run that quotes no blank as long as it goes on. -/
def unbrokenRun : Lockstep :=
  .alone State.Unbroken State.Unbroken ArithExpr.Unbroken
    (fun _ h => h.token) (fun _ h => h)
    (fun _ => ends_advance_of_unbroken)

/- Groups and nodes bring in no blank. -/
theorem unbrokenRun_nests : unbrokenRun.Nests :=
  Lockstep.nests_alone
    (fun _ _ h => ⟨h.token, h.next, h.log⟩)
    (fun _ entry h _ hQuotes => h.record entry hQuotes)

end Parser

------------------------------------------------------------
-- Whole Texts
------------------------------------------------------------

/- No record of a text that is parsed quotes a blank. -/
theorem unbroken_of_mem_trace
    {limit : Nat}
    {text : String}
    {entry : Record}
    (h : entry ∈ trace limit text) :
    Unbroken entry.literal := by
  have hStart :
      (Parser.State.ofLexer (Lexer.ofText text)).Unbroken :=
    ⟨unbroken_endOfText, unbroken_endOfText,
      List.forall_mem_nil _⟩
  have hParse :=
    Parser.unbrokenRun_nests.parse (Parser.roomWithin limit)
      0 (.inl rfl)
  have hAfter : (parseRun limit text).2.Unbroken := by
    rw [parseRun]
    exact hParse.run hStart
  exact hAfter.log entry h

/- A lexeme holds no blank. -/
theorem Token.IsLexeme.unbroken
    {token : Token}
    (h : token.IsLexeme) :
    Unbroken token.literal := by
  intro d hMem
  rcases h with ⟨c, hOperator⟩ | ⟨_, hNumeral⟩
  · rw [hOperator.2, String.toList_singleton] at hMem
    rw [List.mem_singleton.mp hMem]
    exact
      not_isBlank_of_operator
        (Token.ofOperator?_eq_some_iff.mpr hOperator)
  · exact
      not_isBlank_of_isNumberPart
        (hNumeral.isNumberPart d hMem)

/- A record that quotes no blank is written on one line. -/
theorem Record.debugLine_one_line
    {entry : Record}
    (h : Unbroken entry.literal) :
    '\n' ∉ entry.debugLine.toList := by
  have hLiteral : '\n' ∉ entry.literal.toList :=
    fun hMem => h _ hMem (by decide)
  have hName :
      ∀ kind : Kind, '\n' ∉ kind.name.toList := by
    intro kind
    cases kind <;> decide
  unfold debugLine message channel
  cases entry with
  | token found =>
      have hFound : '\n' ∉ found.literal.toList := hLiteral
      simp only [String.toList_append, List.mem_append,
        hFound, hName found.kind]
      decide
  | sign literal =>
      have hSign : '\n' ∉ literal.toList := hLiteral
      simp only [String.toList_append, List.mem_append, hSign]
      decide
  | operator literal =>
      have hOperator : '\n' ∉ literal.toList := hLiteral
      simp only [String.toList_append, List.mem_append,
        hOperator]
      decide

end ArithExpr
