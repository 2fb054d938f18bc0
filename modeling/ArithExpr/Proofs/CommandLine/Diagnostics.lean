import ArithExpr.Proofs.CommandLine.Run
import ArithExpr.Proofs.Parser.Fault
import ArithExpr.Proofs.Parser.Records

/-
  What is reported about a faulty text.

  A fault quotes a lexeme of the text, which stands in it as
  it is and holds no blank, or it quotes nothing: at the end
  of the text and where nesting is too deep.  So its message
  is a single line, and so is the diagnostic of the command.

  Key definitions include:
    * `Excerpt`
    * `TokenStream.Quotes`
    * `OneLine`
    * `ParseError.Quotes`

  Main declarations:
    * `Lexer.scan_quotes`
    * `Scanner.source_of_faultIn`
    * `ParseError.message_oneLine`
    * `quotes_of_tokenize`
    * `quotes_of_parseWithin`
    * `runCommand_diagnostic`
-/

------------------------------------------------------------
-- Excerpts
------------------------------------------------------------

namespace ArithExpr

/-
  Some characters, of which none is a blank, that stand one
  behind the other in a text.
-/
structure Excerpt (text chars : List Char) : Prop where
  isInfix : chars <:+: text
  ne_nil : chars ≠ []
  not_isBlank : ∀ c ∈ chars, ¬ IsBlank c

/- What stands in the back of a text stands in the text. -/
theorem Excerpt.of_suffix
    {text back chars : List Char}
    (h : Excerpt back chars)
    (hBack : back <:+ text) :
    Excerpt text chars where
  isInfix := h.isInfix.trans hBack.isInfix
  ne_nil := h.ne_nil
  not_isBlank := h.not_isBlank

/-
  The tokens of a stream are spelled by excerpts of a text,
  and so is a lexical fault behind them.
-/
structure TokenStream.Quotes
    (stream : TokenStream)
    (text : List Char) : Prop where
  token :
    ∀ token ∈ stream.1, Excerpt text token.literal.toList
  fault :
    ∀ fault ∈ stream.2,
      fault = .invalidNumber fault.literal .number ∧
        Excerpt text fault.literal.toList

namespace Lexer

/- A lexeme that is cut out is an excerpt of what was left. -/
theorem Cuts.excerpt
    {lexer : Lexer}
    {gap lexeme behind : List Char}
    (h : lexer.Cuts gap lexeme behind) :
    Excerpt lexer.rest (literalOf lexer.next.1) := by
  rw [h.literal_eq]
  refine ⟨⟨gap, behind, ?_⟩, h.lexeme_ne_nil, h.not_isBlank⟩
  rw [List.append_assoc, ← h.rest_eq]

/-
  What is scanned is spelled by excerpts of what is left.  The
  induction is on the characters that are left, of which every
  call uses up some.
-/
theorem scan_quotes
    (lexer : Lexer) :
    TokenStream.Quotes lexer.scan lexer.rest := by
  induction hLength : lexer.rest.length
    using Nat.strong_induction_on generalizing lexer with
  | h length ih =>
      rcases lexer.ends_or_cuts with hEnds |
        ⟨gap, lexeme, behind, hCuts⟩
      · rw [scan_of_ok hEnds.next_eq,
          TokenStream.push_of_end rfl]
        exact ⟨nofun, nofun⟩
      · have hExcerpt := hCuts.excerpt
        rcases hNext : lexer.next with ⟨fault | token, after⟩
        · rw [hNext] at hExcerpt
          rw [scan_of_error hNext]
          refine ⟨nofun, ?_⟩
          rintro _ ⟨⟩
          exact ⟨next_fault hNext, hExcerpt⟩
        · have hKind := hCuts.kind_ne_endOfText token
          have hBehind := hCuts.rest_after
          rw [hNext] at hExcerpt hKind hBehind
          have hRest : lexer.rest = gap ++ lexeme ++ behind := by
            rw [hCuts.rest_eq, List.append_assoc]
          have hSuffix : after.rest <:+ lexer.rest :=
            ⟨gap ++ lexeme, by rw [hRest, hBehind]⟩
          have hLess : after.rest.length < length := by
            have hPositive :=
              List.length_pos_iff.mpr hCuts.lexeme_ne_nil
            rw [← hLength, hRest, hBehind,
              List.length_append, List.length_append]
            omega
          have hOthers := ih _ hLess after rfl
          rw [scan_of_ok hNext,
            TokenStream.push_of_ne_end (hKind rfl)]
          refine ⟨?_, ?_⟩
          · intro other hMem
            rcases List.mem_cons.mp hMem with rfl | hMem
            · exact hExcerpt
            · exact
                (hOthers.token other hMem).of_suffix hSuffix
          · intro fault hFault
            rcases hOthers.fault fault hFault with
              ⟨hInvalid, hLiteral⟩
            exact ⟨hInvalid, hLiteral.of_suffix hSuffix⟩

end Lexer

------------------------------------------------------------
-- Single Lines
------------------------------------------------------------

/- A text without line feeds and carriage returns. -/
def OneLine (text : String) : Prop :=
  '\n' ∉ text.toList ∧ '\r' ∉ text.toList

instance (text : String) : Decidable (OneLine text) := by
  unfold OneLine
  infer_instance

/- Two parts of a line are one line. -/
theorem OneLine.append
    {front back : String}
    (hFront : OneLine front)
    (hBack : OneLine back) :
    OneLine (front ++ back) := by
  unfold OneLine
  rw [String.toList_append, List.mem_append, List.mem_append]
  exact
    ⟨not_or.mpr ⟨hFront.1, hBack.1⟩,
      not_or.mpr ⟨hFront.2, hBack.2⟩⟩

/- A text without blanks is one line. -/
theorem Unbroken.oneLine
    {text : String}
    (h : Unbroken text) :
    OneLine text :=
  ⟨fun hMem => h _ hMem (by decide),
    fun hMem => h _ hMem (by decide)⟩

/- The names of kinds are single lines. -/
theorem Kind.name_oneLine
    (kind : Kind) :
    OneLine kind.name := by
  cases kind <;> decide

namespace ParseError

/- A token that is named in a message is named on one line. -/
private theorem named_oneLine
    {token : Token}
    (h : OneLine token.literal) :
    OneLine
      (token.kind.name ++ " \"" ++ token.literal ++ "\"") :=
  ((token.kind.name_oneLine.append (by decide)).append
    h).append (by decide)

/-
  A message is one line when the text that it quotes and what
  it expects are.
-/
theorem message_oneLine
    {fault : ParseError}
    (hLiteral : OneLine fault.literal)
    (hExpected :
      ∀ expected ∈ fault.expected?, OneLine expected) :
    OneLine fault.message := by
  have hParts {front back : String} :=
    @OneLine.append front back
  cases fault with
  | invalidNumber literal kind =>
      exact
        hParts (hParts (by decide) hLiteral) (by decide)
  | unexpectedToken expected found =>
      exact
        hParts
          (hParts (hParts (by decide) (hExpected _ rfl))
            (by decide))
          (named_oneLine hLiteral)
  | unmatchedParenthesis found =>
      exact hParts (by decide) (named_oneLine hLiteral)
  | tooDeep => decide

end ParseError

------------------------------------------------------------
-- Faults of Texts
------------------------------------------------------------

/-
  A fault quotes a text: its literal stands in the text and
  holds no blank, and it is empty only at the end of the text
  or where nesting is too deep.  The message is one line.
-/
structure ParseError.Quotes
    (fault : ParseError)
    (text : List Char) : Prop where
  isInfix : fault.literal.toList <:+: text
  unbroken : Unbroken fault.literal
  of_empty :
    fault.literal = "" →
      fault = .tooDeep ∨ fault.kind? = some .endOfText
  oneLine : OneLine fault.message

namespace ParseError

/- A fault that quotes an excerpt quotes the text. -/
theorem quotes_of_excerpt
    {fault : ParseError}
    {text : List Char}
    (h : Excerpt text fault.literal.toList)
    (hExpected :
      ∀ expected ∈ fault.expected?, OneLine expected) :
    fault.Quotes text where
  isInfix := h.isInfix
  unbroken := h.not_isBlank
  of_empty hEmpty :=
    absurd (congrArg String.toList hEmpty) h.ne_nil
  oneLine :=
    message_oneLine (Unbroken.oneLine h.not_isBlank)
      hExpected

/- A fault at the end of the text, or of nesting, quotes it. -/
theorem quotes_of_empty
    {fault : ParseError}
    (text : List Char)
    (hLiteral : fault.literal = "")
    (hCause :
      fault = .tooDeep ∨ fault.kind? = some .endOfText)
    (hExpected :
      ∀ expected ∈ fault.expected?, OneLine expected) :
    fault.Quotes text where
  isInfix := by
    rw [hLiteral]
    exact List.nil_infix
  unbroken := by
    rw [hLiteral]
    exact List.forall_mem_nil _
  of_empty _ := hCause
  oneLine :=
    message_oneLine (by rw [hLiteral]; decide) hExpected

end ParseError

namespace Scanner

/-
  A fault that a scanner finds is the lexical one, or it is
  raised because a token, or the end of the text, is rejected.
-/
theorem source_of_faultIn
    {lexical? : Option ParseError}
    {scanner : Scanner}
    {tokens : List Token}
    {fault : ParseError}
    (h : scanner.faultIn lexical? tokens = some fault) :
    lexical? = some fault ∨
      ∃ token, (token ∈ tokens ∨ token = .endOfText) ∧
        ∃ other : Scanner,
          other.verdict token = .reject fault := by
  induction tokens generalizing scanner with
  | nil =>
      unfold faultIn at h
      split at h
      · exact .inl h
      · next found hReject =>
          cases h
          exact .inr ⟨_, .inr rfl, scanner, hReject⟩
      · cases h
  | cons token tokens ih =>
      unfold faultIn at h
      split at h
      · rcases ih h with hLexical | ⟨other, hMem, hReject⟩
        · exact .inl hLexical
        · refine .inr ⟨other, hMem.imp_left ?_, hReject⟩
          exact List.mem_cons_of_mem token
      · cases h
      · next found hReject =>
          split at h
          · exact .inl h
          · cases h
            exact
              .inr
                ⟨token, .inl List.mem_cons_self, scanner,
                  hReject⟩

/- A token is rejected with itself, on one line. -/
theorem quoted_of_reject
    {scanner : Scanner}
    {token : Token}
    {fault : ParseError}
    (h : scanner.verdict token = .reject fault) :
    fault.literal = token.literal ∧
      fault.kind? = some token.kind ∧
      ∀ expected ∈ fault.expected?, OneLine expected := by
  unfold verdict operandVerdict operatorVerdict at h
  repeat' split at h
  all_goals cases h
  all_goals
    refine ⟨rfl, rfl, ?_⟩
    rintro _ ⟨⟩
  all_goals decide

end Scanner

/- A lexical fault of a text quotes it. -/
theorem quotes_of_lexical
    {text : List Char}
    {fault : ParseError}
    (h : (Lexer.streamOf text).2 = some fault) :
    fault.Quotes text := by
  have hStream : (Lexer.streamOf text).Quotes text :=
    Lexer.scan_quotes _
  rcases hStream.fault fault h with ⟨hInvalid, hExcerpt⟩
  apply ParseError.quotes_of_excerpt hExcerpt
  rw [hInvalid]
  exact nofun

/- A fault of a listing quotes the text. -/
theorem quotes_of_tokenize
    {text : String}
    {fault : ParseError}
    (h : tokenize text = .error fault) :
    fault.Quotes text.toList :=
  quotes_of_lexical (tokenize_eq_error_iff_streamOf.mp h)

/- A fault that the scanner finds quotes the text. -/
theorem quotes_of_faultOf
    {text : String}
    {fault : ParseError}
    (h : Scanner.faultOf? text = some fault) :
    fault.Quotes text.toList := by
  have hStream :
      (Lexer.streamOf text.toList).Quotes text.toList :=
    Lexer.scan_quotes _
  rcases Scanner.source_of_faultIn h with
    hLexical | ⟨token, hToken, scanner, hReject⟩
  · exact quotes_of_lexical hLexical
  · rcases Scanner.quoted_of_reject hReject with
      ⟨hLiteral, hKind, hExpected⟩
    rcases hToken with hMem | rfl
    · apply ParseError.quotes_of_excerpt _ hExpected
      rw [hLiteral]
      exact hStream.token token hMem
    · exact
        ParseError.quotes_of_empty _ hLiteral (.inr hKind)
          hExpected

/- A fault of parsing quotes the text, whatever the limit. -/
theorem quotes_of_parseWithin
    {limit : Nat}
    {text : String}
    {fault : ParseError}
    (h : parseWithin limit text = .error fault) :
    fault.Quotes text.toList := by
  have hScans :=
    Parser.wholeText_scans (Parser.roomWithin limit) text
  unfold parseWithin at h
  rcases hRun : parseRun limit text with
    ⟨found | expr, after⟩
  · rw [hRun] at h
    cases h
    rcases (Parser.ends_of_error hRun).mp hScans with
      rfl | hFault
    · exact
        ParseError.quotes_of_empty _ rfl (.inl rfl) nofun
    · exact quotes_of_faultOf hFault
  · rw [hRun] at h
    cases h

------------------------------------------------------------
-- The Diagnostic of the Command
------------------------------------------------------------

/-
  A fault of a text, in a listing or in parsing under any
  limit, quotes a part of the text without blanks, which is
  empty only at the end of the text or where nesting is too
  deep, in a message on one line.  Where the command is not
  verbose and the text that it gets as far as is faulty, its
  diagnostic is this one line.
-/
theorem runCommand_diagnostic
    (text : String)
    (fault : ParseError)
    (h :
      tokenize text = .error fault ∨
        ∃ limit, parseWithin limit text = .error fault) :
    fault.literal.toList <:+: text.toList ∧
      (∀ c ∈ fault.literal.toList, ¬ IsBlank c) ∧
      (fault.literal = "" →
        fault = .tooDeep ∨ fault.kind? = some .endOfText) ∧
      OneLine fault.message ∧
      ∀ arguments input files settings,
        Settings.scan arguments = .ok settings →
        settings.verbose = false →
        settings.subject input files = .ok text →
        (settings.handle text).outcome =
            .error (.rejected fault) →
          ∃ line, OneLine line ∧
            runCommand arguments input files =
              (⟨1, "", line ++ "\n"⟩, files) := by
  have hQuotes : fault.Quotes text.toList := by
    rcases h with hListing | ⟨limit, hParse⟩
    · exact quotes_of_tokenize hListing
    · exact quotes_of_parseWithin hParse
  refine
    ⟨hQuotes.isInfix, hQuotes.unbroken, hQuotes.of_empty,
      hQuotes.oneLine, ?_⟩
  intro arguments input files settings hScan hQuiet hSubject
    hOutcome
  refine
    ⟨"error: " ++ fault.message,
      OneLine.append (by decide) hQuotes.oneLine, ?_⟩
  rw [runCommand_of_subject hScan hSubject]
  unfold Settings.conclusion Settings.deliver Settings.notes
  rw [hOutcome, hQuiet]
  exact
    congrArg (·, files) (Report.withNotes_empty _)

/-
  A line separator that is no line feed is quoted as it is,
  without the line feed in front of it.
-/
theorem diagnostic_of_line_separator :
    let text := "(1\n\u2028.5"
    let fault := ParseError.invalidNumber "\u2028.5" .number
    parseWithin depthLimit text = .error fault ∧
      fault.literal.toList <:+: text.toList ∧
      OneLine fault.message ∧
      ∀ files, ∃ line, OneLine line ∧
        runCommand [text] "" files =
          (⟨1, "", line ++ "\n"⟩, files) := by
  intro text fault
  have hParse : parseWithin depthLimit text = .error fault := by
    decide +kernel
  have hOutcome :
      (Settings.handle { arguments := [text] } text).outcome =
        .error (.rejected fault) :=
    Handling.ofTree_of_error hParse
  rcases runCommand_diagnostic text fault
      (.inr ⟨depthLimit, hParse⟩) with
    ⟨hInfix, _, _, hMessage, hCommand⟩
  refine ⟨hParse, hInfix, hMessage, fun files => ?_⟩
  exact
    hCommand [text] "" files { arguments := [text] }
      (by decide +kernel) rfl rfl hOutcome

end ArithExpr
