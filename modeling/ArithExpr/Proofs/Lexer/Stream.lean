import ArithExpr.Lexer
import Mathlib.Data.List.TakeWhile

/-
  The stream of tokens of a text, by the way the text begins.

  A stream is what `Lexer.scan` answers: the tokens before the
  end of the text, and the fault that cut them short.  It
  depends only on the characters that are left, and is empty,
  skips a blank, or starts with an operator or with a run that
  is a number or a fault.

  Key definitions include:
    * `TokenStream`
    * `TokenStream.push`
    * `Lexer.streamOf`
    * `StopsNumber`

  Main declarations:
    * `Lexer.scan_of_ok`
    * `Lexer.scan_eq_streamOf`
    * `Lexer.text_induction`
    * `Lexer.streamOf_blank`
    * `Lexer.streamOf_operator`
    * `Lexer.streamOf_number`
-/

------------------------------------------------------------
-- Characters of Tokens
------------------------------------------------------------

namespace ArithExpr

/- An operator character stands in the table of operators. -/
theorem Kind.mem_operators
    {c : Char}
    {kind : Kind}
    (h : Kind.ofOperator? c = some kind) :
    (c, kind) ∈ Kind.operators := by
  simp only [Kind.ofOperator?, Kind.operators,
    List.lookup_cons, List.lookup_nil] at h
  repeat' split at h
  all_goals
    simp_all [Kind.operators]

/- An operator character is neither blank nor in a number. -/
theorem Kind.operators_apart :
    ∀ entry ∈ Kind.operators,
      ¬ IsBlank entry.1 ∧ ¬ IsNumberPart entry.1 := by
  decide

/- A token of an operator character spells that character. -/
theorem Token.ofOperator?_eq_some_iff
    {c : Char}
    {token : Token} :
    Token.ofOperator? c = some token ↔
      Kind.ofOperator? c = some token.kind ∧
        token.literal = String.singleton c := by
  unfold Token.ofOperator?
  constructor
  · intro h
    split at h
    · next hKind =>
        cases h
        exact ⟨hKind, rfl⟩
    · cases h
  · rintro ⟨hKind, hLiteral⟩
    split
    · next kind hOther =>
        rw [hKind] at hOther
        cases hOther
        exact congrArg some (Token.ext rfl hLiteral.symm)
    · next hNone =>
        rw [hKind] at hNone
        cases hNone

/- An operator character is not a blank. -/
theorem not_isBlank_of_operator
    {c : Char}
    {token : Token}
    (h : Token.ofOperator? c = some token) :
    ¬ IsBlank c :=
  (Kind.operators_apart _ (Kind.mem_operators
    (Token.ofOperator?_eq_some_iff.mp h).1)).1

/- A character of a number is no operator. -/
theorem Token.ofOperator?_of_isNumberPart
    {c : Char}
    (hPart : IsNumberPart c) :
    Token.ofOperator? c = none := by
  cases h : Token.ofOperator? c with
  | none => rfl
  | some token =>
      exact absurd hPart
        (Kind.operators_apart _ (Kind.mem_operators
          (Token.ofOperator?_eq_some_iff.mp h).1)).2

/- A character of a number is not a blank. -/
theorem not_isBlank_of_isNumberPart
    {c : Char}
    (hPart : IsNumberPart c) :
    ¬ IsBlank c := by
  rintro (rfl | rfl | rfl | rfl) <;> revert hPart <;> decide

------------------------------------------------------------
-- Characters of Numerals
------------------------------------------------------------

/- A numeral has a character. -/
theorem IsNumeral.ne_nil
    {text : List Char}
    (h : IsNumeral text) :
    text ≠ [] := by
  rintro rfl
  cases h

/- A numeral is made of digits and points. -/
theorem IsNumeral.isNumberPart
    {text : List Char}
    (h : IsNumeral text) :
    ∀ c ∈ text, IsNumberPart c := by
  have hWhole :
      ∀ c ∈ text.takeWhile Char.isDigit, IsNumberPart c :=
    fun c hMem => .inl (List.mem_takeWhile_imp hMem)
  intro c hMem
  rw [← List.takeWhile_append_dropWhile
    (p := Char.isDigit) (l := text),
    List.mem_append] at hMem
  rcases hMem with hMem | hMem
  · exact hWhole c hMem
  · unfold IsNumeral Numeral.read? at h
    split at h
    · next hDrop =>
        rw [hDrop] at hMem
        cases hMem
    · next point fraction hDrop =>
        rw [hDrop] at hMem
        dsimp only at h
        split at h
        · next hPoint =>
            rcases List.mem_cons.mp hMem with rfl | hMem
            · exact .inr hPoint.1
            · exact .inl
                (List.all_eq_true.mp hPoint.2.1 c hMem)
        · cases h

/- Where no character of a number follows, a number stops. -/
def StopsNumber (text : List Char) : Prop :=
  ∀ c ∈ text.head?, ¬ IsNumberPart c

/- A run of number characters is cut off where it stops. -/
theorem takeWhile_append_of_stops
    {run after : List Char}
    (hRun : ∀ c ∈ run, IsNumberPart c)
    (hStops : StopsNumber after) :
    (run ++ after).takeWhile (fun c => IsNumberPart c) =
        run ∧
      (run ++ after).dropWhile (fun c => IsNumberPart c) =
        after := by
  have hAll :
      ∀ c ∈ run, decide (IsNumberPart c) = true := by
    intro c hMem
    exact decide_eq_true (hRun c hMem)
  rw [List.takeWhile_append_of_pos hAll,
    List.dropWhile_append_of_pos hAll]
  cases after with
  | nil => simp
  | cons c after =>
      have hStop := hStops c rfl
      simp [hStop]

/- A run is made of number characters. -/
theorem isNumberPart_of_mem_takeWhile
    {text : List Char}
    {c : Char}
    (h : c ∈ text.takeWhile fun c => IsNumberPart c) :
    IsNumberPart c := by
  have hDecide := List.mem_takeWhile_imp h
  exact of_decide_eq_true hDecide

/- What is left behind a run does not go on with it. -/
theorem stopsNumber_dropWhile
    (text : List Char) :
    StopsNumber
      (text.dropWhile fun c => IsNumberPart c) := by
  intro c hHead hPart
  have hNot :=
    List.head?_dropWhile_not
      (fun c => decide (IsNumberPart c)) text
  rw [Option.mem_def.mp hHead] at hNot
  simp [hPart] at hNot

end ArithExpr

------------------------------------------------------------
-- Reading One Token
------------------------------------------------------------

namespace ArithExpr

namespace Lexer

/- Positions with the same characters left are alike. -/
@[ext] theorem ext
    {left right : Lexer}
    (hText : left.text = right.text)
    (hIndex : left.index = right.index) :
    left = right := by
  rcases left with ⟨text, index, rest, hRest⟩
  rcases right with ⟨text', index', rest', hRest'⟩
  subst hText
  subst hIndex
  subst hRest
  subst hRest'
  rfl

/- Moving on in two steps is moving on by their sum. -/
theorem advance_advance
    (lexer : Lexer)
    (first second : Nat) :
    (lexer.advance first).advance second =
      lexer.advance (first + second) := by
  apply Lexer.ext
  · rfl
  · exact Nat.add_assoc _ _ _

/- Moving on over some of what is left leaves the others. -/
theorem advance_rest_of_append
    {lexer : Lexer}
    {front back : List Char}
    (h : lexer.rest = front ++ back) :
    (lexer.advance front.length).rest = back := by
  simp [advance, h]

/- At the end of the text there is no token to read. -/
theorem next_of_nil
    {lexer : Lexer}
    (h : lexer.rest = []) :
    lexer.next = (.ok .endOfText, lexer) := by
  have hSkip : lexer.skipBlanks = lexer := by
    simp only [skipBlanks, h, List.takeWhile_nil,
      List.length_nil]
    apply Lexer.ext <;> rfl
  unfold next readToken
  rw [hSkip]
  simp [peek?, h]

/- A blank is skipped. -/
theorem next_of_blank
    {lexer : Lexer}
    {c : Char}
    {others : List Char}
    (h : lexer.rest = c :: others)
    (hBlank : IsBlank c) :
    lexer.next = (lexer.advance 1).next := by
  have hRest : (lexer.advance 1).rest = others := by
    simp [advance, h]
  have hSkip :
      lexer.skipBlanks = (lexer.advance 1).skipBlanks := by
    unfold skipBlanks
    rw [advance_advance, hRest, h]
    simp [hBlank, Nat.add_comm]
  unfold next
  rw [hSkip]

/- Where no blank stands, nothing is skipped. -/
theorem skipBlanks_of_not_isBlank
    {lexer : Lexer}
    {c : Char}
    {others : List Char}
    (h : lexer.rest = c :: others)
    (hBlank : ¬ IsBlank c) :
    lexer.skipBlanks = lexer := by
  unfold skipBlanks
  rw [h, List.takeWhile_cons_of_neg (by simpa using hBlank)]
  apply Lexer.ext <;> rfl

/- An operator character is read as its token. -/
theorem next_of_operator
    {lexer : Lexer}
    {c : Char}
    {others : List Char}
    {token : Token}
    (h : lexer.rest = c :: others)
    (hOperator : Token.ofOperator? c = some token) :
    lexer.next = (.ok token, lexer.advance 1) := by
  unfold next readToken
  rw [skipBlanks_of_not_isBlank h
    (not_isBlank_of_operator hOperator)]
  simp [peek?, h, hOperator]

/-
  Any other character is read with the number characters
  after it, as a number or as a fault.
-/
theorem next_of_run
    {lexer : Lexer}
    {c : Char}
    {others : List Char}
    (h : lexer.rest = c :: others)
    (hBlank : ¬ IsBlank c)
    (hOperator : Token.ofOperator? c = none) :
    lexer.next =
      (Token.checked .number
          (String.ofList
            (c :: others.takeWhile fun c => IsNumberPart c)),
        lexer.advance
          (1 + (others.takeWhile fun c =>
            IsNumberPart c).length)) := by
  unfold next readToken
  rw [skipBlanks_of_not_isBlank h hBlank]
  simp [peek?, readNumber, numberTail, h, hOperator]

end Lexer

end ArithExpr

------------------------------------------------------------
-- Streams
------------------------------------------------------------

namespace ArithExpr

/-
  The tokens before the end of a text, and the fault that cut
  them short, if there is one.
-/
abbrev TokenStream : Type :=
  List Token × Option ParseError

/- A stream behind one more token.  Nothing follows the end. -/
def TokenStream.push
    (stream : TokenStream)
    (token : Token) : TokenStream :=
  if token.kind = .endOfText then
    ([], none)
  else
    (token :: stream.1, stream.2)

/- The end of the text cuts off what follows it. -/
theorem TokenStream.push_of_end
    {stream : TokenStream}
    {token : Token}
    (hEnd : token.kind = .endOfText) :
    stream.push token = ([], none) :=
  if_pos hEnd

/- Any other token stands in front of what follows it. -/
theorem TokenStream.push_of_ne_end
    {stream : TokenStream}
    {token : Token}
    (hKind : token.kind ≠ .endOfText) :
    stream.push token = (token :: stream.1, stream.2) :=
  if_neg hKind

/- A stream behind a token is not cut short at its start. -/
theorem TokenStream.push_fault_of_nil
    {stream : TokenStream}
    {token : Token}
    (h : (stream.push token).1 = []) :
    (stream.push token).2 = none := by
  by_cases hEnd : token.kind = .endOfText
  · rw [push_of_end hEnd]
  · rw [push_of_ne_end hEnd] at h
    cases h

namespace Lexer

/- Scanning ends at a fault. -/
private theorem scanFrom_of_error
    {lexer after : Lexer}
    {fault : ParseError}
    (h : lexer.next = (.error fault, after))
    (seen : Array Token) :
    lexer.scanFrom seen = (seen, some fault) := by
  rw [scanFrom]
  split
  · next hOther =>
      rw [h] at hOther
      cases hOther
      rfl
  · next hOther =>
      rw [h] at hOther
      cases hOther

/- Scanning goes on after a token other than the end. -/
private theorem scanFrom_of_ok
    {lexer after : Lexer}
    {token : Token}
    (h : lexer.next = (.ok token, after))
    (seen : Array Token) :
    lexer.scanFrom seen =
      if token.kind = .endOfText then
        (seen, none)
      else
        after.scanFrom (seen.push token) := by
  rw [scanFrom]
  split
  · next hOther =>
      rw [h] at hOther
      cases hOther
  · next hOther =>
      rw [h] at hOther
      cases hOther
      rfl

/- Tokens already seen stand in front of what is scanned. -/
private theorem scanFrom_append
    (lexer : Lexer) :
    ∃ stream : TokenStream, ∀ seen,
      lexer.scanFrom seen =
        (seen ++ stream.1.toArray, stream.2) := by
  induction hLength : lexer.rest.length
    using Nat.strong_induction_on generalizing lexer with
  | h length ih =>
      rcases hNext : lexer.next with ⟨fault | token, after⟩
      · refine ⟨([], some fault), ?_⟩
        intro seen
        rw [scanFrom_of_error hNext]
        simp
      · by_cases hEnd : token.kind = .endOfText
        · refine ⟨([], none), ?_⟩
          intro seen
          rw [scanFrom_of_ok hNext, if_pos hEnd]
          simp
        · have hLess : after.rest.length < length := by
            have hProgress := @next_rest_length_lt lexer (by
              rw [hNext]
              rintro _ ⟨⟩
              exact hEnd)
            rwa [hNext, hLength] at hProgress
          rcases ih _ hLess after rfl with
            ⟨stream, hStream⟩
          refine ⟨(token :: stream.1, stream.2), ?_⟩
          intro seen
          rw [scanFrom_of_ok hNext, if_neg hEnd, hStream]
          simp

/- A fault is all that is scanned where reading fails. -/
theorem scan_of_error
    {lexer after : Lexer}
    {fault : ParseError}
    (h : lexer.next = (.error fault, after)) :
    lexer.scan = ([], some fault) := by
  unfold scan
  rw [scanFrom_of_error h]

/- A token stands in front of what is scanned after it. -/
theorem scan_of_ok
    {lexer after : Lexer}
    {token : Token}
    (h : lexer.next = (.ok token, after)) :
    lexer.scan = TokenStream.push after.scan token := by
  unfold scan
  rw [scanFrom_of_ok h]
  by_cases hEnd : token.kind = .endOfText
  · rw [if_pos hEnd, TokenStream.push_of_end hEnd]
  · rcases scanFrom_append after with ⟨stream, hStream⟩
    rw [if_neg hEnd, TokenStream.push_of_ne_end hEnd,
      hStream, hStream]
    simp

/- At the end of the text nothing is scanned. -/
theorem scan_of_nil
    {lexer : Lexer}
    (h : lexer.rest = []) :
    lexer.scan = ([], none) := by
  rw [scan_of_ok (next_of_nil h)]
  exact TokenStream.push_of_end rfl

/- Lexers that read the same token scan the same stream. -/
theorem scan_eq_of_next_eq
    {left right : Lexer}
    (h : left.next = right.next) :
    left.scan = right.scan := by
  rcases hNext : right.next with ⟨fault | token, after⟩
  · rw [scan_of_error hNext, scan_of_error (h.trans hNext)]
  · rw [scan_of_ok hNext, scan_of_ok (h.trans hNext)]

------------------------------------------------------------
-- Streams of Texts
------------------------------------------------------------

/- Moving on over a run leaves what follows the run. -/
theorem advance_run_rest
    {lexer : Lexer}
    {c : Char}
    {others : List Char}
    (h : lexer.rest = c :: others) :
    (lexer.advance
      (1 + (others.takeWhile fun c =>
        IsNumberPart c).length)).rest =
      others.dropWhile fun c => IsNumberPart c := by
  have hAppend :
      lexer.rest =
        (c :: others.takeWhile fun c => IsNumberPart c) ++
          others.dropWhile fun c => IsNumberPart c := by
    rw [h, List.cons_append, List.takeWhile_append_dropWhile]
  have hRest := advance_rest_of_append hAppend
  rwa [List.length_cons, Nat.add_comm] at hRest

/-
  Texts are taken apart as they are read: a blank, an operator
  or a run comes first.
-/
theorem text_induction
    {motive : List Char → Prop}
    (nil : motive [])
    (blank :
      ∀ c others, IsBlank c →
        motive others → motive (c :: others))
    (operator :
      ∀ c others token, Token.ofOperator? c = some token →
        motive others → motive (c :: others))
    (run :
      ∀ c others, ¬ IsBlank c → Token.ofOperator? c = none →
        motive (others.dropWhile fun c => IsNumberPart c) →
        motive (c :: others))
    (text : List Char) :
    motive text := by
  induction hLength : text.length
    using Nat.strong_induction_on generalizing text with
  | h length ih =>
      cases text with
      | nil => exact nil
      | cons c others =>
          have hOthers : others.length < length := by
            rw [← hLength]
            exact Nat.lt_succ_self _
          by_cases hBlank : IsBlank c
          · exact blank c others hBlank
              (ih _ hOthers others rfl)
          · cases hOperator : Token.ofOperator? c with
            | some token =>
                exact operator c others token hOperator
                  (ih _ hOthers others rfl)
            | none =>
                have hDrop :=
                  (List.dropWhile_suffix
                    (fun c => decide (IsNumberPart c))
                    (l := others)).length_le
                exact run c others hBlank hOperator
                  (ih _ (Nat.lt_of_le_of_lt hDrop hOthers)
                    _ rfl)

/- Scanning depends only on the characters that are left. -/
theorem scan_congr
    {left right : Lexer}
    (h : left.rest = right.rest) :
    left.scan = right.scan := by
  induction hText : right.rest using text_induction
    generalizing left right with
  | nil =>
      rw [hText] at h
      rw [scan_of_nil h, scan_of_nil hText]
  | blank c others hBlank ih =>
      rw [hText] at h
      rw [scan_eq_of_next_eq (next_of_blank h hBlank),
        scan_eq_of_next_eq (next_of_blank hText hBlank)]
      apply ih <;> simp [advance, h, hText]
  | operator c others token hOperator ih =>
      rw [hText] at h
      rw [scan_of_ok (next_of_operator h hOperator),
        scan_of_ok (next_of_operator hText hOperator)]
      congr 1
      apply ih <;> simp [advance, h, hText]
  | run c others hBlank hOperator ih =>
      rw [hText] at h
      have hLeft := next_of_run h hBlank hOperator
      have hRight := next_of_run hText hBlank hOperator
      rcases hChecked :
          Token.checked .number
            (String.ofList
              (c :: others.takeWhile fun c =>
                IsNumberPart c)) with fault | token
      · rw [hChecked] at hLeft hRight
        rw [scan_of_error hLeft, scan_of_error hRight]
      · rw [hChecked] at hLeft hRight
        rw [scan_of_ok hLeft, scan_of_ok hRight]
        congr 1
        apply ih
        · rw [advance_run_rest h, advance_run_rest hText]
        · exact advance_run_rest hText

/- The stream of some characters. -/
def streamOf (chars : List Char) : TokenStream :=
  scan ⟨chars, 0, chars, rfl⟩

/- A lexer scans the stream of what is left. -/
theorem scan_eq_streamOf
    (lexer : Lexer) :
    lexer.scan = streamOf lexer.rest :=
  scan_congr rfl

/- The stream of no characters is empty. -/
@[simp] theorem streamOf_nil :
    streamOf [] = ([], none) :=
  scan_of_nil rfl

/- A blank adds nothing to a stream. -/
theorem streamOf_blank
    {c : Char}
    (others : List Char)
    (hBlank : IsBlank c) :
    streamOf (c :: others) = streamOf others := by
  unfold streamOf
  rw [scan_eq_of_next_eq (next_of_blank rfl hBlank)]
  exact scan_congr rfl

/- Any number of blanks adds nothing to a stream. -/
theorem streamOf_blanks
    {blanks : List Char}
    (others : List Char)
    (hBlanks : ∀ c ∈ blanks, IsBlank c) :
    streamOf (blanks ++ others) = streamOf others := by
  induction blanks with
  | nil => rfl
  | cons c blanks ih =>
      rw [List.cons_append,
        streamOf_blank _ (hBlanks c List.mem_cons_self)]
      apply ih
      intro d hMem
      exact hBlanks d (List.mem_cons_of_mem c hMem)

/- An operator stands in front of the stream after it. -/
theorem streamOf_operator
    {c : Char}
    {token : Token}
    (others : List Char)
    (hOperator : Token.ofOperator? c = some token) :
    streamOf (c :: others) =
      (streamOf others).push token := by
  unfold streamOf
  rw [scan_of_ok (next_of_operator rfl hOperator)]
  congr 1
  exact scan_congr rfl

/-
  A run that starts with any other character is a number in
  front of the stream after it, or a fault.
-/
theorem streamOf_run
    {c : Char}
    (others : List Char)
    (hBlank : ¬ IsBlank c)
    (hOperator : Token.ofOperator? c = none) :
    streamOf (c :: others) =
      match Token.checked .number
        (String.ofList
          (c :: others.takeWhile fun c =>
            IsNumberPart c)) with
      | .error fault => ([], some fault)
      | .ok token =>
          (streamOf
            (others.dropWhile fun c =>
              IsNumberPart c)).push token := by
  let lexer : Lexer := ⟨c :: others, 0, c :: others, rfl⟩
  have hNext :=
    @next_of_run lexer c others rfl hBlank hOperator
  unfold streamOf
  rcases hChecked :
      Token.checked .number
        (String.ofList
          (c :: others.takeWhile fun c =>
            IsNumberPart c)) with fault | token
  · rw [hChecked] at hNext
    exact scan_of_error hNext
  · rw [hChecked] at hNext
    rw [scan_of_ok hNext]
    dsimp only
    congr 1
    exact scan_congr (advance_run_rest rfl)

end Lexer

end ArithExpr

------------------------------------------------------------
-- Lexemes
------------------------------------------------------------

namespace ArithExpr

namespace Token

/- A token is checked when its kind and text are as asked. -/
theorem checked_eq_ok_iff
    {kind : Kind}
    {literal : String}
    {token : Token} :
    checked kind literal = .ok token ↔
      token.kind = kind ∧ token.literal = literal := by
  unfold checked ofParts?
  constructor
  · intro h
    split at h
    · next hParts =>
        split at hParts
        · cases hParts
          cases h
          exact ⟨rfl, rfl⟩
        · cases hParts
    · cases h
  · rintro ⟨rfl, rfl⟩
    rw [dif_pos token.isNumeral]

/- Only a number token can fail to be checked. -/
theorem checked_eq_error_iff
    {kind : Kind}
    {literal : String}
    {fault : ParseError} :
    checked kind literal = .error fault ↔
      kind = .number ∧ ¬ IsNumeral literal.toList ∧
        fault = .invalidNumber literal kind := by
  unfold checked ofParts?
  by_cases h : kind = .number → IsNumeral literal.toList
  · rw [dif_pos h]
    constructor
    · rintro ⟨⟩
    · rintro ⟨hKind, hNumeral, _⟩
      exact absurd (h hKind) hNumeral
  · rw [dif_neg h]
    rw [Classical.not_imp] at h
    constructor
    · rintro ⟨⟩
      exact ⟨h.1, h.2, rfl⟩
    · rintro ⟨_, _, rfl⟩
      rfl

/- An operator is spelled by its character. -/
def IsOperator (token : Token) : Prop :=
  ∃ c, Kind.ofOperator? c = some token.kind ∧
    token.literal = String.singleton c

/-
  A lexeme is an operator or a parenthesis spelled by its
  character, or a number spelled by a numeral.
-/
def IsLexeme (token : Token) : Prop :=
  token.IsOperator ∨
    (token.kind = .number ∧ IsNumeral token.literal.toList)

/- The end of the text is no lexeme. -/
theorem IsLexeme.kind_ne_endOfText
    {token : Token}
    (h : token.IsLexeme) :
    token.kind ≠ .endOfText := by
  rcases h with ⟨c, hKind, _⟩ | ⟨hKind, _⟩
  · exact Kind.ofOperator?_ne_endOfText hKind
  · rw [hKind]
    rintro ⟨⟩

end Token

namespace Lexer

/- A number stands in front of the stream after it. -/
theorem streamOf_number
    {token : Token}
    {after : List Char}
    (hKind : token.kind = .number)
    (hStops : StopsNumber after) :
    streamOf (token.literal.toList ++ after) =
      (streamOf after).push token := by
  have hNumeral := token.isNumeral hKind
  have hParts := hNumeral.isNumberPart
  cases hLiteral : token.literal.toList with
  | nil => exact absurd hLiteral hNumeral.ne_nil
  | cons c others =>
      rw [hLiteral] at hParts
      have hFirst : IsNumberPart c :=
        hParts c List.mem_cons_self
      have hRun :=
        takeWhile_append_of_stops
          (fun d hMem =>
            hParts d (List.mem_cons_of_mem c hMem))
          hStops
      have hChecked :
          Token.checked .number
              (String.ofList (c :: others)) =
            .ok token := by
        apply Token.checked_eq_ok_iff.mpr
        refine ⟨hKind, ?_⟩
        rw [← hLiteral, String.ofList_toList]
      rw [List.cons_append,
        streamOf_run _ (not_isBlank_of_isNumberPart hFirst)
          (Token.ofOperator?_of_isNumberPart hFirst),
        hRun.1, hRun.2, hChecked]

/- Every token of a stream is a lexeme. -/
theorem isLexeme_of_mem_streamOf
    (text : List Char) :
    ∀ token ∈ (streamOf text).1, token.IsLexeme := by
  induction text using text_induction with
  | nil => simp
  | blank c others hBlank ih =>
      rwa [streamOf_blank others hBlank]
  | operator c others token hOperator ih =>
      rw [streamOf_operator others hOperator]
      have hLexeme : token.IsLexeme :=
        .inl ⟨c, Token.ofOperator?_eq_some_iff.mp hOperator⟩
      rw [TokenStream.push_of_ne_end
        hLexeme.kind_ne_endOfText]
      simpa using ⟨hLexeme, ih⟩
  | run c others hBlank hOperator ih =>
      rw [streamOf_run others hBlank hOperator]
      split
      · simp
      · next token hChecked =>
          have hKind :=
            (Token.checked_eq_ok_iff.mp hChecked).1
          have hLexeme : token.IsLexeme :=
            .inr ⟨hKind, token.isNumeral hKind⟩
          rw [TokenStream.push_of_ne_end
            hLexeme.kind_ne_endOfText]
          simpa using ⟨hLexeme, ih⟩

end Lexer

------------------------------------------------------------
-- Streams of Whole Texts
------------------------------------------------------------

/- A text is a list of tokens when no fault cuts it short. -/
theorem tokenize_eq_ok_iff_streamOf
    {text : String}
    {all : List Token} :
    tokenize text = .ok all ↔
      ∃ tokens, Lexer.streamOf text.toList = (tokens, none) ∧
        all = tokens ++ [.endOfText] := by
  have hStream :
      (Lexer.ofText text).scan =
        Lexer.streamOf text.toList :=
    rfl
  unfold tokenize
  rw [hStream]
  rcases Lexer.streamOf text.toList with
    ⟨tokens, _ | fault⟩
  · constructor
    · rintro ⟨⟩
      exact ⟨tokens, rfl, rfl⟩
    · rintro ⟨_, hTokens, rfl⟩
      cases hTokens
      rfl
  · constructor
    · rintro ⟨⟩
    · rintro ⟨_, hTokens, _⟩
      cases hTokens

/- A text has a fault when the fault cuts its stream short. -/
theorem tokenize_eq_error_iff_streamOf
    {text : String}
    {fault : ParseError} :
    tokenize text = .error fault ↔
      (Lexer.streamOf text.toList).2 = some fault := by
  have hStream :
      (Lexer.ofText text).scan =
        Lexer.streamOf text.toList :=
    rfl
  unfold tokenize
  rw [hStream]
  rcases Lexer.streamOf text.toList with
    ⟨tokens, _ | found⟩
  · exact ⟨nofun, nofun⟩
  · simp

end ArithExpr
