import ArithExpr.Proofs.Lexer.Stream
import Mathlib.Data.List.Chain

/-
  Texts as tokens with blanks between them.

  A spelling is a list of lexemes, each followed by a gap of
  blanks, behind a first gap.  A gap may be empty unless it
  stands between two numbers.  A text is read as given tokens
  exactly when it has a spelling with these tokens.

  Key definitions include:
    * `Piece`
    * `Piece.Apart`
    * `Spelling`
    * `Spelling.tokens`
    * `Spelling.chars`

  Main declarations:
    * `Spelling.streamOf_chars`
    * `Spelling.exists_of_streamOf`
    * `tokenize_eq_ok_iff_spelling`
-/

------------------------------------------------------------
-- Pieces and Spellings
------------------------------------------------------------

namespace ArithExpr

/- A lexeme with the gap of blanks behind it. -/
structure Piece where
  token : Token
  gap : List Char
  isLexeme : token.IsLexeme
  isBlank : ∀ c ∈ gap, IsBlank c

namespace Piece

/- Two numbers have a blank between them. -/
def Apart
    (left right : Piece) : Prop :=
  left.token.kind = .number →
    right.token.kind = .number → left.gap ≠ []

/- The characters of a piece. -/
def chars (piece : Piece) : List Char :=
  piece.token.literal.toList ++ piece.gap

end Piece

/- A first gap, and pieces of which no two run together. -/
structure Spelling where
  lead : List Char
  pieces : List Piece
  isBlank : ∀ c ∈ lead, IsBlank c
  apart : pieces.IsChain Piece.Apart

namespace Spelling

/- The tokens that are spelled. -/
def tokens (spelling : Spelling) : List Token :=
  spelling.pieces.map Piece.token

/- The characters of a spelling, in order. -/
def chars (spelling : Spelling) : List Char :=
  spelling.lead ++ spelling.pieces.flatMap Piece.chars

end Spelling

end ArithExpr

------------------------------------------------------------
-- Spellings Are Read
------------------------------------------------------------

namespace ArithExpr

/- What is not a number does not start like one. -/
theorem Piece.stopsNumber_chars
    {piece : Piece}
    (after : List Char)
    (hKind : piece.token.kind ≠ .number) :
    StopsNumber (piece.chars ++ after) := by
  rcases piece.isLexeme with ⟨c, hChar, hLiteral⟩ |
    ⟨hNumber, _⟩
  · intro d hHead
    have hSame : c = d := by
      simpa [chars, hLiteral] using hHead
    rw [← hSame]
    exact (Kind.operators_apart _
      (Kind.mem_operators hChar)).2
  · exact absurd hNumber hKind

/- A number cannot go on behind its gap. -/
theorem Piece.stopsNumber_gap
    {piece : Piece}
    {pieces : List Piece}
    (hApart : (piece :: pieces).IsChain Piece.Apart)
    (hKind : piece.token.kind = .number) :
    StopsNumber
      (piece.gap ++ pieces.flatMap Piece.chars) := by
  cases hGap : piece.gap with
  | cons c gap =>
      intro d hHead hPart
      have hSame : c = d := by
        simpa using hHead
      have hBlank : IsBlank c :=
        piece.isBlank c (by simp [hGap])
      rw [← hSame] at hPart
      exact not_isBlank_of_isNumberPart hPart hBlank
  | nil =>
      cases pieces with
      | nil =>
          intro d hHead
          cases hHead
      | cons next pieces =>
          have hNext : next.token.kind ≠ .number := by
            intro hNumber
            exact (List.isChain_cons_cons.mp hApart).1
              hKind hNumber hGap
          simpa using
            Piece.stopsNumber_chars
              (pieces.flatMap Piece.chars) hNext

/- A piece is read as its token. -/
theorem Piece.streamOf_chars
    {piece : Piece}
    {pieces : List Piece}
    (hApart : (piece :: pieces).IsChain Piece.Apart) :
    Lexer.streamOf
        ((piece :: pieces).flatMap Piece.chars) =
      (Lexer.streamOf
        (pieces.flatMap Piece.chars)).push piece.token := by
  have hChars :
      (piece :: pieces).flatMap Piece.chars =
        piece.token.literal.toList ++
          (piece.gap ++ pieces.flatMap Piece.chars) := by
    simp [chars]
  rw [hChars,
    ← Lexer.streamOf_blanks (pieces.flatMap Piece.chars)
      piece.isBlank]
  rcases piece.isLexeme with ⟨c, hLexeme⟩ | ⟨hKind, _⟩
  · have hOperator :=
      Token.ofOperator?_eq_some_iff.mpr hLexeme
    rw [hLexeme.2, String.toList_singleton,
      List.singleton_append]
    exact Lexer.streamOf_operator _ hOperator
  · exact Lexer.streamOf_number hKind
      (Piece.stopsNumber_gap hApart hKind)

/- A spelling is read as its tokens. -/
theorem Spelling.streamOf_chars
    (spelling : Spelling) :
    Lexer.streamOf spelling.chars =
      (spelling.tokens, none) := by
  rcases spelling with ⟨lead, pieces, hLead, hApart⟩
  unfold chars tokens
  rw [Lexer.streamOf_blanks _ hLead]
  induction pieces with
  | nil => exact Lexer.streamOf_nil
  | cons piece pieces ih =>
      rw [Piece.streamOf_chars hApart,
        ih hApart.of_cons,
        TokenStream.push_of_ne_end
          piece.isLexeme.kind_ne_endOfText]
      rfl

end ArithExpr

------------------------------------------------------------
-- Texts That Are Read Have Spellings
------------------------------------------------------------

namespace ArithExpr

namespace Spelling

/- A blank goes into the first gap. -/
def pad
    (spelling : Spelling)
    (c : Char)
    (hBlank : IsBlank c) : Spelling where
  lead := c :: spelling.lead
  pieces := spelling.pieces
  isBlank := by
    intro d hMem
    rcases List.mem_cons.mp hMem with rfl | hMem
    · exact hBlank
    · exact spelling.isBlank d hMem
  apart := spelling.apart

/-
  A lexeme goes in front, with the first gap behind it.  A
  number must stop where the rest begins.
-/
def push
    (spelling : Spelling)
    (token : Token)
    (hLexeme : token.IsLexeme)
    (hStops :
      token.kind = .number →
        StopsNumber spelling.chars) : Spelling where
  lead := []
  pieces :=
    ⟨token, spelling.lead, hLexeme, spelling.isBlank⟩ ::
      spelling.pieces
  isBlank := by
    rintro c ⟨⟩
  apart := by
    rcases spelling with ⟨lead, pieces, hLead, hApart⟩
    cases pieces with
    | nil => exact .singleton _
    | cons next pieces =>
        refine .cons_cons ?_ hApart
        intro hNumber hNext hGap
        have hParts :=
          (next.token.isNumeral hNext).isNumberPart
        cases hLiteral : next.token.literal.toList with
        | nil =>
            exact (next.token.isNumeral hNext).ne_nil
              hLiteral
        | cons c others =>
            rw [hLiteral] at hParts
            apply hStops hNumber c
            · simp_all [chars, Piece.chars]
            · exact hParts c List.mem_cons_self

/- The lexeme in front is the first token. -/
theorem tokens_push
    (spelling : Spelling)
    (token : Token)
    (hLexeme : token.IsLexeme)
    (hStops :
      token.kind = .number →
        StopsNumber spelling.chars) :
    (spelling.push token hLexeme hStops).tokens =
      token :: spelling.tokens :=
  rfl

/- The lexeme in front comes before all other characters. -/
theorem chars_push
    (spelling : Spelling)
    (token : Token)
    (hLexeme : token.IsLexeme)
    (hStops :
      token.kind = .number →
        StopsNumber spelling.chars) :
    (spelling.push token hLexeme hStops).chars =
      token.literal.toList ++ spelling.chars := by
  simp [push, chars, Piece.chars]

/- A text that is read to its end has a spelling. -/
theorem exists_of_streamOf
    {text : List Char}
    {tokens : List Token}
    (h : Lexer.streamOf text = (tokens, none)) :
    ∃ spelling : Spelling,
      spelling.tokens = tokens ∧ spelling.chars = text := by
  induction text using Lexer.text_induction
    generalizing tokens with
  | nil =>
      rw [Lexer.streamOf_nil] at h
      cases h
      exact ⟨⟨[], [], nofun, .nil⟩, rfl, rfl⟩
  | blank c others hBlank ih =>
      rw [Lexer.streamOf_blank others hBlank] at h
      rcases ih h with ⟨spelling, hTokens, hChars⟩
      refine ⟨spelling.pad c hBlank, hTokens, ?_⟩
      rw [← hChars]
      rfl
  | operator c others token hOperator ih =>
      have hSpelled :=
        Token.ofOperator?_eq_some_iff.mp hOperator
      have hLexeme : token.IsLexeme := .inl ⟨c, hSpelled⟩
      rw [Lexer.streamOf_operator others hOperator,
        TokenStream.push_of_ne_end
          hLexeme.kind_ne_endOfText,
        Prod.mk.injEq] at h
      rcases h with ⟨rfl, hNone⟩
      rcases ih (Prod.ext rfl hNone) with
        ⟨spelling, hTokens, hChars⟩
      have hNumber : token.kind ≠ .number :=
        Kind.ofOperator?_ne_number hSpelled.1
      refine
        ⟨spelling.push token hLexeme
          (fun hKind => absurd hKind hNumber), ?_, ?_⟩
      · rw [tokens_push, hTokens]
      · rw [chars_push, hSpelled.2, hChars,
          String.toList_singleton, List.singleton_append]
  | run c others hBlank hOperator ih =>
      rw [Lexer.streamOf_run others hBlank hOperator] at h
      split at h
      · cases h
      · next token hChecked =>
          rw [Token.checked_eq_ok_iff] at hChecked
          rcases hChecked with ⟨hKind, hLiteral⟩
          have hLexeme : token.IsLexeme :=
            .inr ⟨hKind, token.isNumeral hKind⟩
          rw [TokenStream.push_of_ne_end
            hLexeme.kind_ne_endOfText,
            Prod.mk.injEq] at h
          rcases h with ⟨rfl, hNone⟩
          rcases ih (Prod.ext rfl hNone) with
            ⟨spelling, hTokens, hChars⟩
          have hStops : StopsNumber spelling.chars := by
            rw [hChars]
            exact stopsNumber_dropWhile others
          refine
            ⟨spelling.push token hLexeme
              (fun _ => hStops), ?_, ?_⟩
          · rw [tokens_push, hTokens]
          · rw [chars_push, hLiteral, hChars,
              String.toList_ofList, List.cons_append,
              List.takeWhile_append_dropWhile]

end Spelling

------------------------------------------------------------
-- Tokens of a Text
------------------------------------------------------------

/-
  A text is read as given tokens, with the end of the text
  behind them, exactly when it is spelled by them.  Nothing
  else is ever read: the end comes once, as the last token,
  and every number reaches as far as it can.
-/
theorem tokenize_eq_ok_iff_spelling
    (text : String) :
    (∀ tokens,
      tokenize text = .ok (tokens ++ [.endOfText]) ↔
        ∃ spelling : Spelling,
          spelling.tokens = tokens ∧
            spelling.chars = text.toList) ∧
      (∀ all, tokenize text = .ok all →
        ∃ tokens, all = tokens ++ [.endOfText] ∧
          ∀ token ∈ tokens, token.kind ≠ .endOfText) ∧
      (∀ (spelling : Spelling) front piece back,
        spelling.pieces = front ++ piece :: back →
          piece.token.kind = .number →
          StopsNumber
            (piece.gap ++ back.flatMap Piece.chars)) := by
  refine ⟨?_, ?_, ?_⟩
  · intro tokens
    rw [tokenize_eq_ok_iff_streamOf]
    constructor
    · rintro ⟨_, hStream, hTokens⟩
      rw [List.append_cancel_right hTokens]
      exact Spelling.exists_of_streamOf hStream
    · rintro ⟨spelling, hTokens, hChars⟩
      refine ⟨tokens, ?_, rfl⟩
      rw [← hChars, spelling.streamOf_chars, hTokens]
  · intro all hAll
    rcases tokenize_eq_ok_iff_streamOf.mp hAll with
      ⟨tokens, hStream, hTokens⟩
    refine ⟨tokens, hTokens, ?_⟩
    intro token hMem
    have hLexeme :=
      Lexer.isLexeme_of_mem_streamOf text.toList token
    rw [hStream] at hLexeme
    exact (hLexeme hMem).kind_ne_endOfText
  · intro spelling front piece back hPieces hKind
    have hApart := spelling.apart
    rw [hPieces] at hApart
    exact Piece.stopsNumber_gap
      (List.isChain_append.mp hApart).2.1 hKind

/- Two numbers with a blank between them. -/
def Spelling.twoNumbers : Spelling where
  lead := []
  pieces :=
    [⟨⟨.number, "1.", fun _ => rfl⟩, [' '],
        .inr ⟨rfl, rfl⟩, by simp [IsBlank]⟩,
      ⟨⟨.number, ".5", fun _ => rfl⟩, [],
        .inr ⟨rfl, rfl⟩, nofun⟩]
  isBlank := nofun
  apart := .cons_cons nofun (.singleton _)

/- The blank keeps the two numbers apart. -/
theorem tokenize_two_numbers :
    Spelling.twoNumbers.chars = "1. .5".toList ∧
      tokenize "1. .5" =
        .ok (Spelling.twoNumbers.tokens ++
          [.endOfText]) ∧
      (∀ token ∈ Spelling.twoNumbers.tokens,
        token.kind ≠ .endOfText) ∧
      StopsNumber " .5".toList := by
  have hChars :
      Spelling.twoNumbers.chars = "1. .5".toList :=
    rfl
  rcases tokenize_eq_ok_iff_spelling "1. .5" with
    ⟨hIff, hEnd, hStops⟩
  have hTokenize :=
    (hIff Spelling.twoNumbers.tokens).mpr
      ⟨Spelling.twoNumbers, rfl, hChars⟩
  rcases hEnd _ hTokenize with ⟨tokens, hTokens, hKinds⟩
  rw [List.append_cancel_right hTokens]
  refine ⟨hChars, ?_, hKinds, ?_⟩
  · rw [hTokenize, List.append_cancel_right hTokens]
  · exact hStops Spelling.twoNumbers [] _ _ rfl rfl

end ArithExpr
