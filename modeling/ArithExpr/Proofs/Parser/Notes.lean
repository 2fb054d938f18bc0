import ArithExpr.CommandLine.Command
import ArithExpr.Proofs.Parser.Derivation
import ArithExpr.Proofs.Parser.Steps

/-
  What the records of a text say about how it was parsed.

  However parsing ends, the tokens that were noted are those
  that the lexer was asked for, in order.  Where a text is
  parsed, a sign or an operator is noted behind its operands,
  when just one token behind its last one has been read.

  Key definitions include:
    * `Record.tokensIn`
    * `Record.nodesIn`
    * `Expr.Node.record?`
    * `Phrase.nodeEnds`
    * `trace`
    * `Parser.Noted`

  Main declarations:
    * `Parser.State.Moves.noted`
    * `Parser.Reading.noted`
    * `tokensIn_trace`
    * `trace_of_ok`
    * `parse_trace`
-/

------------------------------------------------------------
-- Tokens and Nodes among Records
------------------------------------------------------------

namespace ArithExpr

namespace Record

/- The tokens that were noted. -/
def tokensIn (records : List Record) : List Token :=
  records.filterMap token?

/-
  The records of nodes, each with the tokens that were noted
  before it, behind some tokens that were noted already.
-/
def nodesIn
    (seen : List Token) :
    List Record → List (Record × List Token)
| [] => []
| .token found :: records =>
    nodesIn (seen ++ [found]) records
| .sign literal :: records =>
    (.sign literal, seen) :: nodesIn seen records
| .operator literal :: records =>
    (.operator literal, seen) :: nodesIn seen records

/- The tokens of two lists of records. -/
theorem tokensIn_append
    (front back : List Record) :
    tokensIn (front ++ back) =
      tokensIn front ++ tokensIn back :=
  List.filterMap_append

/- The nodes of two lists of records. -/
theorem nodesIn_append
    (seen : List Token)
    (front back : List Record) :
    nodesIn seen (front ++ back) =
      nodesIn seen front ++
        nodesIn (seen ++ tokensIn front) back := by
  induction front generalizing seen with
  | nil => simp [nodesIn, tokensIn]
  | cons entry front ih =>
      cases entry with
      | token found =>
          simp [nodesIn, tokensIn, token?, ih]
      | sign literal =>
          simp [nodesIn, tokensIn, List.filterMap_cons,
            token?, ih]
      | operator literal =>
          simp [nodesIn, tokensIn, List.filterMap_cons,
            token?, ih]

/- The records of nodes are those that are not of tokens. -/
theorem nodesIn_records
    (seen : List Token)
    (records : List Record) :
    (nodesIn seen records).map Prod.fst =
      records.filter fun entry => entry.token?.isNone := by
  induction records generalizing seen with
  | nil => rfl
  | cons entry records ih =>
      cases entry with
      | token found => simp [nodesIn, token?, ih]
      | sign literal => simp [nodesIn, token?, ih]
      | operator literal => simp [nodesIn, token?, ih]

end Record

/- The record that a node leaves, unless it is a number. -/
def Expr.Node.record? : Expr.Node → Option Record
| .signed _ operator => some (.sign operator)
| .binary _ operator => some (.operator operator)
| .number _ _ | .unknown => none

/-
  The records of the nodes of a phrase, operands first, each
  with the number of tokens up to the last one of the node.
  Parentheses around a node are none of its tokens.
-/
def Phrase.nodeEnds
    {level : Level}
    (start : Nat) :
    Phrase level → List (Record × Nat)
| .number _ _ => []
| .signed token _ inner =>
    inner.nodeEnds (start + 1) ++
      [(.sign token.literal,
        start + (token :: inner.tokens).length)]
| .group _ _ _ _ inner => inner.nodeEnds (start + 1)
| .single _ inner => inner.nodeEnds start
| .binary token _ left right =>
    left.nodeEnds start ++
      right.nodeEnds (start + left.tokens.length + 1) ++
      [(.operator token.literal,
        start +
          (left.tokens ++ token :: right.tokens).length)]

/- The nodes of a phrase are those of its tree. -/
theorem Phrase.nodeEnds_records
    {level : Level}
    (phrase : Phrase level)
    (start : Nat) :
    (phrase.nodeEnds start).map Prod.fst =
      phrase.tree.nodes.filterMap Expr.Node.record? := by
  induction phrase generalizing start with
  | number token hKind =>
      simp [nodeEnds, tree, Expr.Node.record?]
  | signed token hSign inner ih =>
      simp [nodeEnds, tree, Expr.ofSign, Expr.Node.record?,
        ih]
  | group opening closing hOpening hClosing inner ih =>
      exact ih (start + 1)
  | single hLevel inner ih => exact ih start
  | binary token hTakes left right ihLeft ihRight =>
      simp [nodeEnds, tree, Expr.ofOperator,
        Expr.Node.record?, ihLeft, ihRight]

/-
  What the nodes of a phrase leave among the records of some
  tokens: each was noted behind the tokens up to the one after
  its own last token.
-/
def Phrase.notes
    {level : Level}
    (tokens : List Token)
    (start : Nat)
    (phrase : Phrase level) : List (Record × List Token) :=
  (phrase.nodeEnds start).map fun (entry, stop) =>
    (entry, tokens.take (stop + 1))

/- The notes of a sign come behind those of its operand. -/
theorem Phrase.notes_signed
    (tokens : List Token)
    (start : Nat)
    (token : Token)
    (hSign : token.kind.IsSign)
    (inner : Phrase .operand) :
    (Phrase.signed token hSign inner).notes tokens start =
      inner.notes tokens (start + 1) ++
        [(.sign token.literal,
          tokens.take
            (start + (token :: inner.tokens).length + 1))] := by
  simp [notes, nodeEnds]

/- The notes of an operator come behind those of both sides. -/
theorem Phrase.notes_binary
    {level : Level}
    (tokens : List Token)
    (start : Nat)
    (token : Token)
    (hTakes : level.Takes token.kind)
    (left : Phrase level)
    (right : Phrase level.tighter) :
    (Phrase.binary token hTakes left right).notes tokens
        start =
      left.notes tokens start ++
        right.notes tokens (start + left.tokens.length + 1) ++
        [(.operator token.literal,
          tokens.take
            (start +
              (left.tokens ++ token :: right.tokens).length +
              1))] := by
  simp [notes, nodeEnds]

------------------------------------------------------------
-- Records along a Reading
------------------------------------------------------------

namespace Parser

/- The end of the text is not noted. -/
theorem State.moved_log_of_end
    {state : State}
    {token : Token}
    {lexer : Lexer}
    (hEnd : token.kind = .endOfText) :
    (state.moved token lexer).log = state.log := by
  unfold moved recordToken
  rw [if_pos hEnd]

/- Any other token is noted when it is read. -/
theorem State.moved_log_of_ne_end
    {state : State}
    {token : Token}
    {lexer : Lexer}
    (hKind : token.kind ≠ .endOfText) :
    (state.moved token lexer).log =
      state.log.push (.token token) := by
  unfold moved recordToken
  rw [if_neg hKind]
  rfl

/-
  When a number of tokens has been asked for, just these have
  been noted, the others are ahead of the lexer, and the nodes
  that have been noted are given ones.
-/
structure Noted
    (tokens : List Token)
    (asked : Nat)
    (nodes : List (Record × List Token))
    (state : State) : Prop where
  noted_eq :
    Record.tokensIn state.log.toList = tokens.take asked
  ahead_eq : state.lexer.scan.1 = tokens.drop asked
  nodes_eq : Record.nodesIn [] state.log.toList = nodes

section Noted

variable {tokens : List Token}
variable {asked : Nat}
variable {nodes : List (Record × List Token)}
variable {state : State}

/- A token that is ahead is the next one to be noted. -/
theorem Noted.moved
    {token : Token}
    {lexer : Lexer}
    (h : Noted tokens asked nodes state)
    (hNext : state.lexer.next = (.ok token, lexer)) :
    Noted tokens (asked + 1) nodes
      (state.moved token lexer) := by
  have hAhead := h.ahead_eq
  rw [Lexer.scan_of_ok hNext] at hAhead
  by_cases hEnd : token.kind = .endOfText
  · rw [TokenStream.push_of_end hEnd] at hAhead
    have hLength : tokens.length ≤ asked :=
      List.drop_eq_nil_iff.mp hAhead.symm
    have hRest := (Lexer.next_end hNext hEnd).2
    refine ⟨?_, ?_, ?_⟩
    · rw [State.moved_log_of_end hEnd, h.noted_eq,
        List.take_of_length_le hLength,
        List.take_of_length_le (Nat.le_succ_of_le hLength)]
    · rw [State.moved_lexer, Lexer.scan_of_nil hRest,
        List.drop_eq_nil_of_le (Nat.le_succ_of_le hLength)]
    · rw [State.moved_log_of_end hEnd]
      exact h.nodes_eq
  · rw [TokenStream.push_of_ne_end hEnd] at hAhead
    have hAt : tokens[asked]? = some token := by
      rw [← List.head?_drop, ← hAhead]
      rfl
    refine ⟨?_, ?_, ?_⟩
    · rw [State.moved_log_of_ne_end hEnd, Array.toList_push,
        Record.tokensIn_append, h.noted_eq, List.take_add_one,
        hAt]
      rfl
    · rw [State.moved_lexer, ← List.tail_drop, ← hAhead]
      rfl
    · rw [State.moved_log_of_ne_end hEnd, Array.toList_push,
        Record.nodesIn_append, h.nodes_eq]
      simp [Record.nodesIn]

/- A move notes one more token. -/
theorem State.Moves.noted
    {after : State}
    (hMoves : state.Moves after)
    (h : Noted tokens asked nodes state) :
    Noted tokens (asked + 1) nodes after := by
  rcases hMoves with ⟨token, lexer, hNext, rfl⟩
  exact h.moved hNext

/- A node is noted behind the tokens that have been noted. -/
theorem Noted.record
    (h : Noted tokens asked nodes state)
    (entry : Record)
    (hEntry : entry.token? = none) :
    Noted tokens asked
      (nodes ++ [(entry, tokens.take asked)])
      (state.record entry) := by
  have hLog :
      (state.record entry).log.toList =
        state.log.toList ++ [entry] :=
    Array.toList_push
  refine ⟨?_, h.ahead_eq, ?_⟩
  · rw [hLog, Record.tokensIn_append, h.noted_eq]
    simp [Record.tokensIn, hEntry]
  · rw [hLog, Record.nodesIn_append, h.nodes_eq, h.noted_eq]
    cases entry with
    | token found => cases hEntry
    | sign literal => simp [Record.nodesIn]
    | operator literal => simp [Record.nodesIn]

end Noted

/-
  While a phrase is read, its nodes are noted one after the
  other, each with one token behind its own last one.  Before
  and behind the phrase one token more than the current one
  has been read.
-/
theorem Reading.noted
    {level : Level}
    {phrase : Phrase level}
    {before after : State}
    {tokens : List Token}
    {start : Nat}
    {nodes : List (Record × List Token)}
    (hReading : Reading phrase before after)
    (h : Noted tokens (start + 2) nodes before) :
    Noted tokens (start + phrase.tokens.length + 1)
      (nodes ++ phrase.notes tokens start) after := by
  induction hReading generalizing start nodes with
  | number state hNumber =>
      simpa [Phrase.notes, Phrase.nodeEnds,
        Phrase.tokens] using h
  | @signed before middle after inner hSign hMoves _ ih =>
      have hMiddle :
          Noted tokens (start + 1 + 2) nodes middle :=
        hMoves.noted h
      have hNode :=
        (ih hMiddle).record (.sign before.token.literal) rfl
      have hCount :
          start + 1 + inner.tokens.length + 1 =
            start +
              (before.token :: inner.tokens).length + 1 := by
        rw [List.length_cons]
        omega
      rw [hCount, List.append_assoc] at hNode
      rw [Phrase.notes_signed]
      exact hNode
  | @group before middle last after inner hOpening hClosing
      hMoves _ hLast ih =>
      have hEntered :
          Noted tokens (start + 2) nodes
            { before with depth := before.depth + 1 } :=
        ⟨h.noted_eq, h.ahead_eq, h.nodes_eq⟩
      have hMiddle :
          Noted tokens (start + 1 + 2) nodes middle :=
        hMoves.noted hEntered
      have hAfter := hLast.noted (ih hMiddle)
      have hCount :
          start + 1 + inner.tokens.length + 1 + 1 =
            start +
              (before.token ::
                (inner.tokens ++ [last.next])).length + 1 := by
        simp only [List.length_cons, List.length_append,
          List.length_nil]
        omega
      rw [hCount] at hAfter
      exact
        ⟨hAfter.noted_eq, hAfter.ahead_eq, hAfter.nodes_eq⟩
  | single hLevel inner _ ih => exact ih h
  | @binary level before middle between next after left right
      hTakes _ hFirst hSecond _ ihLeft ihRight =>
      have hNext :
          Noted tokens (start + left.tokens.length + 1 + 2)
            (nodes ++ left.notes tokens start) next :=
        hSecond.noted (hFirst.noted (ihLeft h))
      have hNode :=
        (ihRight hNext).record
          (.operator middle.next.literal) rfl
      have hCount :
          start + left.tokens.length + 1 +
              right.tokens.length + 1 =
            start +
              (left.tokens ++
                middle.next :: right.tokens).length + 1 := by
        simp only [List.length_cons, List.length_append]
        omega
      rw [hCount, List.append_assoc nodes,
        List.append_assoc nodes] at hNode
      rw [Phrase.notes_binary]
      exact hNode

/- Before a text is read nothing has been noted. -/
theorem noted_ofLexer
    (lexer : Lexer) :
    Noted lexer.scan.1 0 [] (State.ofLexer lexer) :=
  ⟨rfl, rfl, rfl⟩

end Parser

------------------------------------------------------------
-- Traces of Whole Texts
------------------------------------------------------------

/- The records that are made while a text is parsed. -/
def trace
    (limit : Nat)
    (text : String) : List Record :=
  (parseRun limit text).2.log.toList

/-
  However parsing ends, the tokens that were noted are those
  that the lexer was asked for and could read.
-/
theorem tokensIn_trace
    (limit : Nat)
    (text : String) :
    Record.tokensIn (trace limit text) =
      (Lexer.ofText text).scan.1.take
        (tokensAsked limit text) := by
  let tokens := (Lexer.ofText text).scan.1
  let invariant (state : Parser.State) : Prop :=
    ∃ nodes, Parser.Noted tokens state.asked nodes state
  let fails (state : Parser.State) : Prop :=
    Record.tokensIn state.log.toList =
      tokens.take state.asked
  have hAdvance :
      ∀ state, invariant state →
        Parser.advance.Ends state
          (fun _ => invariant) (fun _ => fails) := by
    rintro state ⟨nodes, hNoted⟩
    apply Parser.ends_advance
    · intro token lexer hNext
      refine ⟨nodes, ?_⟩
      rw [Parser.State.moved_asked]
      exact hNoted.moved hNext
    · -- behind a fault no token is left that could be noted
      intro fault lexer hNext
      have hAhead := hNoted.ahead_eq
      rw [Lexer.scan_of_error hNext] at hAhead
      have hLength : tokens.length ≤ state.asked :=
        List.drop_eq_nil_iff.mp hAhead.symm
      change Record.tokensIn state.log.toList =
        tokens.take (state.asked + 1)
      rw [hNoted.noted_eq, List.take_of_length_le hLength,
        List.take_of_length_le (Nat.le_succ_of_le hLength)]
  have hFails : ∀ state, invariant state → fails state :=
    fun _ h => h.elim fun _ hNoted => hNoted.noted_eq
  let pace : Parser.Lockstep :=
    .alone invariant fails (fun _ => True)
      (fun _ _ => trivial) hFails hAdvance
  have hNests : pace.Nests := by
    apply Parser.Lockstep.nests_alone
    · rintro state depth ⟨nodes, hNoted⟩
      exact
        ⟨nodes, hNoted.noted_eq, hNoted.ahead_eq,
          hNoted.nodes_eq⟩
    · rintro state entry ⟨nodes, hNoted⟩ hEntry _
      exact ⟨_, hNoted.record entry hEntry⟩
  have hStart :
      invariant (.ofLexer (Lexer.ofText text)) :=
    ⟨[], Parser.noted_ofLexer _⟩
  have hParse :=
    (hNests.parse (Parser.roomWithin limit) 0 (.inl rfl)).ends
      hStart
  unfold trace tokensAsked
  rcases hRun : parseRun limit text with
    ⟨fault | expr, after⟩
  · rwa [Parser.ends_of_error hRun] at hParse
  · rw [Parser.ends_of_ok hRun] at hParse
    exact hFails _ hParse.2

/-
  Where a text is parsed, the records are the tokens of its
  phrase and the notes of its nodes.
-/
theorem trace_of_ok
    {limit : Nat}
    {text : String}
    {expr : Expr}
    {after : Parser.State}
    (hRun : parseRun limit text = (.ok expr, after)) :
    ∃ phrase : Phrase .sum,
      phrase.tree = expr ∧
        Lexer.streamOf text.toList = (phrase.tokens, none) ∧
        Record.tokensIn (trace limit text) = phrase.tokens ∧
        Record.nodesIn [] (trace limit text) =
          phrase.notes phrase.tokens 0 := by
  have hRead :=
    Parser.wholeText_read (Parser.roomWithin limit) text
  rw [Parser.ends_of_ok hRun] at hRead
  rcases hRead with
    ⟨phrase, first, before, last, hTree, hStream, hFirst,
      hSecond, _, hReading, _, hLast⟩
  have hTokens :
      (Lexer.ofText text).scan.1 = phrase.tokens := by
    change (Lexer.streamOf text.toList).1 = _
    rw [hStream]
  have hStart :=
    Parser.noted_ofLexer (Lexer.ofText text)
  rw [hTokens] at hStart
  have hBefore :
      Parser.Noted phrase.tokens (0 + 2) [] before :=
    hSecond.noted (hFirst.noted hStart)
  have hAfter := hLast.noted (hReading.noted hBefore)
  have hTrace : trace limit text = after.log.toList := by
    rw [trace, hRun]
  refine ⟨phrase, hTree, hStream, ?_, ?_⟩
  · rw [hTrace, hAfter.noted_eq]
    apply List.take_of_length_le
    omega
  · rw [hTrace]
    exact hAfter.nodes_eq

/-
  The records of a text that is parsed are its tokens, without
  the end of the text, and its signs and operators, operands
  first; each of these was noted when the tokens up to the one
  behind its own last token had been noted; and printing adds
  nothing to the records.  The records of a text that is
  rejected hold the first ones of the tokens in front of the
  end of the text, or of its first lexical fault.
-/
theorem parse_trace
    (limit : Nat)
    (text : String) :
    (∀ expr, parseWithin limit text = .ok expr →
      ∃ phrase : Phrase .sum,
        phrase.tree = expr ∧
          tokenize text =
            .ok (phrase.tokens ++ [.endOfText]) ∧
          Record.tokensIn (trace limit text) =
            phrase.tokens ∧
          ((trace limit text).filter fun entry =>
              entry.token?.isNone) =
            expr.nodes.filterMap Expr.Node.record? ∧
          Record.nodesIn [] (trace limit text) =
            phrase.notes phrase.tokens 0 ∧
          Handling.ofTree limit text =
            ⟨expr.print.mapError .unprinted,
              trace limit text⟩) ∧
      (∀ fault, parseWithin limit text = .error fault →
        Record.tokensIn (trace limit text) <+:
          (Lexer.ofText text).scan.1) := by
  constructor
  · intro expr hOk
    rcases hRun : parseRun limit text with ⟨_, after⟩
    have hAnswer := hOk
    rw [parseWithin, hRun] at hAnswer
    cases hAnswer
    rcases trace_of_ok hRun with
      ⟨phrase, hTree, hStream, hTokens, hNodes⟩
    refine
      ⟨phrase, hTree, ?_, hTokens, ?_, hNodes, ?_⟩
    · exact tokenize_eq_ok_iff_streamOf.mpr
        ⟨phrase.tokens, hStream, rfl⟩
    · rw [← Record.nodesIn_records [], hNodes, ← hTree,
        ← phrase.nodeEnds_records 0, Phrase.notes,
        List.map_map]
      rfl
    · rw [Handling.ofTree, trace, hRun]
  · intro fault _
    rw [tokensIn_trace]
    exact List.take_prefix _ _

/-
  A product of a negated group is noted inside out, and a
  group that is not closed leaves the tokens before its end.
-/
theorem parse_trace_of_group :
    (∃ expr, parse "-(1+2)*3" = .ok expr ∧
      ∃ phrase : Phrase .sum,
        phrase.tree = expr ∧
          Record.nodesIn [] (trace depthLimit "-(1+2)*3") =
            phrase.notes phrase.tokens 0 ∧
          expr.nodes.filterMap Expr.Node.record? =
            [.operator "+", .sign "-", .operator "*"]) ∧
      (∃ fault, parse "-(1+2" = .error fault ∧
        Record.tokensIn (trace depthLimit "-(1+2") <+:
          (Lexer.ofText "-(1+2").scan.1) := by
  constructor
  · have hIsOk : (parse "-(1+2)*3").isOk = true := by
      decide +kernel
    have hNodes :
        ((trace depthLimit "-(1+2)*3").filter fun entry =>
            entry.token?.isNone) =
          [.operator "+", .sign "-", .operator "*"] := by
      decide +kernel
    cases hParse : parse "-(1+2)*3" with
    | error fault =>
        rw [hParse] at hIsOk
        cases hIsOk
    | ok expr =>
        rcases (parse_trace depthLimit "-(1+2)*3").1 expr hParse with
          ⟨phrase, hTree, _, _, hRecords, hNotes, _⟩
        exact
          ⟨expr, rfl, phrase, hTree, hNotes,
            hRecords.symm.trans hNodes⟩
  · have hFault :
        parse "-(1+2" =
          .error (.unmatchedParenthesis .endOfText) := by
      decide +kernel
    exact ⟨_, hFault, (parse_trace depthLimit "-(1+2").2 _ hFault⟩

end ArithExpr
