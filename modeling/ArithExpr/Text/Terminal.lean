/-
  Texts without the sequences that control a terminal.

  Key definitions include:
    * `Text.afterSequence?`
    * `Text.stripControls`
-/

namespace ArithExpr

namespace Text

/- The character that starts a control sequence. -/
def escape : Char :=
  '\x1b'

/- The characters that may stand inside a control sequence. -/
def IsParameter (c : Char) : Prop :=
  c = ';' ∨ c = '?' ∨ c.isDigit = true

instance (c : Char) : Decidable (IsParameter c) := by
  unfold IsParameter
  infer_instance

/-
  The text after a control sequence whose first character has
  been read: a bracket, parameters, and a letter.
-/
def afterSequence? : List Char → Option (List Char)
| '[' :: rest =>
    match rest.dropWhile fun c => IsParameter c with
    | letter :: after =>
        if letter.isAlpha then some after else none
    | [] => none
| _ => none

/- A control sequence has a length. -/
theorem afterSequence?_length_lt
    {text after : List Char}
    (h : afterSequence? text = some after) :
    after.length < text.length := by
  unfold afterSequence? at h
  split at h
  · next rest =>
      have hLe :=
        (rest.dropWhile_sublist
          fun c => IsParameter c).length_le
      split at h
      · next letter others hDrop =>
          rw [hDrop] at hLe
          split at h
          · cases h
            simp only [List.length_cons] at hLe ⊢
            omega
          · cases h
      · cases h
  · cases h

/- Leave out every control sequence, from the left. -/
def stripSequences : List Char → List Char
| [] => []
| c :: rest =>
    if c = escape then
      match _hAfter : afterSequence? rest with
      | some after => stripSequences after
      | none => c :: stripSequences rest
    else
      c :: stripSequences rest
termination_by text => text.length
decreasing_by
  · have hLess := afterSequence?_length_lt _hAfter
    simp only [List.length_cons]
    omega
  · simp
  · simp

/- A text without control sequences. -/
def stripControls (text : String) : String :=
  String.ofList (stripSequences text.toList)

end Text

end ArithExpr
