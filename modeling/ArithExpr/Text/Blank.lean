/-
  Blank characters of any script, and texts without blanks at
  their end.

  Key definitions include:
    * `Text.blanks`
    * `Text.IsWhite`
    * `Text.trimRight`
-/

namespace ArithExpr

namespace Text

/- The ranges of code points that are blank, in order. -/
def blanks : List (Nat × Nat) :=
  [(0x9, 0xd), (0x1c, 0x20), (0x85, 0x85), (0xa0, 0xa0),
    (0x1680, 0x1680), (0x2000, 0x200a), (0x2028, 0x2029),
    (0x202f, 0x202f), (0x205f, 0x205f), (0x3000, 0x3000)]

/- A character is white when its code point is blank. -/
def IsWhite (c : Char) : Prop :=
  ∃ range ∈ blanks, range.1 ≤ c.toNat ∧ c.toNat ≤ range.2

instance (c : Char) : Decidable (IsWhite c) := by
  unfold IsWhite
  infer_instance

/- A text without the white characters at its end. -/
def trimRight (text : String) : String :=
  String.ofList
    (text.toList.reverse.dropWhile fun c =>
      IsWhite c).reverse

end Text

end ArithExpr
