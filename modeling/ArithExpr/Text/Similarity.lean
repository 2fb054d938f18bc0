/-
  How alike two texts are, and the words of a list that are
  most like a given one.

  The likeness of two texts is measured by the characters they
  share: those of the longest block that occurs in both, and
  in the same way those to its left and those to its right.

  Key definitions include:
    * `Text.Block`
    * `Text.longestBlock`
    * `Text.sharedCount`
    * `Text.Likeness`
    * `Text.closest`
-/

namespace ArithExpr

namespace Text

------------------------------------------------------------
-- Shared Blocks
------------------------------------------------------------

/- The number of characters with which two texts begin alike. -/
def sharedStart : List Char → List Char → Nat
| c :: left, d :: right =>
    if c = d then sharedStart left right + 1 else 0
| _, _ => 0

/- Two texts begin alike within the first of them. -/
theorem sharedStart_le
    (left right : List Char) :
    sharedStart left right ≤ left.length := by
  fun_induction sharedStart left right <;> simp_all

/- A block of characters that occurs in two texts. -/
structure Block where
  start : Nat
  offset : Nat
  size : Nat
deriving DecidableEq, Repr

/- Of two blocks, the longer one, and else the first. -/
def Block.longer (first second : Block) : Block :=
  if first.size < second.size then second else first

/- The longest blocks that begin at each pair of positions. -/
def blocks (left right : List Char) : List Block :=
  (List.range left.length).flatMap fun start =>
    (List.range right.length).map fun offset =>
      ⟨start, offset,
        sharedStart (left.drop start) (right.drop offset)⟩

/-
  The longest block of two texts.  Of several, the one that
  begins first in the left text is taken, and then the one
  that begins first in the right text.
-/
def longestBlock (left right : List Char) : Block :=
  (blocks left right).foldl Block.longer ⟨0, 0, 0⟩

/- A fold that picks keeps what holds of all it picks from. -/
private theorem foldl_longer_of_forall
    {P : Block → Prop}
    (candidates : List Block)
    {first : Block}
    (hFirst : P first)
    (hAll : ∀ block ∈ candidates, P block) :
    P (candidates.foldl Block.longer first) := by
  induction candidates generalizing first with
  | nil => exact hFirst
  | cons block candidates ih =>
      apply ih
      · unfold Block.longer
        split
        · exact hAll block (by simp)
        · exact hFirst
      · intro other hOther
        exact hAll other (by simp [hOther])

/- The longest block lies within the left text. -/
theorem longestBlock_within
    (left right : List Char) :
    (longestBlock left right).start +
        (longestBlock left right).size ≤
      left.length := by
  refine foldl_longer_of_forall
    (P := fun block => block.start + block.size ≤ left.length)
    _ (Nat.zero_le _) ?_
  intro block hBlock
  simp only [blocks, List.mem_flatMap, List.mem_map,
    List.mem_range] at hBlock
  obtain ⟨start, hStart, offset, _, rfl⟩ := hBlock
  have hLe :=
    sharedStart_le (left.drop start) (right.drop offset)
  rw [List.length_drop] at hLe
  simp only
  omega

/- The number of characters that two texts share. -/
def sharedCount (left right : List Char) : Nat :=
  let block := longestBlock left right
  if _hSize : block.size = 0 then
    0
  else
    sharedCount (left.take block.start)
        (right.take block.offset) +
      block.size +
      sharedCount (left.drop (block.start + block.size))
        (right.drop (block.offset + block.size))
termination_by left.length
decreasing_by
  all_goals
    have hWithin := longestBlock_within left right
    have hSize : (longestBlock left right).size ≠ 0 :=
      _hSize
    simp only [List.length_take, List.length_drop]
    omega

------------------------------------------------------------
-- Close Matches
------------------------------------------------------------

/-
  A word with its likeness to another: twice the number of
  shared characters, out of the number of all characters.
-/
structure Likeness where
  word : String
  shared : Nat
  total : Nat

/- The likeness of a word of a list to a given word. -/
def Likeness.measure (given word : String) : Likeness :=
  ⟨word, 2 * sharedCount word.toList given.toList,
    word.length + given.length⟩

/- A word is close when three fifths of all is shared. -/
def Likeness.IsClose (likeness : Likeness) : Prop :=
  3 * likeness.total ≤ 5 * likeness.shared

instance (likeness : Likeness) :
    Decidable likeness.IsClose := by
  unfold Likeness.IsClose
  infer_instance

/-
  Whether a word goes before another one: the more alike word
  does, and of two that are equally alike the later one in the
  order of their characters.
-/
def Likeness.before (first second : Likeness) : Bool :=
  let left := first.shared * second.total
  let right := second.shared * first.total
  if left = right then
    second.word ≤ first.word
  else
    right < left

/-
  The words of a list that are close to a given word, at most
  three of them, the most alike first.
-/
def closest
    (given : String)
    (words : List String) : List String :=
  let close :=
    (words.map (Likeness.measure given)).filter
      fun likeness => likeness.IsClose
  ((close.mergeSort Likeness.before).take 3).map
    Likeness.word

end Text

end ArithExpr
