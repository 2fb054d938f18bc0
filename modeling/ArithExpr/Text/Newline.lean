/-
  Line ends in one spelling.

  Key definitions include:
    * `Text.unifyNewlines`
-/

namespace ArithExpr

namespace Text

/-
  Unify the rest of a text after what is already done, in
  reverse.  A carriage return before a line feed is left out,
  and any other carriage return becomes a line feed.
-/
def unifyNewlinesFrom
    (done : List Char) : List Char → List Char
| [] => done.reverse
| c :: rest =>
    if c = '\r' then
      if rest.head? = some '\n' then
        unifyNewlinesFrom done rest
      else
        unifyNewlinesFrom ('\n' :: done) rest
    else
      unifyNewlinesFrom (c :: done) rest

/- A text whose lines all end in a line feed alone. -/
def unifyNewlines (text : String) : String :=
  String.ofList (unifyNewlinesFrom [] text.toList)

end Text

end ArithExpr
