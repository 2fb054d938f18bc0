import ArithExpr.Text.Printable

/-
  Texts between quotes, with escapes for what cannot be shown.

  Key definitions include:
    * `Text.quoteFor`
    * `Text.hex`
    * `Text.quoteChar`
    * `Text.quote`
-/

namespace ArithExpr

namespace Text

/-
  The quote that is put around a text: a single one, unless
  the text holds single quotes and no double ones.
-/
def quoteFor (text : List Char) : Char :=
  if '\'' ∈ text ∧ '"' ∉ text then '"' else '\''

/- A number in hexadecimal digits, with a least width. -/
def hex (width number : Nat) : List Char :=
  let digits := Nat.toDigits 16 number
  List.replicate (width - digits.length) '0' ++ digits

/-
  A character between quotes.  The quote and the backslash are
  escaped, as are line ends, tabs and all that cannot be shown.
-/
def quoteChar (quote c : Char) : List Char :=
  if c = quote ∨ c = '\\' then
    ['\\', c]
  else if c = '\t' then
    ['\\', 't']
  else if c = '\n' then
    ['\\', 'n']
  else if c = '\r' then
    ['\\', 'r']
  else if IsPrintable c then
    [c]
  else if c.toNat ≤ 0xff then
    '\\' :: 'x' :: hex 2 c.toNat
  else if c.toNat ≤ 0xffff then
    '\\' :: 'u' :: hex 4 c.toNat
  else
    '\\' :: 'U' :: hex 8 c.toNat

/- A text between quotes. -/
def quote (text : String) : String :=
  let mark := quoteFor text.toList
  String.ofList
    ([mark] ++ text.toList.flatMap (quoteChar mark) ++
      [mark])

end Text

end ArithExpr
