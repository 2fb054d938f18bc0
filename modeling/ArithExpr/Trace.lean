import ArithExpr.Token

/-
  What is noted while a text is read, and how a note is
  written.

  Key definitions include:
    * `Record`
    * `Record.channel`
    * `Record.message`
    * `Record.line`
    * `Record.debugLine`
-/

namespace ArithExpr

------------------------------------------------------------
-- Records
------------------------------------------------------------

/-
  A token was read, or a node was built for a sign or for an
  operator.
-/
inductive Record where
| token (token : Token)
| sign (literal : String)
| operator (literal : String)
deriving DecidableEq

namespace Record

/-
  The channel on which a record is written: one for tokens and
  one for nodes.
-/
def channel : Record → String
| .token _ => "sanjutsu.tokenize"
| .sign _ | .operator _ => "sanjutsu.parse"

/- The text of a record. -/
def message : Record → String
| .token found =>
    "token " ++ found.kind.name ++
      " '" ++ found.literal ++ "'"
| .sign literal => "prefix " ++ literal
| .operator literal => "infix " ++ literal

/- A record with its channel. -/
def line (record : Record) : String :=
  record.channel ++ ": " ++ record.message

/- A record as one line of a diagnostic stream. -/
def debugLine (record : Record) : String :=
  "DEBUG:" ++ record.channel ++ ":" ++ record.message

end Record

end ArithExpr
