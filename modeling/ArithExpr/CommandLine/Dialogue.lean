import ArithExpr.CommandLine.Files

/-
  What a command asks of its surroundings, one request after
  another, and what becomes of it among given files.

  Key definitions include:
    * `Report`
    * `Dialogue`
    * `Dialogue.run`
-/

namespace ArithExpr

/- How a command ends: its exit status and what it prints. -/
structure Report where
  exit : Nat
  stdout : String
  stderr : String
deriving DecidableEq, Repr

/-
  A command is over, or it reads the standard input or a file,
  or writes a file, and goes on with what comes of it.
-/
inductive Dialogue where
| finish (report : Report)
| readInput (next : String → Dialogue)
| readFile
    (path : String)
    (next : Except FileFault String → Dialogue)
| writeFile
    (path text : String)
    (next : Except FileFault Unit → Dialogue)

namespace Dialogue

/-
  The report of a command and the files it leaves behind, for
  a given standard input and given files.
-/
def run
    (input : String) :
    Files → Dialogue → Report × Files
| files, .finish report => (report, files)
| files, .readInput next => run input files (next input)
| files, .readFile path next =>
    run input files (next (files.read path))
| files, .writeFile path text next =>
    match files.write path text with
    | .ok after => run input after (next (.ok ()))
    | .error fault => run input files (next (.error fault))

end Dialogue

end ArithExpr
