import ArithExpr.CommandLine.Command

/-
  The command as a program: its requests are carried out on
  the standard streams and on the files of the system.

  Key definitions include:
    * `Dialogue.perform`
    * `main`
-/

namespace ArithExpr

/- The reason that the system gives for a failure. -/
def FileFault.ofSystem : IO.Error → FileFault
| .noFileOrDirectory _ _ details
| .inappropriateType _ _ details
| .invalidArgument _ _ details
| .permissionDenied _ _ details => .other details
| failure => .other (toString failure)

namespace Dialogue

/- Carry out the requests of a command. -/
def perform : Dialogue → IO UInt32
| .finish report => do
    (← IO.getStdout).putStr report.stdout
    (← IO.getStderr).putStr report.stderr
    return UInt32.ofNat report.exit
| .readInput next => do
    let input ← (← IO.getStdin).readToEnd
    perform (next input)
| .readFile path next => do
    let outcome ←
      try
        let handle ← IO.FS.Handle.mk path .read
        pure (.ok (← handle.readToEnd))
      catch failure =>
        pure (.error (FileFault.ofSystem failure))
    perform (next outcome)
| .writeFile path text next => do
    let outcome ←
      try
        IO.FS.writeFile path text
        pure (.ok ())
      catch failure =>
        pure (.error (FileFault.ofSystem failure))
    perform (next outcome)

end Dialogue

end ArithExpr

/- Run the command on the arguments of the program. -/
def main (arguments : List String) : IO UInt32 :=
  (ArithExpr.command arguments).perform
