import SyntaxOutline.CommandLine.Usual

/-!
# The program

The outermost layer: it reads the environment and the clock, opens and writes the file that the
outline goes to, and shows what is to be shown, in the order in which it comes up.
-/

namespace SyntaxOutline

namespace Program

/-- The words of the system for an error, with the number it gives the error. -/
def words : IO.Error → String
  | .noFileOrDirectory _ code details | .permissionDenied _ code details
  | .inappropriateType _ code details | .resourceExhausted _ code details
  | .invalidArgument _ code details =>
    details ++ " (os error " ++ code.toNat.repr ++ ")"
  | error => toString error

/-- A time in nanoseconds as seconds with six places, the last one rounded. -/
def seconds (nanoseconds : Nat) : String :=
  let micros := (nanoseconds + 500) / 1000
  let places := (micros % 1000000).repr
  (micros / 1000000).repr ++ "." ++ String.ofList (List.replicate (6 - places.length) '0') ++ places

/-- Runs an invocation that has its outline written to a file. What happens before it is written is
told at once. What the file refuses shows as the refusal of its sink to be flushed. -/
def runToFile (path : String) (filter : Filter) (invocation : Invocation) : IO Run := do
  match ← (IO.FS.Handle.mk path .write).toBaseIO with
  | .error error =>
    let run := invocation.run (.error (.cannotCreate path (words error)))
    IO.eprint (run.openingText .usual filter)
    return run
  | .ok file =>
    let run := invocation.run (.ok (.gathering none))
    IO.eprint (run.openingText .usual filter)
    match ← (do file.write run.taken; file.flush : IO Unit).toBaseIO with
    | .ok _ => return run
    | .error error =>
      return invocation.run (.ok (.gathering (some (words error))))

/-- Runs an invocation that has its outline shown. -/
def runToOutput (filter : Filter) (invocation : Invocation) : IO Run := do
  let run := invocation.run (.ok .unbounded)
  IO.eprint (run.openingText .usual filter)
  let output ← IO.getStdout
  output.write run.taken
  output.flush
  return run

/-- Carries out an invocation and answers with the code to exit with. -/
def carryOut (invocation : Invocation) : IO Nat := do
  let filter := Filter.ofRun (← IO.getEnv "RUST_LOG") invocation.verbose
  let began ← IO.monoNanosNow
  let prepared := match invocation.prepare [] with
    | .ok tree _ => tree.arena.size
    | .error _ _ => 0
  let built ← if prepared = 0 then pure began else IO.monoNanosNow
  let run ← match invocation.output with
    | some path => runToFile path filter invocation
    | none => runToOutput filter invocation
  let printed ← IO.monoNanosNow
  IO.eprint (run.closingText .usual filter)
  let times := ⟨seconds (built - began), seconds (printed - built)⟩
  IO.print (run.statisticsText times invocation.timing)
  return run.code

/-- Shows a report and answers with the code to exit with. -/
def present (report : Report) : IO Nat := do
  let output ← IO.getStdout
  output.write report.output
  output.flush
  (← IO.getStderr).write report.errors
  return report.code

end Program

end SyntaxOutline

open SyntaxOutline in
/-- Reads the command line and does what it asks for. -/
def main (arguments : List String) : IO UInt32 := do
  let code ← match Host.usual.read arguments with
    | .ok invocation => Program.carryOut invocation
    | .error report => Program.present report
  return code.toUInt32
