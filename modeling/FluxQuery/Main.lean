import FluxQuery.Command.Run
import Std.Time.DateTime.Timestamp

/-!
# The program

Reads the files that the command names and the clock, runs the command and prints what it gives.
-/

namespace FluxQuery

/-- The bytes of a file, if it can be read. -/
def readBytes (path : String) : IO (Option (List UInt8)) := do
  try
    return some (← IO.FS.readBinFile path).toList
  catch _ => return none

/-- The time of the system's clock. -/
def currentInstant : IO Instant := do
  let nanos := (← Std.Time.Timestamp.now).toNanosecondsSinceUnixEpoch.val
  return ⟨nanos / 1000000000, (nanos % 1000000000).toNat⟩

end FluxQuery

open FluxQuery in
def main (arguments : List String) : IO UInt32 := do
  let paths := ((Arguments.parse? arguments).map Command.paths).getD []
  let contents ← paths.mapM fun path => return (path, ← readBytes path)
  let files : Files := fun path => (contents.find? (·.1 == path)).bind (·.2)
  let outcome := runProgram files (← currentInstant) arguments
  IO.print outcome.stdout
  IO.eprint outcome.stderr
  return UInt32.ofNat outcome.exitCode
