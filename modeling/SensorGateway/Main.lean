import SensorGateway.CommandLine.Program

/-!
Runs the program: reads or writes the file it asks for and shows what it has to
say. A file that cannot be read counts as one that is not there.
-/

namespace SensorGateway.CommandLine

def readContents (path : String) : IO (Option String) := do
  try
    return some (← IO.FS.readFile path)
  catch _ =>
    return none

/-- Tells whether the file could be written. -/
def writeContents (path text : String) : IO Bool := do
  try
    IO.FS.writeFile path text
    return true
  catch _ =>
    return false

def Action.carryOut : Action → IO Report
  | finish report => return report
  | write path text next => return next (← writeContents path text)
  | read path next => return next (← readContents path)

end SensorGateway.CommandLine

def main (arguments : List String) : IO UInt32 := do
  let report ← (SensorGateway.CommandLine.program arguments).carryOut
  IO.print report.output
  IO.eprint report.errors
  return report.exitCode.toUInt32
