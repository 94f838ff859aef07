import FieldRules.CommandLine.Run

/-!
# The program

Reads the configuration file that the command line names, runs the command line, and prints its
report.
-/

open FieldRules.CommandLine

/-- What an error of the system says about a file. -/
def obstacleOf : IO.Error → Obstacle
  | .noFileOrDirectory _ code report => .system report code.toNat
  | .inappropriateType _ code report => .system report code.toNat
  | .invalidArgument _ code report => .system report code.toNat
  | .permissionDenied _ code report => .system report code.toNat
  | .resourceExhausted _ code report => .system report code.toNat
  | .noSuchThing _ code report => .system report code.toNat
  | .hardwareFault code report => .system report code.toNat
  | .otherError code report => .system report code.toNat
  | _ => .notText

/-- The text of a file, or why it cannot be read. -/
def readFileText (path : String) : IO (Except Obstacle String) := do
  try
    return .ok (← IO.FS.readFile path)
  catch e =>
    return .error (obstacleOf e)

/-- The file of an invocation, or nothing to read when there is none. -/
def configText (words : List String) : IO (Except Obstacle String) :=
  match (Invocation.read? words).bind Invocation.configPath? with
  | some path => readFileText path
  | none => return .error .missing

def main (words : List String) : IO UInt32 := do
  let text ← configText words
  let report := run (fun _ => text) words
  IO.print report.output
  IO.eprint report.errors
  return UInt32.ofNat report.code
