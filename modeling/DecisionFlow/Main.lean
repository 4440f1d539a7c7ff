import DecisionFlow.CommandLine.Program

/-!
# Main

The program in its surroundings: files, the standard streams, and the environment, in which a
variable named after the program gives the path of the settings.
-/
open DecisionFlow CommandLine

/-- The cause of a file error of the host. -/
def fileError : IO.Error → FileError
  | .inappropriateType .. => .directory
  | _ => .missing

/-- The host of the program. -/
def systemHost : Host IO where
  read path := do
    try return .ok (← IO.FS.readFile path)
    catch error => return .error (fileError error)
  input := do (← IO.getStdin).readToEnd

/-- Run the program. -/
def main (arguments : List String) : IO UInt32 := do
  let name := (← IO.appPath).fileStem.getD ""
  let environment ← IO.getEnv (name.toUpper ++ "_CONFIG")
  let outcome ← run systemHost name environment arguments
  IO.print outcome.output
  for line in outcome.errors do
    IO.eprintln line
  return UInt32.ofNat outcome.exit
