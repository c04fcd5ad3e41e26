import DeviceIdentity.Shell.Run

/-!
# The command line

`main` collects what a run of the shell depends on (arguments, environment, a settings document and
a random key), has the library make a report of it, and prints the report.
-/

open DeviceIdentity

/-- Why a file could not be read, in the words of the operating system where it has some. -/
def readingFailure (e : IO.Error) : String :=
  match e with
  | .noFileOrDirectory .. => "No such file or directory (os error 2)"
  | .permissionDenied .. => "Permission denied (os error 13)"
  | e => toString e

/-- The text of a file, or why there is none. -/
def documentAt (path : String) : IO (Except String String) := do
  try
    return .ok (← IO.FS.readFile path)
  catch e =>
    return .error (readingFailure e)

/-- The variables of the environment that the shell looks at. -/
def consulted : List String := Shell.sharedOptions.filterMap (·.environment)

/-- Runs the shell. -/
def main (arguments : List String) : IO UInt32 := do
  let values ← consulted.mapM fun name => return (name, ← IO.getEnv name)
  let environment (name : String) : Option String := (values.lookup name).join
  let invocation := Invocation.read environment arguments
  let document ← match invocation.toOption.bind (·.settingsPath) with
    | some path => documentAt path
    | none => pure (.error "")
  let chance ← IO.getRandomBytes 32
  let report := Shell.report environment (fun _ => document) chance.toList arguments
  IO.print report.output
  IO.eprint report.errors
  return UInt32.ofNat report.code
