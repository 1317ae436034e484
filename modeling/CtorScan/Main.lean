import CtorScan.Command.Basic

/-!
# The program

The program reads the files that its command line names, and leaves the rest to
the command.
-/

namespace CtorScan
namespace Command

/-- The paths that a command line names. -/
def paths (arguments : List String) : List String :=
  match Request.ofArguments arguments with
  | .ok (.scan choices inputs) => choices.config :: inputs
  | _ => []

/-- The text at a path, or why there is none. -/
def textAt (path : String) : IO (Except Files.Fault String) := do
  try
    return .ok (← IO.FS.readFile path)
  catch
    | .resourceBusy .. => return .error (.isDirectory path)
    | .inappropriateType .. => return .error (.isDirectory path)
    | _ => return .error (.missing path)

/-- Answer from what was read before. -/
def accessFrom (known : List (String × Except Files.Fault String)) : Files.Access := fun path =>
  match known.find? fun entry => entry.1 == path with
  | some entry => entry.2
  | none => .error (.missing path)

end Command
end CtorScan

/-- Run the command on the arguments and the files that they name. -/
def main (arguments : List String) : IO UInt32 := do
  let known ← (CtorScan.Command.paths arguments).mapM fun path =>
    return (path, ← CtorScan.Command.textAt path)
  let result := CtorScan.Command.execute
    ⟨CtorScan.Command.accessFrom known, .written, .plain⟩ false arguments
  (← IO.getStdout).putStr result.output
  (← IO.getStderr).putStr result.errors
  return result.status.toUInt32
