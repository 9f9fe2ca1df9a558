import Conform.CommandLine

/-!
# The program

Reads the files that the arguments name, runs the command and writes its two outputs. JSON, YAML and
regular expressions are read by this library itself, and it checks schemas (`Libraries.builtIn`).
-/

set_option autoImplicit false

namespace Conform

/-- The contents of a file, if it can be read as text. -/
def contents? (path : String) : IO (Option String) := do
  try
    return some (← IO.FS.readFile path)
  catch _ => return none

/-- The contents of those files that can be read. -/
def readFiles (paths : List String) : IO Files := do
  let found ← paths.mapM fun path => do return (path, ← contents? path)
  return fun path => (found.lookup path).join

/-- The files that a request may look at. -/
def Request.paths : Request → List String
  | .invoke i => i.paths
  | _ => []

end Conform

open Conform in
/-- Runs a command and gives its exit code. -/
def main (args : List String) : IO UInt32 := do
  let request := Request.ofArgs none args
  let files ← readFiles request.paths
  let outcome := request.run files
  IO.print outcome.stdout
  IO.eprint outcome.stderr
  return outcome.code.toUInt32
