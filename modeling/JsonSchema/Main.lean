import JsonSchema.CommandLine.Arguments

/-! # The program -/

namespace JsonSchema

/-- The text of a file, if it can be read. -/
def readText? (path : String) : IO (Option String) := do
  try
    return some (← IO.FS.readFile path)
  catch _ => return none

end JsonSchema

open JsonSchema

def main (args : List String) : IO UInt32 := do
  let request := Arguments.request? false args
  let paths := match request with
    | some (.command c) => c.paths
    | _ => []
  let texts ← paths.mapM fun path => do return (path, ← readText? path)
  let files : Files := fun path => (texts.lookup path).bind id
  let result := Result.ofRequest files .builtin request
  IO.print result.output
  match result.problem with
  | some line => IO.eprintln line
  | none => if request.isNone then IO.eprint Result.helpText
  return result.code.toUInt32
