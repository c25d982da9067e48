import FilterQuery.CommandLine

/-!
The program `filterc`: reads the files that its arguments name, and prints what the run gives.
-/
namespace FilterQuery.CommandLine

def Invocation.paths : Invocation → List String
  | .version => []
  | .help => []
  | .compile filter schema _ _ => filter :: schema.toList
  | .explain filter schema => filter :: schema.toList

def readText (path : String) : IO (Option String) := do
  try
    let text ← IO.FS.readFile path
    return some text
  catch _ => return none

def loadAll : List String → IO (List (String × Option String))
  | [] => return []
  | path :: rest => do
    let text ← readText path
    let others ← loadAll rest
    return (path, text) :: others

end FilterQuery.CommandLine

open FilterQuery.CommandLine in
def main (args : List String) : IO UInt32 := do
  let paths := ((read args).map Invocation.paths).getD []
  let files ← loadAll paths
  let outcome := run (fun path => (files.lookup path).join) args
  (← IO.getStdout).putStr outcome.output
  match outcome.error with
  | some e => (← IO.getStderr).putStrLn ("Error: " ++ e.message)
  | none => if outcome.status = 2 then (← IO.getStderr).putStrLn usageText
  return outcome.status.toUInt32
