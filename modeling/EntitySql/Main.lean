import EntitySql.CommandLine

/-!
# The program

Runs the command line on the files, the environment and the streams of the process.
-/

namespace EntitySql.Program

open CommandLine

def faultOf : IO.Error → FileFault
  | .noFileOrDirectory .. => .notFound
  | .inappropriateType .. => .isDirectory
  | .permissionDenied .. => .permissionDenied
  | .userError .. => .notText
  | error => .other (toString error)

def readFile (path : String) : IO (Except FileFault String) := do
  try
    let text ← IO.FS.readFile path
    return .ok text
  catch error => return .error (faultOf error)

/-- Configuration is kept under its own directory, or under the home directory. -/
def configHome : IO (Option String) := do
  match ← IO.getEnv "XDG_CONFIG_HOME" with
  | some path => return some path
  | none => return (← IO.getEnv "HOME").map (· ++ "/.config")

/-- Runs the command line and tells its exit code. -/
def start (args : List String) : IO UInt32 := do
  let env : Environment := ⟨← configHome, ← IO.getEnv "MINORM_DATABASE_URL"⟩
  let outcome ← run readFile env args
  IO.print outcome.output
  IO.eprint outcome.errors
  return outcome.exitCode

end EntitySql.Program

def main (args : List String) : IO UInt32 := EntitySql.Program.start args
