import EntitySql.Error

/-!
# Failed requests

Why a request that was understood could not be answered. A failure names what was being done and
then its cause, and a fault of a file stands both in the error it became and after it.
-/

namespace EntitySql.CommandLine

inductive FileFault
  | notFound
  | notDirectory
  | isDirectory
  | permissionDenied
  | notText
  | other (text : String)
  deriving DecidableEq, Repr

namespace FileFault

def text : FileFault → String
  | .notFound => "No such file or directory (os error 2)"
  | .notDirectory => "Not a directory (os error 20)"
  | .isDirectory => "Is a directory (os error 21)"
  | .permissionDenied => "Permission denied (os error 13)"
  | .notText => "stream did not contain valid UTF-8"
  | .other text => text

/-- Whether there is no file, rather than one that cannot be read. -/
def isAbsence : FileFault → Bool
  | .notFound => true
  | .notDirectory => true
  | _ => false

end FileFault

inductive Failure
  | failed (cause : Error)
  | loadingConfiguration (cause : Error)
  | loadingSchema (path : String) (cause : Error)
  | noSchema
  | noEntity (name path : String)
  | badAssignment (text : String)
  | noDatabaseUrl
  | connecting (url : String) (cause : Error)

/-- An error with the causes below it. -/
def chain (cause : Error) : String :=
  match cause with
  | .io text => cause.message ++ ": " ++ text
  | _ => cause.message

def Failure.message : Failure → String
  | .failed cause => chain cause
  | .loadingConfiguration cause => "loading configuration: " ++ chain cause
  | .loadingSchema path cause => "loading schema " ++ path ++ ": " ++ chain cause
  | .noSchema => "no schema file; use --schema or set schema_path in the config"
  | .noEntity name path => "entity '" ++ name ++ "' not found in " ++ path
  | .badAssignment text => "expected NAME=VALUE, got '" ++ text ++ "'"
  | .noDatabaseUrl => "no database URL; use --database-url or set MINORM_DATABASE_URL"
  | .connecting url cause => "connecting to " ++ url ++ ": " ++ chain cause

end EntitySql.CommandLine
