import EntitySql.Number.Reading
import EntitySql.Text.Blank
import EntitySql.Value

/-!
# Assignments

Values given on the command line as `NAME=VALUE`. The name has no blanks around it; the value is
taken as it stands and is a whole number, a real number, a truth value or null where it reads as
one, and a string otherwise.
-/

namespace EntitySql.CommandLine

def literal (text : String) : Value :=
  match Number.readInt64? text.toList with
  | some n => .int n
  | none =>
    match Number.readFloat? text.toList with
    | some x => .float x
    | none =>
      if text = "true" then .bool true
      else if text = "false" then .bool false
      else if text = "null" then .null
      else .string text

/-- The name and the value of an assignment, which its first equals sign separates. -/
def assignment? (text : String) : Option (String × Value) :=
  let s := text.toList
  match s.dropWhile (· != '=') with
  | [] => none
  | _ :: value =>
    some (String.ofList (Text.trim (s.takeWhile (· != '='))), literal (String.ofList value))

/-- The fields that assignments set, or the first text that is none. -/
def fields : List String → Except String (List (String × Value))
  | [] => .ok []
  | text :: rest =>
    match assignment? text with
    | some field => (fields rest).map (field :: ·)
    | none => .error text

/-- The record that assignments make; the last value of a name counts. -/
def record (texts : List String) : Except String Record := (fields texts).map Record.ofList

end EntitySql.CommandLine
