import EntitySql.Calendar.Writing
import EntitySql.Number.Layout
import EntitySql.Value

/-!
# The text of a value

Every value has a text to show. Null and records have none to compare with a pattern.
-/

namespace EntitySql.Value

mutual

def text : Value → String
  | .null => "NULL"
  | .bool b => if b then "true" else "false"
  | .int n => toString n.toInt
  | .float x => Number.Layout.plain.write x
  | .string s => s
  | .date d => String.ofList d.write
  | .dateTime t => String.ofList (t.write ' ')
  | .record fields => "\x7b" ++ fieldsText fields ++ "\x7d"

def fieldsText : List (String × Value) → String
  | [] => ""
  | [(name, value)] => name ++ ": " ++ text value
  | (name, value) :: rest => name ++ ": " ++ text value ++ ", " ++ fieldsText rest

end

/-- The text that string methods work on. -/
def patternText? : Value → Option String
  | .null => none
  | .record _ => none
  | v => some v.text

end EntitySql.Value
