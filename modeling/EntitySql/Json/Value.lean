import EntitySql.Calendar.Writing
import EntitySql.Json.Number
import EntitySql.Number.Layout
import EntitySql.Value

/-!
# Values in JSON

A value is written as the JSON value of its kind; dates and times become strings, and a float that
is not finite becomes null. Read back, a string is always a string, an object is a record, and an
array is no value. Values may nest to a fixed depth.
-/

namespace EntitySql

/-- How deep containers may nest in a text that is read. -/
def Json.depthLimit : Nat := 127

namespace Value

def floatJson (x : Float) : Json :=
  match Number.Binary64.ofFloat x with
  | .finite .. => .number (Number.Layout.json.write x).toList
  | _ => .null

mutual

def toJson : Value → Json
  | .null => .null
  | .bool b => .bool b
  | .int n => .ofInt n.toInt
  | .float x => floatJson x
  | .string s => .string s
  | .date d => .string (String.ofList d.write)
  | .dateTime t => .string (String.ofList (t.write 'T'))
  | .record fields => .object (fieldsToJson fields)

def fieldsToJson : List (String × Value) → List (String × Json)
  | [] => []
  | (name, v) :: rest => (name, toJson v) :: fieldsToJson rest

end

def ofAmount : Json.Amount → Value
  | .integer n =>
    match Number.int64? n with
    | some m => .int m
    | none => .float (Float.ofInt n)
  | .float x => .float x

mutual

/-- The value of a JSON tree whose containers nest no deeper than `depth`. -/
def ofJson? (depth : Nat) : Json → Option Value
  | .null => some .null
  | .bool b => some (.bool b)
  | .number literal => (Json.amount? literal).map ofAmount
  | .string s => some (.string s)
  | .array _ => none
  | .raw _ => none
  | .object fields =>
    match depth with
    | 0 => none
    | depth + 1 => (fieldsOfJson? depth fields).map fun fs ↦ .record (Record.ofList fs)

def fieldsOfJson? (depth : Nat) : List (String × Json) → Option (List (String × Value))
  | [] => some []
  | (name, j) :: rest =>
    match ofJson? depth j, fieldsOfJson? depth rest with
    | some v, some fs => some ((name, v) :: fs)
    | _, _ => none

end

def readJson? (text : String) : Option Value := (Json.read? text).bind (ofJson? Json.depthLimit)

end Value

end EntitySql
