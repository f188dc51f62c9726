import EntitySql.Calendar

/-!
# Values

What a filter compares, a statement binds and a row holds. A record maps names to values and is
kept sorted by name; inserting into a sorted record leaves it sorted and replaces the value of a
name already there.
-/

namespace EntitySql

inductive Value
  | null
  | bool (b : Bool)
  | int (n : Int64)
  | float (x : Float)
  | string (s : String)
  | date (d : Date)
  | dateTime (t : DateTime)
  | record (fields : List (String × Value))

abbrev Record := List (String × Value)

inductive Kind
  | null
  | bool
  | int
  | float
  | string
  | date
  | dateTime
  | record
  deriving DecidableEq, Repr

def Kind.name : Kind → String
  | .null => "null"
  | .bool => "bool"
  | .int => "int"
  | .float => "float"
  | .string => "string"
  | .date => "date"
  | .dateTime => "datetime"
  | .record => "record"

namespace Value

instance : Inhabited Value := ⟨.null⟩

def kind : Value → Kind
  | .null => .null
  | .bool _ => .bool
  | .int _ => .int
  | .float _ => .float
  | .string _ => .string
  | .date _ => .date
  | .dateTime _ => .dateTime
  | .record _ => .record

def isNull : Value → Bool
  | .null => true
  | _ => false

def ofOption {α : Type} (toValue : α → Value) : Option α → Value
  | some a => toValue a
  | none => .null

mutual

/-- Equality within a kind. A float that is not a number differs from itself, and the two zeros
are equal. -/
def equals : Value → Value → Bool
  | .null, .null => true
  | .bool a, .bool b => a == b
  | .int a, .int b => a == b
  | .float a, .float b => a == b
  | .string a, .string b => a == b
  | .date a, .date b => a == b
  | .dateTime a, .dateTime b => a == b
  | .record a, .record b => equalFields a b
  | _, _ => false

def equalFields : List (String × Value) → List (String × Value) → Bool
  | [], [] => true
  | (name, a) :: as, (name', b) :: bs => name == name' && equals a b && equalFields as bs
  | _, _ => false

end

def compareFloats (a b : Float) : Option Ordering :=
  if a < b then some .lt
  else if b < a then some .gt
  else if a == b then some .eq
  else none

/-- The order of two values, where they have one. Integers and floats compare as floats; null and
values of different kinds are unordered. -/
def compare : Value → Value → Option Ordering
  | .int a, .int b => some (Ord.compare a.toInt b.toInt)
  | .int a, .float b => compareFloats (Float.ofInt a.toInt) b
  | .float a, .int b => compareFloats a (Float.ofInt b.toInt)
  | .float a, .float b => compareFloats a b
  | .string a, .string b => some (Ord.compare a b)
  | .bool a, .bool b => some (Ord.compare a b)
  | .date a, .date b => some (a.compare b)
  | .dateTime a, .dateTime b => some (a.compare b)
  | _, _ => none

end Value

namespace Record

def get? (fields : Record) (name : String) : Option Value := fields.lookup name

def insert (name : String) (value : Value) : Record → Record
  | [] => [(name, value)]
  | (other, old) :: rest =>
    if name = other then (name, value) :: rest
    else if name < other then (name, value) :: (other, old) :: rest
    else (other, old) :: insert name value rest

/-- The record of these fields; of several values of a name the last one stays. -/
def ofList (fields : List (String × Value)) : Record :=
  fields.foldl (fun r (name, value) ↦ insert name value r) []

end Record

end EntitySql
