import EntitySql.Calendar.Reading
import EntitySql.Error

/-!
# Values read as a type

A fetched value is read as the type of the field it is for. Drivers hand numbers and dates back
as text, so text is read too; what does not fit the type is refused.
-/

namespace EntitySql

/-- The values that a type has. -/
def BaseType.Carrier : BaseType → Type
  | .int64 => Int64
  | .int32 => Int32
  | .float => Float
  | .bool => Bool
  | .string => String
  | .date => Date
  | .dateTime => DateTime

namespace Value

def unreadable (type : BaseType) (v : Value) : Except Error α :=
  .error (.schema (.unreadable v.kind type))

/-- Text without the blanks around it, read as `type` by `read?`. -/
def readText (type : BaseType) (read? : List Char → Option α) (s : String) : Except Error α :=
  match read? (Text.trim s.toList) with
  | some a => .ok a
  | none => unreadable type (.string s)

/-- A float is read if it is whole; beyond the range of 64 bits it becomes the nearest end. -/
def readInt64 : Value → Except Error Int64
  | .int n => .ok n
  | .float x =>
    match (Number.Binary64.ofFloat x).toInt? with
    | some n => .ok (Number.clampInt64 n)
    | none => unreadable .int64 (.float x)
  | .bool b => .ok (if b then 1 else 0)
  | .string s => readText .int64 Number.readInt64? s
  | v => unreadable .int64 v

def readInt32 (v : Value) : Except Error Int32 := do
  let n ← v.readInt64
  match Number.int32? n.toInt with
  | some m => .ok m
  | none => .error (.schema (.beyondInt32 n))

def readFloat : Value → Except Error Float
  | .float x => .ok x
  | .int n => .ok (Float.ofInt n.toInt)
  | .string s => readText .float Number.readFloat? s
  | v => unreadable .float v

def readBool : Value → Except Error Bool
  | .bool b => .ok b
  | .int n => .ok (n != 0)
  | v => unreadable .bool v

def readString (v : Value) : Except Error String :=
  match v.patternText? with
  | some s => .ok s
  | none => unreadable .string v

def readDate : Value → Except Error Date
  | .date d => .ok d
  | .dateTime t => .ok t.date
  | .string s => readText .date Date.read? s
  | v => unreadable .date v

def readDateTime : Value → Except Error DateTime
  | .dateTime t => .ok t
  | .string s => readText .dateTime DateTime.read? s
  | v => unreadable .dateTime v

end Value

namespace BaseType

def read : (type : BaseType) → Value → Except Error type.Carrier
  | .int64, v => v.readInt64
  | .int32, v => v.readInt32
  | .float, v => v.readFloat
  | .bool, v => v.readBool
  | .string, v => v.readString
  | .date, v => v.readDate
  | .dateTime, v => v.readDateTime

def toValue : (type : BaseType) → type.Carrier → Value
  | .int64, n => .int n
  | .int32, n => .int n.toInt64
  | .float, x => .float x
  | .bool, b => .bool b
  | .string, s => .string s
  | .date, d => .date d
  | .dateTime, t => .dateTime t

/-- What a field holds before anything is read into it. -/
def initial : (type : BaseType) → type.Carrier
  | .int64 => (0 : Int64)
  | .int32 => (0 : Int32)
  | .float => (0.0 : Float)
  | .bool => false
  | .string => ""
  | .date => Date.epoch
  | .dateTime => DateTime.epoch

end BaseType

/-- The type of a field: a base type, or that and null. -/
inductive FieldType
  | required (base : BaseType)
  | optional (base : BaseType)
  deriving DecidableEq, Repr

namespace FieldType

def Carrier : FieldType → Type
  | .required base => base.Carrier
  | .optional base => Option base.Carrier

def read : (type : FieldType) → Value → Except Error type.Carrier
  | .required base, v => base.read v
  | .optional _, .null => .ok none
  | .optional base, v => (base.read v).map some

def toValue : (type : FieldType) → type.Carrier → Value
  | .required base, a => base.toValue a
  | .optional base, a => Value.ofOption base.toValue a

def initial : (type : FieldType) → type.Carrier
  | .required base => base.initial
  | .optional _ => none

end FieldType

end EntitySql
