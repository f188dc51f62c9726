import EntitySql.Schema.Meta
import EntitySql.Value.Reading

/-!
# Entity types

An entity type lists typed fields with their roles; an entity holds one value for each field. A
record holds the same values by name, and an entity is read back from one: a missing field reads
as null, and a computed field that is missing or null takes its initial value, since computed
columns are never selected.
-/

namespace EntitySql

inductive Role
  | plain
  | key
  | explicitKey
  | computed
  deriving DecidableEq, Repr

structure Field where
  name : String
  type : FieldType
  role : Role
  deriving DecidableEq

structure EntityType where
  name : String
  table : Option String
  fields : List Field

/-- One value for each field. -/
def FieldValues : List Field → Type
  | [] => Unit
  | f :: fs => f.type.Carrier × FieldValues fs

def EntityType.Entity (t : EntityType) : Type := FieldValues t.fields

namespace Field

def descriptor (f : Field) : PropertyDescriptor where
  name := f.name
  column := none
  key := f.role = .key
  explicitKey := f.role = .explicitKey
  computed := f.role = .computed

def read (f : Field) (record : Record) : Except Error f.type.Carrier :=
  match f.role, Record.get? record f.name with
  | .computed, none => .ok f.type.initial
  | .computed, some .null => .ok f.type.initial
  | _, some v => f.type.read v
  | _, none => f.type.read .null

end Field

namespace FieldValues

def entries : (fs : List Field) → FieldValues fs → List (String × Value)
  | [], _ => []
  | f :: fs, (a, rest) => (f.name, f.type.toValue a) :: entries fs rest

def read (record : Record) : (fs : List Field) → Except Error (FieldValues fs)
  | [] => .ok ()
  | f :: fs => do
    let a ← f.read record
    let rest ← read record fs
    return (a, rest)

/-- Sets the first field whose name differs only in the case of ASCII letters; there may be none. -/
def set? (name : String) (v : Value) : (fs : List Field) → FieldValues fs →
    Option (Except Error (FieldValues fs))
  | [], _ => none
  | f :: fs, (a, rest) =>
    if Text.sameIgnoringCase name f.name then some ((f.type.read v).map (·, rest))
    else (set? name v fs rest).map fun result ↦ result.map (a, ·)

end FieldValues

namespace EntityType

variable (t : EntityType)

def descriptor : EntityDescriptor where
  name := t.name
  table := t.table
  properties := t.fields.map Field.descriptor

def toRecord (e : t.Entity) : Record := Record.ofList (FieldValues.entries t.fields e)

def ofRecord (record : Record) : Except Error t.Entity := FieldValues.read record t.fields

def setProperty (e : t.Entity) (name : String) (v : Value) : Except Error t.Entity :=
  match FieldValues.set? name v t.fields e with
  | some result => result
  | none => .error (.schema (.noField t.name name))

end EntityType

end EntitySql
