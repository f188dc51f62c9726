import EntitySql.Text.LetterCase

/-!
# Entity descriptors

What is declared about an entity: its properties with their roles, and the names of its table and
columns where they are not derived. Aliases given from outside go before both.
-/

namespace EntitySql

structure PropertyDescriptor where
  name : String
  column : Option String
  /-- A key that the database generates. -/
  key : Bool
  /-- A key that the caller supplies. -/
  explicitKey : Bool
  /-- Computed by the database: neither selected nor written. -/
  computed : Bool
  deriving DecidableEq

structure EntityDescriptor where
  name : String
  table : Option String
  properties : List PropertyDescriptor
  deriving DecidableEq

/-- Sets the column of the first property of this name. -/
def withColumn (property column : String) : List PropertyDescriptor → List PropertyDescriptor
  | [] => []
  | p :: ps =>
    if p.name = property then { p with column := some column } :: ps
    else p :: withColumn property column ps

def EntityDescriptor.column (d : EntityDescriptor) (property column : String) :
    EntityDescriptor :=
  { d with properties := withColumn property column d.properties }

/-- How the names of tables and columns are derived from those of entities and properties. -/
inductive NameCase
  | upper
  | lower
  | preserve
  deriving DecidableEq, Repr

namespace NameCase

instance : Inhabited NameCase := ⟨.upper⟩

def all : List NameCase := [.upper, .lower, .preserve]

def name : NameCase → String
  | .upper => "upper"
  | .lower => "lower"
  | .preserve => "preserve"

def ofName? (s : String) : Option NameCase := all.find? (·.name == s)

def apply : NameCase → String → String
  | .upper, s => String.ofList (Text.upper s.toList)
  | .lower, s => String.ofList (Text.lower s.toList)
  | .preserve, s => s

end NameCase

structure AliasMap where
  table : Option String
  columns : List (String × String)
  deriving DecidableEq

end EntitySql
