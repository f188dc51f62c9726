import EntitySql.Error
import EntitySql.Schema.Descriptor

/-!
# Entity metadata

A descriptor with its names resolved: an alias goes before a declared name and that before the
derived one. A property called `id` is the generated key of an entity that declares none. Every
property has one role (generated key, explicit key, computed, or plain), and the roles decide
which statements it takes part in.
-/

namespace EntitySql

structure ResolvedProperty where
  name : String
  column : String
  key : Bool
  explicitKey : Bool
  computed : Bool
  deriving DecidableEq

def ResolvedProperty.isAnyKey (p : ResolvedProperty) : Bool := p.key || p.explicitKey

structure EntityMeta where
  name : String
  table : String
  properties : List ResolvedProperty
  deriving DecidableEq

/-- The names of the key properties, by who supplies the value. -/
structure KeySet where
  implicit : List String
  explicit : List String
  deriving DecidableEq

namespace EntityMeta

/-- The first fault of the properties: a name that differs from an earlier one only in case, or
roles that exclude each other. `seen` holds the earlier names in lower case. -/
def firstFault? (entity : String) : List (List Char) → List PropertyDescriptor →
    Option SchemaError
  | _, [] => none
  | seen, p :: ps =>
    let name := Text.lower p.name.toList
    if name ∈ seen then some (.duplicateProperty p.name entity)
    else if p.computed && (p.key || p.explicitKey) then some (.computedKey p.name)
    else if p.key && p.explicitKey then some (.bothKeys p.name)
    else firstFault? entity (name :: seen) ps

def isConventionalKey (p : PropertyDescriptor) : Bool :=
  Text.sameIgnoringCase p.name "id" && !p.explicitKey && !p.computed

/-- The name of the key that stands in where no generated key is declared. -/
def conventionalKey? (properties : List PropertyDescriptor) : Option String :=
  if properties.any (·.key) then none
  else (properties.find? isConventionalKey).map (·.name)

def resolveProperty (columns : List (String × String)) (conventional : Option String)
    (case : NameCase) (p : PropertyDescriptor) : ResolvedProperty where
  name := p.name
  column := ((columns.lookup p.name).or p.column).getD (case.apply p.name)
  key := p.key || conventional == some p.name
  explicitKey := p.explicitKey
  computed := p.computed

def resolve (d : EntityDescriptor) (names : Option AliasMap) (case : NameCase) :
    Except Error EntityMeta :=
  if d.properties.isEmpty then .error (.schema (.noProperties d.name))
  else
    match firstFault? d.name [] d.properties with
    | some fault => .error (.schema fault)
    | none =>
      let columns := (names.map (·.columns)).getD []
      .ok {
        name := d.name
        table := ((names.bind (·.table)).or d.table).getD (case.apply d.name)
        properties := d.properties.map
          (resolveProperty columns (conventionalKey? d.properties) case) }

/-- A property by its name: the exact one first, else the first that differs only in the case of
ASCII letters. -/
def property? (m : EntityMeta) (name : String) : Option ResolvedProperty :=
  (m.properties.find? (·.name == name)).or
    (m.properties.find? fun p ↦ Text.sameIgnoringCase p.name name)

def column (m : EntityMeta) (property : String) : Except Error String :=
  match m.property? property with
  | some p => .ok p.column
  | none => .error (.schema (.noProperty m.name property))

def generatedKeys (m : EntityMeta) : List ResolvedProperty := m.properties.filter (·.key)

def explicitKeys (m : EntityMeta) : List ResolvedProperty := m.properties.filter (·.explicitKey)

def keys (m : EntityMeta) : Except Error KeySet :=
  let implicit := m.generatedKeys.map (·.name)
  let explicit := m.explicitKeys.map (·.name)
  if implicit.isEmpty && explicit.isEmpty then .error (.schema .noKey)
  else .ok ⟨implicit, explicit⟩

/-- All keys in the order of declaration. -/
def keyProperties (m : EntityMeta) : Except Error (List ResolvedProperty) :=
  match m.properties.filter (·.isAnyKey) with
  | [] => .error (.schema .noKey)
  | keys => .ok keys

def computed (m : EntityMeta) : List String := (m.properties.filter (·.computed)).map (·.name)

def selectProperties (m : EntityMeta) : List ResolvedProperty :=
  m.properties.filter fun p ↦ !p.computed

def insertProperties (m : EntityMeta) : List ResolvedProperty :=
  m.properties.filter fun p ↦ !p.computed && !p.key

def updateProperties (m : EntityMeta) : List ResolvedProperty :=
  m.properties.filter fun p ↦ !p.computed && !p.isAnyKey

end EntityMeta

namespace Record

/-- A field by its name: the exact one first, else the first that differs only in the case of
ASCII letters. -/
def find? (fields : Record) (name : String) : Option Value :=
  (Record.get? fields name).or
    ((List.find? (fun field ↦ Text.sameIgnoringCase field.1 name) fields).map (·.2))

end Record

/-- The values of a fetched row under the names of the properties they belong to. -/
def EntityMeta.rowToRecord (m : EntityMeta) (columns : Record) : Record :=
  Record.ofList (m.selectProperties.map fun p ↦ (p.name, (columns.find? p.column).getD .null))

end EntitySql
