import EntitySql.Error
import EntitySql.Schema.Descriptor
import EntitySql.Toml.Document

/-!
# Schema files

A schema file lists entities in `entity` tables and their properties in `property` tables. What
else it holds is ignored. A descriptor may also be an array of its parts in order.
-/

namespace EntitySql

namespace Schema

def property? (v : Toml) : Option PropertyDescriptor := do
  let [name, column, key, explicitKey, computed] ←
    v.parts? ["name", "column", "key", "explicit_key", "computed"] | none
  return {
    name := ← name.bind Toml.asString?
    column := ← Toml.orElse none (fun v ↦ v.asString?.map some) column
    key := ← Toml.orElse false Toml.asBoolean? key
    explicitKey := ← Toml.orElse false Toml.asBoolean? explicitKey
    computed := ← Toml.orElse false Toml.asBoolean? computed }

def list? {α : Type} (item? : Toml → Option α) (v : Toml) : Option (List α) :=
  v.asArray?.bind fun items ↦ items.mapM item?

def entity? (v : Toml) : Option EntityDescriptor := do
  let [name, table, properties] ← v.parts? ["name", "table", "property"] | none
  return {
    name := ← name.bind Toml.asString?
    table := ← Toml.orElse none (fun v ↦ v.asString?.map some) table
    properties := ← Toml.orElse [] (list? property?) properties }

def entities? (entries : List (String × Toml)) : Option (List EntityDescriptor) :=
  Toml.orElse [] (list? entity?) (entries.lookup "entity")

def read (text : String) : Except Error (List EntityDescriptor) :=
  match (Toml.read? text).bind entities? with
  | some entities => .ok entities
  | none => .error (.config .malformed)

end Schema

end EntitySql
