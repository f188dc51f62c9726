import EntitySql.Schema.Meta

/-!
# The registry of metadata

Metadata is resolved once for each entity name and remembered until an alias is registered for
that name. A resolution that fails is not remembered.
-/

namespace EntitySql

structure Registry where
  resolved : List (String × EntityMeta)
  aliases : List (String × AliasMap)
  nameCase : NameCase

namespace Registry

def empty (case : NameCase) : Registry := ⟨[], [], case⟩

def get? (r : Registry) (entity : String) : Option EntityMeta := r.resolved.lookup entity

def size (r : Registry) : Nat := r.resolved.length

def isEmpty (r : Registry) : Bool := r.resolved.isEmpty

/-- Registers an alias and forgets what was resolved without it. -/
def registerAlias (r : Registry) (entity : String) (names : AliasMap) : Registry :=
  { r with
    aliases := (entity, names) :: r.aliases
    resolved := r.resolved.filter fun entry ↦ entry.1 != entity }

/-- The metadata of a descriptor, and the registry that remembers it. -/
def resolve (r : Registry) (d : EntityDescriptor) : Except Error EntityMeta × Registry :=
  match r.get? d.name with
  | some m => (.ok m, r)
  | none =>
    match EntityMeta.resolve d (r.aliases.lookup d.name) r.nameCase with
    | .ok m => (.ok m, { r with resolved := (d.name, m) :: r.resolved })
    | .error e => (.error e, r)

end Registry

end EntitySql
