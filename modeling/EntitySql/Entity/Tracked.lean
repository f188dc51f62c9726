/-!
# Change tracking

An entity with a mark that says whether it was modified since it was fetched or last written.
-/

namespace EntitySql

structure Tracked (α : Type) where
  entity : α
  dirty : Bool

namespace Tracked

variable {α : Type}

def new (entity : α) : Tracked α := ⟨entity, false⟩

/-- Changes the entity and marks it, whether or not the change makes a difference. -/
def modify {β : Type} (t : Tracked α) (change : α → β × α) : β × Tracked α :=
  let (result, entity) := change t.entity
  (result, ⟨entity, true⟩)

/-- Notes that the entity is stored as it is. -/
def markClean (t : Tracked α) : Tracked α := { t with dirty := false }

end Tracked

end EntitySql
