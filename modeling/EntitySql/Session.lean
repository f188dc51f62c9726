import EntitySql.Entity.Tracked
import EntitySql.Entity.Type
import EntitySql.Schema.Registry
import EntitySql.Session.Row
import EntitySql.Sql.Identity

/-!
# Sessions

Operations on entities through an executor, which is anything that answers statements and may
change its own state while doing so. An operation builds its statement first and calls the
executor at most once; what it returns says whether the call succeeded. Metadata comes from the
registry of the session.

Drivers, connections and clocks belong to the executor: it is handed the time a command may take,
and answers in its own way when that has run out.
-/

namespace EntitySql

structure CommandOptions where
  /-- The time that a command may take, in milliseconds. -/
  timeoutMillis : Option Nat
  deriving DecidableEq

/-- Something that runs statements, with a state of type `σ`. -/
structure Executor (σ : Type) where
  dialect : Dialect
  /-- Runs a statement once for each bag and counts the affected rows. -/
  execute : Statement → CommandOptions → σ → Except Error Nat × σ
  query : Statement → CommandOptions → σ → Except Error (List Row) × σ
  /-- Runs an insert and reads back the row of its generated keys, if there is one. -/
  insert : InsertPlan → CommandOptions → σ → Except Error (Option Row) × σ

structure Session (σ : Type) where
  registry : Registry
  options : CommandOptions
  state : σ

/-- A step of a session: a result or an error, and the session after it. -/
abbrev Session.Action (σ α : Type) := Session σ → Except Error α × Session σ

namespace Session

variable {σ : Type}

namespace Action

variable {α β : Type}

def pure (a : α) : Action σ α := fun s ↦ (.ok a, s)

def bind (action : Action σ α) (next : α → Action σ β) : Action σ β := fun s ↦
  match action s with
  | (.ok a, s) => next a s
  | (.error e, s) => (.error e, s)

def ofExcept (result : Except Error α) : Action σ α := fun s ↦ (result, s)

instance : Monad (Action σ) where
  pure := pure
  bind := bind

end Action

/-- A call of the executor. -/
def perform {α : Type} (call : CommandOptions → σ → Except Error α × σ) : Action σ α := fun s ↦
  let (result, state) := call s.options s.state
  (result, { s with state := state })

def metadata (t : EntityType) : Action σ EntityMeta := fun s ↦
  let (result, registry) := s.registry.resolve t.descriptor
  (result, { s with registry := registry })

variable (ex : Executor σ) (t : EntityType)

def builder : Action σ StatementBuilder :=
  (metadata t).bind fun m ↦ .pure ⟨m, ex.dialect⟩

/-- Runs a statement built from the metadata of the entity type. -/
def execute (build : StatementBuilder → Except Error Statement) : Action σ Nat :=
  (builder ex t).bind fun b ↦ (Action.ofExcept (build b)).bind fun stmt ↦
    perform (ex.execute stmt)

/-- The rows of a statement built from the metadata, and that metadata. -/
def fetch (build : StatementBuilder → Except Error Statement) :
    Action σ (EntityMeta × List Row) :=
  (builder ex t).bind fun b ↦ (Action.ofExcept (build b)).bind fun stmt ↦
    (perform (ex.query stmt)).bind fun rows ↦ .pure (b.entity, rows)

def materialize (m : EntityMeta) : List Row → Except Error (List t.Entity)
  | [] => .ok []
  | row :: rows => do
    let e ← t.ofRecord (m.rowToRecord row.toRecord)
    let rest ← materialize m rows
    return e :: rest

def getAll (query : Query) : Action σ (List t.Entity) :=
  (fetch ex t (·.select query)).bind fun (m, rows) ↦ .ofExcept (materialize t m rows)

def get (key : KeyValues) : Action σ (Option t.Entity) :=
  (fetch ex t (·.selectById key)).bind fun (m, rows) ↦
    .ofExcept ((materialize t m rows).map List.head?)

def getTracked (key : KeyValues) : Action σ (Option (Tracked t.Entity)) :=
  (get ex t key).bind fun e ↦ .pure (e.map Tracked.new)

/-- The number in the first column of the first row; no row counts nothing. -/
def count (filter : Option Expr) : Action σ Int64 :=
  (fetch ex t (·.count filter)).bind fun (_, rows) ↦
    match rows.head?.bind Row.first? with
    | some v => .ofExcept v.readInt64
    | none => .pure 0

/-- The value of a generated key in the row that an insert gave back. The first key may stand in
the first column under any name. -/
def generatedValue (row : Row) (isFirst : Bool) (key : ResolvedProperty) : Value :=
  ((row.get? key.column).or (if isFirst then row.first? else none)).getD .null

/-- Writes generated keys into an entity, one after the other, up to the first that does not fit.
The result is the first value that is not null. -/
def writeBack (row : Row) : Bool → List ResolvedProperty → Option Value → t.Entity →
    Except Error (Option Value) × t.Entity
  | _, [], generated, e => (.ok generated, e)
  | isFirst, key :: keys, generated, e =>
    let v := generatedValue row isFirst key
    if v.isNull then writeBack row false keys generated e
    else
      match t.setProperty e key.name v with
      | .error error => (.error error, e)
      | .ok e => writeBack row false keys (generated.or (some v)) e

/-- Inserts an entity. The entity after it holds the generated keys that came back. -/
def insert (e : t.Entity) (s : Session σ) :
    (Except Error (Option Value) × t.Entity) × Session σ :=
  match builder ex t s with
  | (.error error, s) => ((.error error, e), s)
  | (.ok b, s) =>
    let plan := ex.dialect.insertPlan (b.insert (t.toRecord e))
    match perform (ex.insert plan) s with
    | (.error error, s) => ((.error error, e), s)
    | (.ok none, s) => ((.ok none, e), s)
    | (.ok (some row), s) => (writeBack t row true b.entity.generatedKeys none e, s)

/-- A batch of entities; an empty one does nothing. -/
def executeMany (entities : List t.Entity)
    (build : StatementBuilder → List Record → Except Error Statement) : Action σ Nat :=
  if entities.isEmpty then .pure 0 else execute ex t fun b ↦ build b (entities.map t.toRecord)

def insertMany (entities : List t.Entity) : Action σ Nat :=
  executeMany ex t entities fun b records ↦ .ok (b.insertBatch records).statement

def updateMany (entities : List t.Entity) : Action σ Nat :=
  executeMany ex t entities fun b records ↦ b.updateBatch records

def deleteMany (entities : List t.Entity) : Action σ Nat :=
  executeMany ex t entities fun b records ↦ b.deleteBatch records

/-- Writes an entity by its key; true when a row changed. -/
def update (e : t.Entity) : Action σ Bool :=
  (execute ex t (·.update (t.toRecord e))).bind fun n ↦ .pure (0 < n)

def delete (e : t.Entity) : Action σ Bool :=
  (execute ex t (·.delete (t.toRecord e))).bind fun n ↦ .pure (0 < n)

def deleteAll : Action σ Nat :=
  execute ex t fun b ↦ .ok ⟨b.deleteAll, .single .empty⟩

/-- Writes a tracked entity that was modified; a clean one is left alone. -/
def updateTracked (e : Tracked t.Entity) (s : Session σ) :
    (Except Error Bool × Tracked t.Entity) × Session σ :=
  if !e.dirty then ((.ok false, e), s)
  else
    match update ex t e.entity s with
    | (.ok updated, s) => ((.ok updated, e.markClean), s)
    | (.error error, s) => ((.error error, e), s)

end Session

end EntitySql
