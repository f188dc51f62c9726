import EntitySql.Schema.Meta
import EntitySql.Sql.Paging
import EntitySql.Sql.Lowering

/-!
# Statements

The statements of one entity in one dialect: SQL text that refers to parameters by name, and the
bag they are taken from, or one bag for each row of a batch. Every statement of a single row names
its key; a batch has the text of the single statement.
-/

namespace EntitySql

inductive Params
  | single (bag : ParamBag)
  | batch (bags : List ParamBag)

namespace Params

def bags : Params → List ParamBag
  | .single bag => [bag]
  | .batch bags => bags

def isBatch : Params → Bool
  | .single _ => false
  | .batch _ => true

end Params

structure Statement where
  sql : String
  params : Params

/-- An insert, with the pieces from which its generated keys can be read back. -/
structure InsertStatement where
  sql : String
  params : Params
  table : String
  columnList : String
  paramList : String
  keyProperties : List String
  keyColumns : List String

def InsertStatement.statement (s : InsertStatement) : Statement := ⟨s.sql, s.params⟩

/-- The key of one row. -/
inductive KeyValues
  | single (value : Value)
  /-- Values by the names of the key properties. -/
  | composite (values : Record)

def KeyValues.ofValue : Value → KeyValues
  | .record fields => .composite fields
  | v => .single v

inductive SortOrder
  | asc
  | desc
  deriving DecidableEq, Repr

def SortOrder.keyword : SortOrder → String
  | .asc => "ASC"
  | .desc => "DESC"

/-- Properties to sort by, the most significant first. -/
abbrev OrderBy := List (String × SortOrder)

/-- A filtered, sorted and perhaps paged read. -/
structure Query where
  filter : Option Expr
  order : OrderBy
  page : Option Int64
  pageSize : Option Int64

namespace Query

def all : Query := ⟨none, [], none, none⟩

end Query

/-- The value of a key property in a record. -/
def keyValue (record : Record) (property : String) : Except Error Value :=
  match record.find? property with
  | some v => .ok v
  | none => .error (.validation (.missingKey property))

/-- The values of properties in a record; what is missing is null. -/
def bagOf (record : Record) (properties : List ResolvedProperty) : ParamBag :=
  .ofList (properties.map fun p ↦ (p.name, (Record.get? record p.name).getD .null))

def keyEntries (record : Record) : List ResolvedProperty → Except Error (List (String × Value))
  | [] => .ok []
  | k :: ks => do
    let v ← keyValue record k.name
    let rest ← keyEntries record ks
    return (k.name, v) :: rest

def keyBag (record : Record) (keys : List ResolvedProperty) : Except Error ParamBag :=
  (keyEntries record keys).map .ofList

def updateBag (record : Record) (sets keys : List ResolvedProperty) : Except Error ParamBag :=
  (keyBag record keys).map (bagOf record sets).extend

/-- The bags of a list of records, or the error of the first record that has none. -/
def allBags (bag : Record → Except Error ParamBag) : List Record → Except Error (List ParamBag)
  | [] => .ok []
  | r :: rs => do
    let b ← bag r
    let rest ← allBags bag rs
    return b :: rest

/-- Statements of an entity in a dialect. -/
structure StatementBuilder where
  entity : EntityMeta
  dialect : Dialect

namespace StatementBuilder

variable (b : StatementBuilder)

def table : String := b.dialect.style.identifier b.entity.table

def column (p : ResolvedProperty) : String := b.dialect.style.identifier p.column

def columnList (separator : String) (properties : List ResolvedProperty) : String :=
  separator.intercalate (properties.map b.column)

def assignments (separator : String) (properties : List ResolvedProperty) : String :=
  separator.intercalate (properties.map fun p ↦ b.column p ++ " = " ++ marker p.name)

/-- The WHERE clause of a filter and its parameters. -/
def filterClause : Option Expr → Except Error Fragment
  | none => .ok ⟨"", .empty⟩
  | some e => do
    let fragment ← e.lower b.entity.column b.dialect
    return ⟨" WHERE " ++ fragment.sql, fragment.params⟩

def selectText : String :=
  "select " ++ b.columnList "," b.entity.selectProperties ++ " from " ++ b.table

def countText : String := "select count(*) from " ++ b.table

def filtered (text : String) (filter : Option Expr) : Except Error (String × ParamBag) := do
  let clause ← b.filterClause filter
  return (text ++ clause.sql, clause.params)

def selectAll (filter : Option Expr) : Except Error Statement := do
  let (sql, params) ← b.filtered b.selectText filter
  return ⟨sql, .single params⟩

def count (filter : Option Expr) : Except Error Statement := do
  let (sql, params) ← b.filtered b.countText filter
  return ⟨sql, .single params⟩

def orderTerms : OrderBy → Except Error (List String)
  | [] => .ok []
  | (property, order) :: rest => do
    let column ← b.entity.column property
    let terms ← orderTerms rest
    return (b.dialect.style.identifier column ++ " " ++ order.keyword) :: terms

def orderBy (order : OrderBy) : Except Error String := do
  let terms ← b.orderTerms order
  return if terms.isEmpty then "" else " ORDER BY " ++ ", ".intercalate terms

def select (query : Query) : Except Error Statement := do
  let (sql, params) ← b.filtered b.selectText query.filter
  let order ← b.orderBy query.order
  let sql := sql ++ order
  match query.pageSize with
  | none => return ⟨sql, .single params⟩
  | some size =>
    let (paged, extra) ← paginate sql query.page size b.dialect
    return ⟨paged, .single (params.extend extra)⟩

def keyParams (keys : List ResolvedProperty) : KeyValues → Except Error ParamBag
  | .composite values => keyBag values keys
  | .single value =>
    match keys with
    | [k] => .ok (.ofList [(k.name, value)])
    | _ => .error (.validation (.singleKey b.entity.name keys.length))

def selectById (key : KeyValues) : Except Error Statement := do
  let keys ← b.entity.keyProperties
  let params ← b.keyParams keys key
  return {
    sql := "SELECT " ++ b.columnList "," b.entity.selectProperties ++ " FROM " ++ b.table ++
      " WHERE " ++ b.assignments " AND " keys
    params := .single params }

/-- An insert of these columns. An entity with nothing to insert gets its defaults. -/
def insertText (columns params valuesKeyword : String) : String :=
  if columns.isEmpty then "INSERT INTO " ++ b.table ++ " DEFAULT VALUES"
  else
    "INSERT INTO " ++ b.table ++ " (" ++ columns ++ ") " ++ valuesKeyword ++ " (" ++ params ++ ")"

def insertWith (valuesKeyword : String) (params : Params) : InsertStatement :=
  let properties := b.entity.insertProperties
  let columns := b.columnList ", " properties
  let markers := ", ".intercalate (properties.map fun p ↦ marker p.name)
  { sql := b.insertText columns markers valuesKeyword
    params := params
    table := b.table
    columnList := columns
    paramList := markers
    keyProperties := b.entity.generatedKeys.map (·.name)
    keyColumns := b.entity.generatedKeys.map b.column }

def insert (record : Record) : InsertStatement :=
  b.insertWith "VALUES" (.single (bagOf record b.entity.insertProperties))

def insertBatch (records : List Record) : InsertStatement :=
  b.insertWith "values" (.batch (records.map fun r ↦ bagOf r b.entity.insertProperties))

/-- What an update writes, what it finds its row by, and its text. -/
structure UpdateParts where
  sql : String
  sets : List ResolvedProperty
  keys : List ResolvedProperty

def updateParts : Except Error UpdateParts := do
  let keys ← b.entity.keyProperties
  let sets := b.entity.updateProperties
  if sets.isEmpty then .error (.validation (.nothingToUpdate b.entity.name))
  else
    return {
      sql := "update " ++ b.table ++ " set " ++ b.assignments ", " sets ++ " where " ++
        b.assignments " and " keys
      sets := sets
      keys := keys }

def update (record : Record) : Except Error Statement := do
  let parts ← b.updateParts
  let params ← updateBag record parts.sets parts.keys
  return ⟨parts.sql, .single params⟩

def updateBatch (records : List Record) : Except Error Statement := do
  let parts ← b.updateParts
  let bags ← allBags (fun r ↦ updateBag r parts.sets parts.keys) records
  return ⟨parts.sql, .batch bags⟩

def deleteText (keys : List ResolvedProperty) : String :=
  "DELETE FROM " ++ b.table ++ " WHERE " ++ b.assignments " AND " keys

def delete (record : Record) : Except Error Statement := do
  let keys ← b.entity.keyProperties
  let params ← keyBag record keys
  return ⟨b.deleteText keys, .single params⟩

def deleteBatch (records : List Record) : Except Error Statement := do
  let keys ← b.entity.keyProperties
  let bags ← allBags (fun r ↦ keyBag r keys) records
  return ⟨b.deleteText keys, .batch bags⟩

def deleteAll : String := "DELETE FROM " ++ b.table

end StatementBuilder

end EntitySql
