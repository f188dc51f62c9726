import EntitySql.Sql.Statement

/-!
# Reading generated keys back

How the keys that the database generates come back after an insert: most dialects ask for the last
identity in a second query, one returns the key columns from the insert itself, and an entity
without generated keys asks for nothing.
-/

namespace EntitySql

inductive Identity
  | none
  | returning
  | query (sql : String)
  deriving DecidableEq

structure InsertPlan where
  insert : Statement
  identity : Identity

namespace InsertPlan

/-- The whole plan as text. -/
def sql (plan : InsertPlan) : String :=
  match plan.identity with
  | .query q => plan.insert.sql ++ "; " ++ q
  | _ => plan.insert.sql

end InsertPlan

namespace Dialect

/-- The identity is read by a query of its own, given here, or returned by the insert. The newest
key is read where a session keeps no identity. -/
def identityQuery? (dialect : Dialect) (insert : InsertStatement) : Option String :=
  match dialect with
  | .db2 => some "SELECT IDENTITY_VAL_LOCAL() ID FROM SYSIBM.SYSDUMMY1"
  | .postgres => none
  | .mySql => some "SELECT LAST_INSERT_ID() id"
  | .sqlite => some "SELECT last_insert_rowid() id"
  | .sqlServer => some "SELECT SCOPE_IDENTITY() id"
  | .sqlCe => some "SELECT @@IDENTITY id"
  | .firebird =>
    let key := insert.keyColumns.head?.getD "ID"
    some ("SELECT FIRST 1 " ++ key ++ " ID FROM " ++ insert.table ++ " ORDER BY " ++ key ++ " DESC")

def insertPlan (dialect : Dialect) (insert : InsertStatement) : InsertPlan :=
  if insert.keyProperties.isEmpty then ⟨insert.statement, .none⟩
  else
    match dialect.identityQuery? insert with
    | some q => ⟨insert.statement, .query q⟩
    | none =>
      ⟨⟨insert.sql ++ " RETURNING " ++ ", ".intercalate insert.keyColumns, insert.params⟩,
        .returning⟩

end Dialect

end EntitySql
