import EntitySql.Url

/-!
# Dialects

The seven dialects that statements are written in, their names, and the connection URLs that
belong to each.
-/

namespace EntitySql

inductive Dialect
  | db2
  | postgres
  | mySql
  | sqlite
  | sqlServer
  | sqlCe
  | firebird
  deriving DecidableEq, Repr

namespace Dialect

def all : List Dialect := [.db2, .postgres, .mySql, .sqlite, .sqlServer, .sqlCe, .firebird]

instance : Inhabited Dialect := ⟨.db2⟩

def name : Dialect → String
  | .db2 => "db2"
  | .postgres => "postgres"
  | .mySql => "mysql"
  | .sqlite => "sqlite"
  | .sqlServer => "sqlserver"
  | .sqlCe => "sqlce"
  | .firebird => "firebird"

def ofExactName? (s : String) : Option Dialect := all.find? (·.name == s)

/-- A dialect by its name or another common name of it, in any case of ASCII letters. -/
def ofName? (s : String) : Option Dialect :=
  match String.ofList (Text.foldAscii s.toList) with
  | "postgresql" => some .postgres
  | "pg" => some .postgres
  | "mssql" => some .sqlServer
  | "mariadb" => some .mySql
  | lower => ofExactName? lower

/-- The dialect of a connection URL, by its scheme. -/
def ofUrl? (url : String) : Option Dialect :=
  match Url.scheme url with
  | "postgres" => some .postgres
  | "postgresql" => some .postgres
  | "mysql" => some .mySql
  | "mariadb" => some .mySql
  | "sqlite" => some .sqlite
  | "mssql" => some .sqlServer
  | "sqlserver" => some .sqlServer
  | "sqlce" => some .sqlCe
  | "db2" => some .db2
  | "firebird" => some .firebird
  | _ => none

end Dialect

end EntitySql
