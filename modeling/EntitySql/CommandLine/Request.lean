import EntitySql.Sql.Dialect
import EntitySql.Value

/-!
# Requests

What can be asked for on the command line: a statement of an entity from a schema file, the SQL
of a filter, the rows of a filtered select, and the list of dialects.
-/

namespace EntitySql.CommandLine

inductive OutputFormat
  | table
  | json
  deriving DecidableEq, Repr

namespace OutputFormat

def all : List OutputFormat := [.table, .json]

def name : OutputFormat → String
  | .table => "table"
  | .json => "json"

def ofName? (s : String) : Option OutputFormat := all.find? (·.name == s)

end OutputFormat

inductive StatementKind
  | select
  | count
  | byId
  | insert
  | update
  | delete
  | deleteAll
  deriving DecidableEq, Repr

namespace StatementKind

def all : List StatementKind := [.select, .count, .byId, .insert, .update, .delete, .deleteAll]

def name : StatementKind → String
  | .select => "select"
  | .count => "count"
  | .byId => "by-id"
  | .insert => "insert"
  | .update => "update"
  | .delete => "delete"
  | .deleteAll => "delete-all"

def ofName? (s : String) : Option StatementKind := all.find? (·.name == s)

end StatementKind

/-- The entity that a request is about, and which of its rows. -/
structure Target where
  schema : Option String
  entity : String
  dialect : Option Dialect
  filter : Option String
  captures : List String
  order : List String
  page : Option Int64
  pageSize : Option Int64

inductive Task
  | sql (kind : StatementKind) (target : Target) (values : List String) (format : OutputFormat)
  | explain (filter : String) (captures : List String) (dialect : Dialect)
  | query (target : Target) (databaseUrl : Option String) (format : OutputFormat)
  | dialects

structure Request where
  /-- The configuration file, where it is not the usual one. -/
  config : Option String
  task : Task

end EntitySql.CommandLine
