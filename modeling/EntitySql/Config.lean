import EntitySql.Schema.File
import EntitySql.Session
import EntitySql.Sql.Dialect

/-!
# Configuration

Settings with their defaults, read from a TOML file in which every setting may be left out. The
dialect is the configured one, else the one of the database URL, else the first of all.
-/

namespace EntitySql

structure Config where
  databaseUrl : Option String
  dialect : Option Dialect
  schemaPath : Option String
  commandTimeoutSecs : Option Nat
  defaultPageSize : Int64
  nameCase : NameCase

namespace Config

def default : Config where
  databaseUrl := none
  dialect := none
  schemaPath := none
  commandTimeoutSecs := some 30
  defaultPageSize := 50
  nameCase := .upper

instance : Inhabited Config := ⟨default⟩

def effectiveDialect (c : Config) : Dialect :=
  (c.dialect.or (c.databaseUrl.bind Dialect.ofUrl?)).getD .db2

def commandOptions (c : Config) : CommandOptions := ⟨c.commandTimeoutSecs.map (1000 * ·)⟩

/-- One of several names: a string, or the one key of a table that has nothing under it. -/
def name? {α : Type} (ofName? : String → Option α) : Toml → Option α
  | .string s => ofName? s
  | .table [(key, .table [])] => ofName? key
  | .table [(key, .array [])] => ofName? key
  | _ => none

def natural? : Toml → Option Nat
  | .integer n => if n < 0 then none else some n.toInt.toNat
  | _ => none

def ofToml? (entries : List (String × Toml)) : Option Config := do
  let setting {α : Type} (name : String) (missing : α) (read? : Toml → Option α) : Option α :=
    Toml.orElse missing read? (entries.lookup name)
  return {
    databaseUrl := ← setting "database_url" default.databaseUrl fun v ↦ v.asString?.map some
    dialect := ← setting "dialect" default.dialect fun v ↦ (name? Dialect.ofExactName? v).map some
    schemaPath := ← setting "schema_path" default.schemaPath fun v ↦ v.asString?.map some
    commandTimeoutSecs := ← setting "command_timeout_secs" default.commandTimeoutSecs fun v ↦
      (natural? v).map some
    defaultPageSize := ← setting "default_page_size" default.defaultPageSize Toml.asInteger?
    nameCase := ← setting "name_case" default.nameCase (name? NameCase.ofName?) }

def read (text : String) : Except Error Config :=
  match (Toml.read? text).bind ofToml? with
  | none => .error (.config .malformed)
  | some c => if c.defaultPageSize < 0 then .error (.config .negativePageSize) else .ok c

end Config

end EntitySql
