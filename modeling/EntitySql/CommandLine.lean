import EntitySql.CommandLine.Arguments
import EntitySql.CommandLine.Assignment
import EntitySql.CommandLine.Report
import EntitySql.Config
import EntitySql.Connection
import EntitySql.Filter.Reading
import EntitySql.Text.Split

/-!
# The command line

A run reads its arguments, then the configuration, and then the schema file where the task needs
one. Files are read in a monad, so a run is the same on a disk and on a function from paths to
texts; all else is decided by pure functions. A run exits with 0, with 1 after a failure, which is
told on the error stream, and with 2 where the arguments make no request.

Help is the list of commands for every command alike, output has no colours, and asking for a log
changes nothing that is written. A query ends with what its connection is refused for.
-/

namespace EntitySql.CommandLine

structure Environment where
  /-- The directory of configuration files. -/
  configHome : Option String
  /-- The database URL where no argument gives one. -/
  databaseUrl : Option String

structure Outcome where
  exitCode : UInt32
  output : String
  errors : String

abbrev FileReader (m : Type → Type) := String → m (Except FileFault String)

def versionText : String := "minorm 0.3.0\n"

def usageText : String :=
  Report.ofLines
    ["Usage: minorm [OPTIONS] <COMMAND>", "", "Commands:",
      "  sql       Render a statement for an entity",
      "  explain   Parse a filter and show its tree and SQL",
      "  query     Run a filtered select",
      "  dialects  List supported dialects"]

namespace Outcome

def ofRefusal : Refusal → Outcome
  | .misuse => ⟨2, "", usageText⟩
  | .help => ⟨0, usageText, ""⟩
  | .version => ⟨0, versionText, ""⟩

def ofReport (report : Report) : Outcome :=
  match report.failure with
  | none => ⟨0, report.output, ""⟩
  | some failure => ⟨1, report.output, "Error: " ++ failure.message ++ "\n"⟩

end Outcome

/-! ## What a task asks for -/

/-- A property to sort by, downwards where the word `desc` follows its last colon. -/
def sortTerm (text : String) : String × SortOrder :=
  match Text.splitLast? ':' text.toList with
  | none => (text, .asc)
  | some (property, order) =>
    (String.ofList property,
      if Text.sameIgnoringCase (String.ofList order) "desc" then .desc else .asc)

def assigned (texts : List String) : Except Failure Record :=
  (record texts).mapError .badAssignment

def filterOf (text : String) (captures : List String) : Except Failure Expr := do
  let captured ← assigned captures
  (Filter.read captured text).mapError .failed

def targetFilter (target : Target) : Except Failure (Option Expr) :=
  match target.filter with
  | none => .ok none
  | some text => (filterOf text target.captures).map some

/-- A page size alone asks for the first page, a page alone for one of the usual size. -/
def queryOf (config : Config) (target : Target) : Except Failure Query := do
  let filter ← targetFilter target
  return {
    filter := filter
    order := target.order.map sortTerm
    page := target.page
    pageSize := target.pageSize.or (target.page.map fun _ ↦ config.defaultPageSize) }

/-- The statement of a kind. The values are those of a row, or of its key. -/
def statementOf (config : Config) (kind : StatementKind) (target : Target) (b : StatementBuilder)
    (values : Record) : Except Failure Statement :=
  match kind with
  | .select => do
    let query ← queryOf config target
    (b.select query).mapError .failed
  | .count => do
    let filter ← targetFilter target
    (b.count filter).mapError .failed
  | .byId => (b.selectById (.composite values)).mapError .failed
  | .insert =>
    let plan := b.dialect.insertPlan (b.insert values)
    .ok ⟨plan.sql, plan.insert.params⟩
  | .update => (b.update values).mapError .failed
  | .delete => (b.delete values).mapError .failed
  | .deleteAll => .ok ⟨b.deleteAll, .single .empty⟩

def render (config : Config) (kind : StatementKind) (target : Target) (values : List String)
    (format : OutputFormat) (entity : EntityMeta) : Except Failure String := do
  let dialect := target.dialect.getD config.effectiveDialect
  let values ← assigned values
  let statement ← statementOf config kind target ⟨entity, dialect⟩ values
  return statementReport format dialect statement

def explain (filter : String) (captures : List String) (dialect : Dialect) : Report :=
  .after (filterLines filter)
    (match filterOf filter captures with
    | .error failure => .failed failure
    | .ok e =>
      .after (treeLines e)
        (match e.lower .ok dialect with
        | .error error => .failed (.failed error)
        | .ok fragment => .done (fragmentLines dialect fragment)))

/-! ## Files -/

section Files

variable {m : Type → Type} [Monad m] (readFile : FileReader m)

def readWith {α : Type} (read : String → Except Error α) (path : String) :
    m (Except Error α) := do
  match ← readFile path with
  | .ok text => return read text
  | .error fault => return .error (.io fault.text)

/-- The usual configuration file may be absent. -/
def usualConfig (home : String) : m (Except Error Config) := do
  match ← readFile (home ++ "/minorm/config.toml") with
  | .ok text => return Config.read text
  | .error fault => return if fault.isAbsence then .ok .default else .error (.io fault.text)

def loadConfig (env : Environment) (path : Option String) : m (Except Failure Config) := do
  let result ← match path, env.configHome with
    | some path, _ => readWith readFile Config.read path
    | none, some home => usualConfig readFile home
    | none, none => pure (.ok .default)
  return result.mapError .loadingConfiguration

/-- The metadata of an entity among those of a schema file. -/
def metadataIn (config : Config) (path name : String) (entities : List EntityDescriptor) :
    Except Failure EntityMeta :=
  match entities.find? fun d ↦ Text.sameIgnoringCase d.name name with
  | none => .error (.noEntity name path)
  | some d => (EntityMeta.resolve d none config.nameCase).mapError .failed

def loadEntity (config : Config) (target : Target) : m (Except Failure EntityMeta) := do
  match target.schema.or config.schemaPath with
  | none => return .error .noSchema
  | some path =>
    match ← readWith readFile Schema.read path with
    | .error error => return .error (.loadingSchema path error)
    | .ok entities => return metadataIn config path target.entity entities

/-! ## Runs -/

/-- Rows need a database, so a query fails even where all else is in order. -/
def query (env : Environment) (config : Config) (target : Target) (databaseUrl : Option String) :
    m Failure := do
  match (databaseUrl.or env.databaseUrl).or config.databaseUrl with
  | none => return .noDatabaseUrl
  | some url =>
    match ← loadEntity readFile config target with
    | .error failure => return failure
    | .ok _ => return .connecting url (.connection (.ofUrl url))

def perform (env : Environment) (config : Config) : Task → m Report
  | .sql kind target values format => do
    let entity ← loadEntity readFile config target
    return .ofExcept (entity.bind (render config kind target values format))
  | .explain filter captures dialect => return explain filter captures dialect
  | .query target databaseUrl _ => do
    let failure ← query readFile env config target databaseUrl
    return .failed failure
  | .dialects => return .done dialectTable

def run (env : Environment) (args : List String) : m Outcome := do
  match Request.read args with
  | .error refusal => return .ofRefusal refusal
  | .ok request =>
    match ← loadConfig readFile env request.config with
    | .error failure => return .ofReport (.failed failure)
    | .ok config =>
      let report ← perform readFile env config request.task
      return .ofReport report

end Files

end EntitySql.CommandLine
