import EntitySql.CommandLine.Request
import EntitySql.Number.Reading

/-!
# Requests read from arguments

Arguments are options, which begin with a hyphen, and words. The first word is a command; it
decides which options are known from there on and what further words mean. A value is attached to
its option or is the next argument, which then must not look like an option itself; after two
hyphens alone all arguments are words. An option is given at most once for a command, save those
that collect values. What follows `help` are names of commands and nothing else. Arguments are taken
one after the other, so what is said about the first faulty one is final.
-/

namespace EntitySql.CommandLine

/-- Why there is no request. -/
inductive Refusal
  | misuse
  | help
  | version
  deriving DecidableEq, Repr

inductive Command
  | sql
  | explain
  | query
  | dialects
  | help
  deriving DecidableEq, Repr

namespace Command

def all : List Command := [.sql, .explain, .query, .dialects, .help]

def name : Command → String
  | .sql => "sql"
  | .explain => "explain"
  | .query => "query"
  | .dialects => "dialects"
  | .help => "help"

def ofName? (s : String) : Option Command := all.find? (·.name == s)

end Command

/-- What has been given so far. -/
structure Given where
  command : Option Command := none
  /-- The configuration file named before the command. -/
  outerConfig : Option String := none
  config : Option String := none
  verbose : Bool := false
  /-- The command to get help on. -/
  topic : Option Command := none
  kind : Option StatementKind := none
  filter : Option String := none
  schema : Option String := none
  entity : Option String := none
  dialect : Option Dialect := none
  page : Option Int64 := none
  pageSize : Option Int64 := none
  format : Option OutputFormat := none
  databaseUrl : Option String := none
  captures : List String := []
  order : List String := []
  values : List String := []

/-- Options given before a command may be given again after it. -/
def Given.enter (g : Given) (c : Command) : Given :=
  { g with command := some c, outerConfig := g.config, config := none, verbose := false }

/-! ## Values of options -/

/-- The value of an option that has none yet, read by `read?`. -/
def once {α : Type} (read? : String → Option α) (old : Option α) (text : String) :
    Except Refusal (Option α) :=
  match old, read? text with
  | none, some a => .ok (some a)
  | _, _ => .error .misuse

def path? (text : String) : Option String := if text.isEmpty then none else some text

def integer? (text : String) : Option Int64 := Number.readInt64? text.toList

inductive Effect
  | flag (set : Given → Except Refusal Given)
  | value (set : String → Given → Except Refusal Given)

structure Switch where
  name : String
  letter : Option Char
  effect : Effect

namespace Switch

def refusal (name : String) (letter : Option Char) (reason : Refusal) : Switch :=
  ⟨name, letter, .flag fun _ ↦ .error reason⟩

def config : Switch :=
  ⟨"config", none, .value fun v g ↦ do return { g with config := ← once path? g.config v }⟩

def verbose : Switch :=
  ⟨"verbose", some 'v', .flag fun g ↦
    if g.verbose then .error .misuse else .ok { g with verbose := true }⟩

def help : Switch := refusal "help" (some 'h') .help

def version : Switch := refusal "version" (some 'V') .version

def schema : Switch :=
  ⟨"schema", none, .value fun v g ↦ do return { g with schema := ← once path? g.schema v }⟩

def entity : Switch :=
  ⟨"entity", some 'e', .value fun v g ↦ do return { g with entity := ← once some g.entity v }⟩

def dialect : Switch :=
  ⟨"dialect", some 'd', .value fun v g ↦ do
    return { g with dialect := ← once Dialect.ofName? g.dialect v }⟩

def filter : Switch :=
  ⟨"filter", some 'f', .value fun v g ↦ do return { g with filter := ← once some g.filter v }⟩

def page : Switch :=
  ⟨"page", none, .value fun v g ↦ do return { g with page := ← once integer? g.page v }⟩

def pageSize : Switch :=
  ⟨"page-size", none, .value fun v g ↦ do
    return { g with pageSize := ← once integer? g.pageSize v }⟩

def format : Switch :=
  ⟨"format", none, .value fun v g ↦ do
    return { g with format := ← once OutputFormat.ofName? g.format v }⟩

def databaseUrl : Switch :=
  ⟨"database-url", none, .value fun v g ↦ do
    return { g with databaseUrl := ← once some g.databaseUrl v }⟩

def captures : Switch :=
  ⟨"var", none, .value fun v g ↦ .ok { g with captures := g.captures ++ [v] }⟩

def order : Switch :=
  ⟨"order", none, .value fun v g ↦ .ok { g with order := g.order ++ [v] }⟩

def values : Switch :=
  ⟨"set", none, .value fun v g ↦ .ok { g with values := g.values ++ [v] }⟩

def everywhere : List Switch := [config, verbose, help]

def ofTarget : List Switch := [schema, entity, dialect, filter, captures, order, page, pageSize]

/-- The options known for a command, or before one. -/
def known : Option Command → List Switch
  | none => version :: everywhere
  | some .sql => values :: format :: ofTarget ++ everywhere
  | some .explain => captures :: dialect :: everywhere
  | some .query => databaseUrl :: format :: ofTarget ++ everywhere
  | some .dialects => everywhere
  | some .help => []

end Switch

/-! ## Arguments -/

inductive Argument
  | separator
  | long (name : String) (attached : Option String)
  | short (letters : List Char)
  | word

namespace Argument

/-- The parts of a text before and after its first equals sign. -/
def splitEquals (s : List Char) : List Char × Option (List Char) :=
  match s.dropWhile (· != '=') with
  | [] => (s, none)
  | _ :: value => (s.takeWhile (· != '='), some value)

def ofChars : List Char → Argument
  | ['-', '-'] => .separator
  | '-' :: '-' :: s =>
    let (name, value) := splitEquals s
    .long (String.ofList name) (value.map String.ofList)
  | '-' :: c :: s => .short (c :: s)
  | _ => .word

def of (text : String) : Argument := ofChars text.toList

def isWord (text : String) : Bool :=
  match of text with
  | .word => true
  | _ => false

end Argument

def word (text : String) (g : Given) : Except Refusal Given :=
  match g.command with
  | none =>
    match Command.ofName? text with
    | some c => .ok (g.enter c)
    | none => .error .misuse
  | some .sql => do return { g with kind := ← once StatementKind.ofName? g.kind text }
  | some .explain => do return { g with filter := ← once some g.filter text }
  | some .help => do return { g with topic := ← once Command.ofName? g.topic text }
  | some _ => .error .misuse

/-- Arguments after two hyphens alone, which may stand where a command takes words of its own. -/
def words (g : Given) (args : List String) : Except Refusal Given :=
  match g.command with
  | none | some .help => .error .misuse
  | some _ => args.foldlM (fun g text ↦ word text g) g

/-- What is left to do after an option: nothing, or to give it the next argument. -/
inductive Pending
  | done (given : Given)
  | value (set : String → Given → Except Refusal Given) (given : Given)

def long (name : String) (attached : Option String) (g : Given) : Except Refusal Pending :=
  match (Switch.known g.command).find? (·.name == name) with
  | none => .error .misuse
  | some s =>
    match s.effect, attached with
    | .flag set, none => (set g).map .done
    | .flag _, some _ => .error .misuse
    | .value set, some v => (set v g).map .done
    | .value set, none => .ok (.value set g)

/-- A value attached to a letter may follow an equals sign. -/
def attachedValue : List Char → String
  | '=' :: v => String.ofList v
  | v => String.ofList v

/-- Options of one letter: flags, and perhaps at the end an option with its value. -/
def short (g : Given) : List Char → Except Refusal Pending
  | [] => .ok (.done g)
  | c :: rest =>
    match (Switch.known g.command).find? (·.letter == some c) with
    | none => .error .misuse
    | some s =>
      match s.effect with
      | .flag set => do
        let g ← set g
        short g rest
      | .value set =>
        if rest.isEmpty then .ok (.value set g) else (set (attachedValue rest) g).map .done

def next (text : String) (argument : Argument) (g : Given) : Except Refusal Pending :=
  match argument with
  | .word => (word text g).map .done
  | .long name attached => long name attached g
  | .short letters => short g letters
  | .separator => .ok (.done g)

def take (g : Given) : List String → Except Refusal Given
  | [] => .ok g
  | text :: rest =>
    match Argument.of text with
    | .separator => words g rest
    | argument =>
      match next text argument g with
      | .error refusal => .error refusal
      | .ok (.done g) => take g rest
      | .ok (.value set g) =>
        match rest with
        | [] => .error .misuse
        | v :: rest =>
          if Argument.isWord v then
            match set v g with
            | .error refusal => .error refusal
            | .ok g => take g rest
          else .error .misuse

/-! ## Requests -/

namespace Given

def target? (g : Given) : Option Target := do
  return {
    schema := g.schema
    entity := ← g.entity
    dialect := g.dialect
    filter := g.filter
    captures := g.captures
    order := g.order
    page := g.page
    pageSize := g.pageSize }

def sqlTask? (g : Given) : Option Task := do
  return .sql (← g.kind) (← g.target?) g.values (g.format.getD .table)

def explainTask? (g : Given) : Option Task := do
  return .explain (← g.filter) g.captures (g.dialect.getD .db2)

def queryTask? (g : Given) : Option Task := do
  return .query (← g.target?) g.databaseUrl (g.format.getD .table)

def task (g : Given) : Except Refusal Task :=
  let complete (task : Option Task) : Except Refusal Task :=
    match task with
    | some t => .ok t
    | none => .error .misuse
  match g.command with
  | none => .error .misuse
  | some .sql => complete g.sqlTask?
  | some .explain => complete g.explainTask?
  | some .query => complete g.queryTask?
  | some .dialects => .ok .dialects
  | some .help => .error .help

def request (g : Given) : Except Refusal Request :=
  g.task.map fun task ↦ ⟨g.config.or g.outerConfig, task⟩

end Given

def Request.read (args : List String) : Except Refusal Request := do
  let g ← take {} args
  g.request

end EntitySql.CommandLine
