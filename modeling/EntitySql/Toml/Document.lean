import EntitySql.Toml.Scalar

/-!
# TOML documents

A document is a list of headers and pairs, and the tree that these build. A table is defined
once: a header may open a table that was only implied by the path of another one, and dotted keys
may extend only what dotted keys began. Each header of an array of tables adds a table to it.
-/

namespace EntitySql.Toml

/-! ## The tree -/

/-- A part of a document that is being read. -/
inductive Node
  | value (v : Toml)
  | table (implicit dotted : Bool) (entries : List (String × Node))
  /-- An array of tables, the latest first. -/
  | tables (rows : List (List (String × Node)))

abbrev Entries := List (String × Node)

/-- Changes the entry of a key, which may be missing; a new entry goes to the end. -/
def alter? (key : String) (change : Option Node → Option Node) : Entries → Option Entries
  | [] => (change none).map fun node ↦ [(key, node)]
  | (other, node) :: rest =>
    if other = key then (change (some node)).map fun node ↦ (key, node) :: rest
    else (alter? key change rest).map ((other, node) :: ·)

/-- Changes the table at the end of a path, which is created where it is missing. What is changed
is told whether the table came from a dotted key. -/
def within? (dotted : Bool) (change : Bool → Entries → Option Entries) :
    List String → Bool → Entries → Option Entries
  | [], tableDotted, entries => change tableDotted entries
  | key :: path, _, entries =>
    alter? key (fun
      | none => (within? dotted change path dotted []).map (.table true dotted)
      | some (.value _) => none
      | some (.tables []) => none
      | some (.tables (row :: rows)) =>
        (within? dotted change path false row).map fun row ↦ .tables (row :: rows)
      | some (.table implicit tableDotted inner) =>
        if dotted && !implicit then none
        else (within? dotted change path tableDotted inner).map (.table implicit tableDotted))
      entries

/-- Adds a value under the last part of a key; the parts before it are a dotted path. -/
def insertPair? (path : List String) (key : String) (v : Toml) : Bool → Entries → Option Entries :=
  within? true
    (fun tableDotted entries ↦
      if tableDotted == path.isEmpty then none
      else alter? key (fun | none => some (.value v) | some _ => none) entries)
    path

def openTable? (path : List String) (key : String) (root : Entries) : Option Entries :=
  within? false
    (fun _ entries ↦ alter? key (fun
      | none => some (.table false false [])
      | some (.table true false inner) => some (.table false false inner)
      | some _ => none) entries)
    path false root

def openRow? (path : List String) (key : String) (root : Entries) : Option Entries :=
  within? false
    (fun _ entries ↦ alter? key (fun
      | none => some (.tables [[]])
      | some (.tables rows) => some (.tables ([] :: rows))
      | some _ => none) entries)
    path false root

mutual

def Node.toToml : Node → Toml
  | .value v => v
  | .table _ _ entries => .table (entriesToToml entries)
  | .tables rows => .array (rowsToToml rows).reverse

def entriesToToml : List (String × Node) → List (String × Toml)
  | [] => []
  | (key, node) :: rest => (key, node.toToml) :: entriesToToml rest

def rowsToToml : List (List (String × Node)) → List Toml
  | [] => []
  | row :: rows => .table (entriesToToml row) :: rowsToToml rows

end

/-- The parts of a key before the last one, and the last one. -/
def splitLast : List String → List String × String
  | [] => ([], "")
  | [key] => ([], key)
  | key :: keys => let (path, last) := splitLast keys; (key :: path, last)

/-! ## Values -/

section Containers

variable (nested : Reader Toml)

/-- The items of an array through the closing bracket. The count bounds them. -/
def items? : Nat → List Toml → Reader (List Toml)
  | 0, _, _ => none
  | count + 1, acc, s =>
    match skipLines s.length s with
    | ']' :: rest => some (acc, rest)
    | t =>
      match nested t with
      | none => none
      | some (v, rest) =>
        match skipLines rest.length rest with
        | ']' :: rest => some (acc ++ [v], rest)
        | ',' :: rest => items? count (acc ++ [v]) rest
        | _ => none

def pair? (s : List Char) : Option ((List String × Toml) × List Char) := do
  let (keys, rest) ← keyPath? s
  match rest with
  | '=' :: rest =>
    let (v, rest) ← nested (skipInline rest)
    return ((keys, v), rest)
  | _ => none

/-- The pairs of an inline table through the closing brace. The count bounds them. -/
def pairs? : Nat → Entries → Reader Entries
  | 0, _, _ => none
  | count + 1, entries, s =>
    match pair? nested s with
    | none => none
    | some ((keys, v), rest) =>
      let (path, key) := splitLast keys
      match insertPair? path key v false entries with
      | none => none
      | some entries =>
        match skipInline rest with
        | '\x7d' :: rest => some (entries, rest)
        | ',' :: rest => pairs? count entries rest
        | _ => none

def container? : Reader Toml
  | '[' :: s => (items? nested (s.length + 1) [] s).map fun (vs, rest) ↦ (.array vs, rest)
  | '\x7b' :: s =>
    match skipInline s with
    | '\x7d' :: rest => some (.table [], rest)
    | t => (pairs? nested (t.length + 1) [] t).map fun (entries, rest) ↦
      (.table (entriesToToml entries), rest)
  | _ => none

end Containers

def value? : Nat → Reader Toml
  | 0 => scalar?
  | depth + 1 => fun s ↦ (container? (value? depth) s).or (scalar? s)

/-! ## Lines -/

inductive Line
  | header (keys : List String)
  | rowHeader (keys : List String)
  | pair (keys : List String) (v : Toml)

def line? (s : List Char) : Option (Line × List Char) :=
  match s with
  | '[' :: '[' :: t => do
    let (keys, rest) ← keyPath? t
    let rest ← symbol? [']', ']'] rest
    return (.rowHeader keys, rest)
  | '[' :: t => do
    let (keys, rest) ← keyPath? t
    let rest ← symbol? [']'] rest
    return (.header keys, rest)
  | t => do
    let ((keys, v), rest) ← pair? (value? (depthLimit - 1)) t
    return (.pair keys v, rest)

/-- The lines of a document. The count bounds them. -/
def lines? : Nat → List Line → List Char → Option (List Line)
  | 0, _, _ => none
  | count + 1, acc, s =>
    match skipLines s.length s with
    | [] => some acc.reverse
    | t =>
      match line? t with
      | none => if (skipComment t).isEmpty then some acc.reverse else none
      | some (line, rest) =>
        match lineEnd? rest with
        | none => none
        | some rest => lines? count (line :: acc) rest

/-- Adds a line to the tree. `open_` is the path of the table that pairs go into. -/
def addLine? (open_ : List String) (root : Entries) : Line → Option (List String × Entries)
  | .header keys =>
    let (path, key) := splitLast keys
    (openTable? path key root).map (keys, ·)
  | .rowHeader keys =>
    let (path, key) := splitLast keys
    (openRow? path key root).map (keys, ·)
  | .pair keys v =>
    let (path, key) := splitLast keys
    (within? false (insertPair? path key v) open_ false root).map (open_, ·)

def addLines? : List Line → List String → Entries → Option Entries
  | [], _, root => some root
  | line :: rest, open_, root =>
    match addLine? open_ root line with
    | some (open_, root) => addLines? rest open_ root
    | none => none

/-- The table of a whole document; a byte order mark ahead of it does not count. -/
def read? (text : String) : Option (List (String × Toml)) :=
  let s := match text.toList with
    | '\ufeff' :: s => s
    | s => s
  (lines? (s.length + 1) [] s).bind fun lines ↦ (addLines? lines [] []).map entriesToToml

end EntitySql.Toml
