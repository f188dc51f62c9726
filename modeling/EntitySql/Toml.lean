/-!
# TOML

The values of a TOML document. Dates and times keep the text they are written in.
-/

namespace EntitySql

inductive Toml
  | string (s : String)
  | integer (n : Int64)
  | float (x : Float)
  | boolean (b : Bool)
  | dateTime (text : List Char)
  | array (items : List Toml)
  | table (entries : List (String × Toml))

namespace Toml

instance : Inhabited Toml := ⟨.table []⟩

/-- How deep arrays and inline tables may nest, and one more than the parts a key may have. -/
def depthLimit : Nat := 80

abbrev Reader (α : Type) := List Char → Option (α × List Char)

def asString? : Toml → Option String
  | .string s => some s
  | _ => none

def asBoolean? : Toml → Option Bool
  | .boolean b => some b
  | _ => none

def asInteger? : Toml → Option Int64
  | .integer n => some n
  | _ => none

def asArray? : Toml → Option (List Toml)
  | .array items => some items
  | _ => none

/-- The parts of a record by name, or by place in an array; what is missing is `none`. -/
def parts? (names : List String) : Toml → Option (List (Option Toml))
  | .table entries => some (names.map fun name ↦ entries.lookup name)
  | .array items => some ((List.range names.length).map (items[·]?))
  | _ => none

/-- A part that may be left out, and is then `missing`. -/
def orElse {α : Type} (missing : α) (read? : Toml → Option α) : Option Toml → Option α
  | none => some missing
  | some v => read? v

end Toml

end EntitySql
