/-!
# JSON

The tree of a JSON text. A number is kept as it is written, so what it means is settled where it
is used; the fields of an object keep their order and their repetitions. A string whose escapes
leave a surrogate without its partner is good JSON but no text: it too is kept as it is written,
and matters only to a reader that uses it.
-/

namespace EntitySql

inductive Json
  | null
  | bool (b : Bool)
  | number (literal : List Char)
  | string (s : String)
  | array (items : List Json)
  | object (fields : List (String × Json))
  /-- A string that is no text, or an object with such a string for a name. -/
  | raw (source : List Char)

namespace Json

instance : Inhabited Json := ⟨.null⟩

def ofInt (n : Int) : Json := .number (toString n).toList

/-- The field of a name; of several the last one. -/
def field? (j : Json) (name : String) : Option Json :=
  match j with
  | .object fields => fields.reverse.lookup name
  | _ => none

end Json

end EntitySql
