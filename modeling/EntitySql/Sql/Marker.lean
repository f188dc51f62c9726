import EntitySql.Error
import EntitySql.Sql.ParamBag
import EntitySql.Sql.Style
import EntitySql.Text.Letter

/-!
# Markers and placeholders

Before a statement runs, every marker `@name` outside quoted text becomes a placeholder of the
driver, and the values are listed in the order of the placeholders. A null is written into the
text as NULL instead. Two at-signs in a row are not a marker.
-/

namespace EntitySql

/-- A statement as the driver takes it. -/
structure Bound where
  sql : String
  values : List Value

namespace Marker

/-- The value of a parameter: by its exact name first, else by the first name that differs only
in the case of ASCII letters. -/
def lookup? (bag : ParamBag) (name : String) : Option Value :=
  (bag.get? name).or
    ((bag.entries.find? fun entry ↦ Text.sameIgnoringCase entry.1 name).map (·.2))

/-- The closing quote of the quoted text that a character opens. -/
def closing? (c : Char) : Option Char :=
  if c = '\x27' ∨ c = '\x22' ∨ c = '\x60' then some c
  else if c = '[' then some ']'
  else none

/-- The text with its markers replaced, and the values in order. `quote` is the closing quote
while inside quoted text, `skipped` counts characters of a marker already replaced, and `bound`
counts the placeholders written. -/
def scan (style : Style) (bag : ParamBag) :
    (quote : Option Char) → (skipped bound : Nat) → List Char →
      Except Error (List Char × List Value)
  | _, _, _, [] => .ok ([], [])
  | quote, skipped + 1, bound, _ :: s => scan style bag quote skipped bound s
  | some quote, 0, bound, c :: s => do
    let (text, values) ← scan style bag (if c = quote then none else some quote) 0 bound s
    return (c :: text, values)
  | none, 0, bound, c :: s =>
    if c ≠ '@' then do
      let (text, values) ← scan style bag (closing? c) 0 bound s
      return (c :: text, values)
    else if s.head? = some '@' then do
      let (text, values) ← scan style bag none 1 bound s
      return ('@' :: '@' :: text, values)
    else
      let name := s.takeWhile Text.isAsciiWordPart
      if name.isEmpty then do
        let (text, values) ← scan style bag none 0 bound s
        return ('@' :: text, values)
      else
        match lookup? bag (String.ofList name) with
        | none => .error (.validation (.missingParameter (String.ofList name)))
        | some .null => do
          let (text, values) ← scan style bag none name.length bound s
          return ("NULL".toList ++ text, values)
        | some v => do
          let (text, values) ← scan style bag none name.length (bound + 1) s
          return ((style.placeholder (bound + 1)).toList ++ text, v :: values)

end Marker

def bindMarkers (sql : String) (bag : ParamBag) (dialect : Dialect) : Except Error Bound := do
  let (text, values) ← Marker.scan dialect.style bag none 0 0 sql.toList
  return ⟨String.ofList text, values⟩

end EntitySql
