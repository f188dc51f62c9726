import EntitySql.Proofs.ConditionText.Clause
import EntitySql.Proofs.ConditionText.Pattern
import EntitySql.Session.Row
import EntitySql.Sql.ParamBag
import EntitySql.Value.Text

/-!
# The truth of an SQL condition

A condition is true, false or unknown on a row of its table, where its parameters have values. A
comparison is unknown where a side is null or the sides have no order between them, and a pattern
match where either text is missing. The connectives are those of Kleene. A condition that names a
column or parameter that is not there has no truth value at all, nor has one whose flag is
neither a truth value nor null.
-/

namespace EntitySql.ConditionText

open Text

def upperText (v : Value) : Value :=
  .ofOption (fun s ↦ .string (String.ofList (upper s.toList))) v.patternText?

def joinedText (a b : Value) : Value :=
  match a.patternText?, b.patternText? with
  | some s, some t => .string (s ++ t)
  | _, _ => .null

def isLike (text pattern : Value) : Option Bool :=
  match text.patternText?, pattern.patternText? with
  | some s, some p => some (matchesPattern p.toList s.toList)
  | _, _ => none

def conjoined : Option Bool → Option Bool → Option Bool
  | some a, some b => some (a && b)
  | a, b => if a = some false ∨ b = some false then some false else none

def disjoined : Option Bool → Option Bool → Option Bool
  | some a, some b => some (a || b)
  | a, b => if a = some true ∨ b = some true then some true else none

def connected : Connective → Option Bool → Option Bool → Option Bool
  | .and => conjoined
  | .or => disjoined

def flagTruth? : Value → Option (Option Bool)
  | .bool b => some (some b)
  | .null => some none
  | _ => none

/-- The value in a column; databases do not look at the case of its name. -/
def column? (row : Row) (name : String) : Option Value :=
  (row.columns.find? fun column ↦ sameIgnoringCase column.1 name).map (·.2)

section Truth

variable (row : Row) (params : ParamBag)

def Term.value? : Term → Option Value
  | .column name => column? row name
  | .param name => params.get? name
  | .null => some .null
  | .number n => (Number.int64? n).map .int
  | .string text => some (.string text)
  | .upper inner => inner.value?.map upperText
  | .join left right =>
    match left.value?, right.value? with
    | some a, some b => some (joinedText a b)
    | _, _ => none

def Term.both? (left right : Term) (relation : Value → Value → Option Bool) :
    Option (Option Bool) :=
  match left.value? row params, right.value? row params with
  | some a, some b => some (relation a b)
  | _, _ => none

def Clause.truth? : Clause → Option (Option Bool)
  | .compare op left right => left.both? row params right fun a b ↦ (a.compare b).map op.holds
  | .isNull t => (t.value? row params).map fun v ↦ some v.isNull
  | .isNotNull t => (t.value? row params).map fun v ↦ some !v.isNull
  | .like text pattern => text.both? row params pattern isLike
  | .flag t => (t.value? row params).bind flagTruth?
  | .not inner => inner.truth?.map (·.map (!·))
  | .connect op left right =>
    match left.truth?, right.truth? with
    | some a, some b => some (connected op a b)
    | _, _ => none

end Truth

/-- What a text says of a row, read as a condition of a dialect. -/
def truth? (d : Dialect) (row : Row) (params : ParamBag) (text : String) : Option (Option Bool) :=
  (Clause.read? d text).bind (·.truth? row params)

end EntitySql.ConditionText
