import EntitySql.Filter.Evaluation
import EntitySql.Proofs.Outcome

/-!
# Truth of filters

The value of a condition, taken apart into the values of its parts. Without a null that is known
before any row, a comparison says what the order of its sides says, and nothing where there is
none; with one, equality asks whether the other side is null.
-/

namespace EntitySql

namespace Evaluation

theorem property_eq_ok {row : Record} {name : String} {v : Value} :
    property (some row) name = .ok v ↔ Record.get? row name = some v := by
  cases hget : Record.get? row name <;> simp [property, hget]

theorem truth?_ofTruth (t : Option Bool) : truth? (ofTruth t) = .ok t := by
  rcases t with _ | b <;> rfl

theorem compare_null_left (v : Value) : Value.null.compare v = none := by cases v <;> rfl

theorem compare_null_right (v : Value) : v.compare .null = none := by cases v <;> rfl

theorem eq_null_of_isNull {v : Value} (h : v.isNull = true) : v = .null := by
  cases v <;> first | rfl | cases h

/-- A comparison in which no null is known is null where the values have no order. -/
theorem compareValues_unknown (op : CompareOp) (a b : Value) :
    compareValues op a b false = (a.compare b).map op.holds := by
  unfold compareValues
  split
  · next h =>
    rcases Bool.or_eq_true_iff.1 h with hnull | hnull
    · rw [eq_null_of_isNull hnull, compare_null_left]
      cases op <;> rfl
    · rw [eq_null_of_isNull hnull, compare_null_right]
      cases op <;> rfl
  · rfl

/-- What a comparison with a known null says of the other side. -/
def nullAnswer (op : CompareOp) (v : Value) : Option Bool :=
  match op with
  | .eq => some v.isNull
  | .ne => some !v.isNull
  | _ => none

/-- A known null asks whether the other side is null. -/
theorem compareValues_null_right (op : CompareOp) (v : Value) :
    compareValues op v .null true = nullAnswer op v := by
  cases op <;> simp [compareValues, nullAnswer, Value.isNull]

theorem compareValues_null_left (op : CompareOp) (v : Value) :
    compareValues op .null v true = nullAnswer op v := by
  cases op <;> simp [compareValues, nullAnswer, Value.isNull]

end Evaluation

namespace Expr

open Evaluation

variable {row : Option Record}

/-- A comparison knows of a null on a side that is closed. -/
theorem eval_compare {op : CompareOp} {left right : Expr} {a b : Value}
    (hleft : left.eval row = .ok a) (hright : right.eval row = .ok b) :
    (compare op left right).eval row = .ok (ofTruth (compareValues op a b
      ((left.isClosed && a.isNull) || (right.isClosed && b.isNull)))) := by
  rw [eval, hleft, hright]
  rfl

theorem eval_not {inner : Expr} {t : Option Bool} (h : inner.eval row = .ok (ofTruth t)) :
    (not inner).eval row = .ok (ofTruth (t.map (!·))) := by
  rw [eval, h]
  change (truth? (ofTruth t)).bind _ = _
  rw [truth?_ofTruth]
  rfl

/-- Connectives take truth values as they are, unknown ones too. -/
theorem eval_connect {op : Connective} {left right : Expr} {s t : Option Bool}
    (hleft : left.eval row = .ok (ofTruth s)) (hright : right.eval row = .ok (ofTruth t)) :
    (connect op left right).eval row = .ok (ofTruth (Evaluation.connect op s t)) := by
  rw [eval, hleft, hright]
  change (truth? (ofTruth s)).bind _ = _
  rw [truth?_ofTruth]
  change (truth? (ofTruth t)).bind _ = _
  rw [truth?_ofTruth]
  rfl

theorem eval_call {target arg : Expr} {method : String} {m : StringMethod} {receiver v : Value}
    (hm : StringMethod.ofName? method = some m) (htarget : target.eval row = .ok receiver)
    (harg : arg.eval row = .ok v) :
    (call target method [arg]).eval row = .ok (ofTruth (applyStringMethod m receiver v)) := by
  have hargs : evalAll row [arg] = .ok [v] := by
    rw [evalAll, harg]
    rfl
  rw [eval, htarget, hargs]
  change callMethod receiver method [v] = _
  rw [callMethod, hm]

end Expr

end EntitySql
