import EntitySql.Proofs.Number.Reading
import EntitySql.Proofs.Sql.Lowering

/-!
# Calculations with integers

A calculation is made of integers by the four operations. Its value is the one that the same
operations have on all integers, or it has none: where some part of it has no value of 64 bits, the
whole fails with the fault of such a part, and so does a comparison of a column with it.
-/

namespace EntitySql

namespace Expr

variable {e part left right : Expr} {op : ArithOp} {a b m n : Int}

/-- Integers, and operations on calculations. -/
inductive IsCalculation : Expr → Prop
  | number (n : Int64) : IsCalculation (.const (.int n))
  | arith (op : ArithOp) {left right : Expr} :
    IsCalculation left → IsCalculation right → IsCalculation (.arith op left right)

/-- The value of a calculation among all integers. A quotient is truncated towards zero. -/
inductive HasExactValue : Expr → Int → Prop
  | number (n : Int64) : HasExactValue (.const (.int n)) n.toInt
  | add {left right : Expr} {a b : Int} :
    HasExactValue left a → HasExactValue right b → HasExactValue (.arith .add left right) (a + b)
  | sub {left right : Expr} {a b : Int} :
    HasExactValue left a → HasExactValue right b → HasExactValue (.arith .sub left right) (a - b)
  | mul {left right : Expr} {a b : Int} :
    HasExactValue left a → HasExactValue right b → HasExactValue (.arith .mul left right) (a * b)
  | div {left right : Expr} {a b : Int} :
    HasExactValue left a → HasExactValue right b → b ≠ 0 →
      HasExactValue (.arith .div left right) (a.tdiv b)

/-- There is an exact value, and it is one of 64 bits. -/
def FitsInt64 (e : Expr) : Prop := ∃ n, e.HasExactValue n ∧ -2 ^ 63 ≤ n ∧ n < 2 ^ 63

/-! ## Exact values -/

open Evaluation (integerResult? arithInt)

theorem hasExactValue_arith : (arith op left right).HasExactValue n ↔
    ∃ a b, left.HasExactValue a ∧ right.HasExactValue b ∧ integerResult? op a b = some n := by
  constructor
  · intro h
    cases h with
    | add hleft hright => exact ⟨_, _, hleft, hright, rfl⟩
    | sub hleft hright => exact ⟨_, _, hleft, hright, rfl⟩
    | mul hleft hright => exact ⟨_, _, hleft, hright, rfl⟩
    | div hleft hright hzero => exact ⟨_, _, hleft, hright, if_neg hzero⟩
  · rintro ⟨a, b, hleft, hright, hresult⟩
    cases op with
    | add => exact Option.some.inj hresult ▸ .add hleft hright
    | sub => exact Option.some.inj hresult ▸ .sub hleft hright
    | mul => exact Option.some.inj hresult ▸ .mul hleft hright
    | div =>
      rw [integerResult?, Option.ite_none_left_eq_some] at hresult
      exact Option.some.inj hresult.2 ▸ .div hleft hright hresult.1

theorem HasExactValue.unique (hm : e.HasExactValue m) (hn : e.HasExactValue n) : m = n := by
  induction hm generalizing n with
  | number k =>
    cases hn
    rfl
  | add _ _ ihl ihr =>
    cases hn with
    | add hleft hright => rw [ihl hleft, ihr hright]
  | sub _ _ ihl ihr =>
    cases hn with
    | sub hleft hright => rw [ihl hleft, ihr hright]
  | mul _ _ ihl ihr =>
    cases hn with
    | mul hleft hright => rw [ihl hleft, ihr hright]
  | div _ _ _ ihl ihr =>
    cases hn with
    | div hleft hright _ => rw [ihl hleft, ihr hright]

theorem HasExactValue.fitsInt64 {n : Int64} (h : e.HasExactValue n.toInt) : e.FitsInt64 :=
  ⟨n.toInt, h, n.le_toInt, n.toInt_lt⟩

/-! ## Faults -/

/-- Operands of 64 bits whose operation has no result of 64 bits, and what is reported of them. -/
inductive FailsAt : Expr → ValidationError → Prop
  | divisionByZero {left right : Expr} {a : Int64} :
    HasExactValue left a.toInt → HasExactValue right 0 →
      FailsAt (.arith .div left right) .divisionByZero
  | overflow {op : ArithOp} {left right : Expr} {a b : Int64} {n : Int} :
    HasExactValue left a.toInt → HasExactValue right b.toInt →
      HasExactValue (.arith op left right) n → ¬ (-2 ^ 63 ≤ n ∧ n < 2 ^ 63) →
      FailsAt (.arith op left right) (.overflow a op b)

theorem FailsAt.not_fitsInt64 {cause : ValidationError} (h : e.FailsAt cause) : ¬ e.FitsInt64 := by
  rintro ⟨m, hm, hrange⟩
  cases h with
  | divisionByZero _ hzero =>
    cases hm with
    | div _ hright hne => exact hne (hright.unique hzero)
  | overflow _ _ hn hout => exact hout (hm.unique hn ▸ hrange)

/-! ## Evaluation -/

theorem evaluate_arith_of_ok {op : ArithOp} {a b : Int64} (hleft : left.evaluate = .ok (.int a))
    (hright : right.evaluate = .ok (.int b)) :
    (arith op left right).evaluate = (arithInt op a b).map .int := by
  rw [evaluate, eval, ← evaluate, hleft, ← evaluate, hright]
  cases op <;> rfl

theorem arithInt_cases (op : ArithOp) {a b : Int64} (hleft : left.HasExactValue a.toInt)
    (hright : right.HasExactValue b.toInt) :
    (∃ n : Int64, arithInt op a b = .ok n ∧ (arith op left right).HasExactValue n.toInt) ∨
      ∃ cause, arithInt op a b = .error (.validation cause) ∧
        (arith op left right).FailsAt cause := by
  unfold arithInt
  split
  · next hnone =>
    refine .inr ⟨_, rfl, ?_⟩
    cases op with
    | div =>
      have hzero : b.toInt = 0 := by
        by_contra hne
        rw [integerResult?, if_neg hne] at hnone
        cases hnone
      exact .divisionByZero hleft (hzero ▸ hright)
    | _ => cases hnone
  · next n hresult =>
    have hvalue : (arith op left right).HasExactValue n :=
      hasExactValue_arith.2 ⟨_, _, hleft, hright, hresult⟩
    split
    · next m hm => exact .inl ⟨m, rfl, Number.int64?_eq_some.1 hm ▸ hvalue⟩
    · next hnone =>
      have hrange := Number.int64?_eq_none.1 hnone
      exact .inr ⟨_, rfl, .overflow hleft hright hvalue hrange⟩

/-- A calculation has its exact value, or one of its parts fails, the left one before the right. -/
theorem IsCalculation.evaluate_cases (h : e.IsCalculation) :
    (∃ n : Int64, e.evaluate = .ok (.int n) ∧ e.HasExactValue n.toInt ∧
      e.Throughout FitsInt64) ∨
      ∃ (cause : ValidationError) (part : Expr), e.evaluate = .error (.validation cause) ∧
        part.Within e ∧ part.FailsAt cause := by
  induction h with
  | number n =>
    have hvalue : (const (.int n)).HasExactValue n.toInt := .number n
    exact .inl ⟨n, rfl, hvalue, throughout_of_parts_nil hvalue.fitsInt64 rfl⟩
  | @arith op left right _ _ ihl ihr =>
    rcases ihl with ⟨a, hleft, ha, hfitsl⟩ | ⟨cause, part, hleft, hpart, hfails⟩
    · rcases ihr with ⟨b, hright, hb, hfitsr⟩ | ⟨cause, part, hright, hpart, hfails⟩
      · rw [evaluate_arith_of_ok hleft hright]
        rcases arithInt_cases op ha hb with ⟨n, hresult, hn⟩ | ⟨cause, hresult, hfails⟩
        · rw [hresult]
          exact .inl ⟨n, rfl, hn, throughout_pair hn.fitsInt64 rfl hfitsl hfitsr⟩
        · rw [hresult]
          exact .inr ⟨cause, _, rfl, .refl, hfails⟩
      · have hwithin : part.Within (Expr.arith op left right) :=
          hpart.tail (List.mem_cons_of_mem _ List.mem_cons_self)
        refine .inr ⟨cause, part, ?_, hwithin, hfails⟩
        rw [evaluate, eval, ← evaluate, hleft, ← evaluate, hright]
        rfl
    · refine .inr ⟨cause, part, ?_, hpart.tail List.mem_cons_self, hfails⟩
      rw [evaluate, eval, ← evaluate, hleft]
      rfl

theorem IsCalculation.isClosed (h : e.IsCalculation) : e.isClosed = true := by
  induction h with
  | number n => rfl
  | arith op _ _ ihl ihr => exact Bool.and_eq_true_iff.2 ⟨ihl, ihr⟩

end Expr

/-! ## Comparisons with a column -/

namespace Lowering

variable {resolve : Resolver} {property column : String} {e : Expr}

/-- A comparison of a known column with something closed, on either side, is the one with its
value. -/
theorem comparison_column (hresolve : resolve property = .ok column) (he : e.isClosed = true)
    (op : CompareOp) (b : Bindings) :
    comparison resolve op (.column property) e b =
        e.evaluate.bind (compareWith column op · b) ∧
      comparison resolve op e (.column property) b =
        e.evaluate.bind (compareWith column op · b) := by
  unfold comparison
  rw [operand_column hresolve, operand_of_isClosed he]
  cases e.evaluate <;> exact ⟨rfl, rfl⟩

end Lowering

open Lowering

/-- A calculation has its exact value where all of its parts have values of 64 bits. Otherwise it
fails, for a part whose operands have such values while it has none. A comparison of a known column
with a calculation, on either side, binds the value of the calculation, or fails as it does. -/
theorem calculations_exact_or_fail {e : Expr} (he : e.IsCalculation) :
    (e.Throughout Expr.FitsInt64 →
      ∃ n : Int64, e.evaluate = .ok (.int n) ∧ e.HasExactValue n.toInt) ∧
    (¬ e.Throughout Expr.FitsInt64 →
      ∃ (cause : ValidationError) (part : Expr), e.evaluate = .error (.validation cause) ∧
        part.Within e ∧ part.FailsAt cause) ∧
    ∀ (resolve : Resolver) (property column : String), resolve property = .ok column →
      ∀ (op : CompareOp) (dialect : Dialect) (comparison : Expr),
        comparison = .compare op (.column property) e ∨
            comparison = .compare op e (.column property) →
          (∀ error, e.evaluate = .error error → comparison.lower resolve dialect = .error error) ∧
          ∀ v, e.evaluate = .ok v → ∃ f, comparison.lower resolve dialect = .ok f ∧
            f.params.entries = [(Bindings.paramName column 0, v)] := by
  refine ⟨fun hfits ↦ ?_, fun hfits ↦ ?_, fun resolve property column hresolve op dialect ↦ ?_⟩
  · rcases he.evaluate_cases with ⟨n, hn, hvalue, -⟩ | ⟨cause, part, -, hpart, hfails⟩
    · exact ⟨n, hn, hvalue⟩
    · exact absurd (hfits part hpart) hfails.not_fitsInt64
  · rcases he.evaluate_cases with ⟨n, -, -, hthroughout⟩ | hfails
    · exact absurd hthroughout hfits
    · exact hfails
  · intro comparison hcomparison
    obtain ⟨hleft, hright⟩ := comparison_column hresolve he.isClosed op .empty
    have hcondition : condition resolve comparison .empty =
        e.evaluate.bind (compareWith column op · .empty) := by
      rcases hcomparison with rfl | rfl
      · exact hleft
      · exact hright
    constructor
    · intro error herror
      rw [Expr.lower, hcondition, herror]
      rfl
    · intro v hv
      rw [Expr.lower, hcondition, hv]
      obtain ⟨n, hn⟩ : ∃ n, v = .int n := by
        rcases he.evaluate_cases with ⟨n, hn, -⟩ | ⟨cause, part, hcause, -⟩
        · exact ⟨n, Except.ok.inj (hv.symm.trans hn)⟩
        · cases hv.symm.trans hcause
      subst hn
      exact ⟨_, rfl, rfl⟩

/-- A quotient of negative sign is truncated upwards. The least number has no quotient by -1, and a
product with zero does not hide that. -/
theorem calculations_exact_or_fail_at_least_number :
    let rounded : Expr := .arith .div (.const (.int (-7))) (.const (.int 2))
    let least : Expr := .const (.int Int64.minValue)
    let hidden : Expr := .arith .mul (.const (.int 0))
      (.arith .div least (.arith .sub (.const (.int 2)) (.const (.int 3))))
    (rounded.IsCalculation ∧ rounded.Throughout Expr.FitsInt64 ∧
      rounded.evaluate = .ok (.int (-3)) ∧
      ∃ n : Int64, rounded.evaluate = .ok (.int n) ∧ rounded.HasExactValue n.toInt) ∧
    hidden.IsCalculation ∧
      hidden.evaluate = .error (.validation (.overflow Int64.minValue .div (-1))) ∧
      (Expr.compare .lt (.column "Age") hidden).lower .ok .postgres =
        .error (.validation (.overflow Int64.minValue .div (-1))) := by
  intro rounded least hidden
  have hrounded : rounded.IsCalculation := .arith .div (.number (-7)) (.number 2)
  have hhidden : hidden.IsCalculation :=
    .arith .mul (.number 0) (.arith .div (.number _) (.arith .sub (.number 2) (.number 3)))
  have hfits : rounded.Throughout Expr.FitsInt64 := by
    have hnumber (n : Int64) : (Expr.const (.int n)).Throughout Expr.FitsInt64 :=
      Expr.throughout_of_parts_nil (Expr.HasExactValue.number n).fitsInt64 rfl
    refine Expr.throughout_pair ?_ rfl (hnumber (-7)) (hnumber 2)
    exact ⟨_, .div (.number (-7)) (.number 2) (by decide), by decide, by decide⟩
  have hfails : hidden.evaluate = .error (.validation (.overflow Int64.minValue .div (-1))) := rfl
  have hexact := (calculations_exact_or_fail hrounded).1 hfits
  refine ⟨⟨hrounded, hfits, rfl, hexact⟩, hhidden, hfails, ?_⟩
  exact ((calculations_exact_or_fail hhidden).2.2 .ok "Age" "Age" rfl .lt .postgres _ (.inl rfl)).1
    _ hfails

end EntitySql
