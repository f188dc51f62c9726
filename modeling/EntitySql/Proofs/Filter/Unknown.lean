import EntitySql.Proofs.Filter.Closed
import EntitySql.Proofs.Filter.Truth
import EntitySql.Proofs.Value.Record
import Mathlib.Data.List.Forall2

/-!
# Nulls as unknown values

Null stands for any value, and every other value for itself. What a filter says of a row with
nulls in it, it says of that row with values in their place: the filter is null on the first row,
or it has the same value on both. Equality with a null that is known before any row asks for null
itself, and is left out. Both rows have to give the filter a value: null is a condition, a text
and a number, while the value that it stands for may be none of these.
-/

namespace EntitySql

/-- The unknown stands for anything, and what is known for itself. -/
def StandsFor {α : Type} (unknown a b : α) : Prop := a = unknown ∨ b = a

namespace StandsFor

variable {α β γ ε : Type} {u a a' : α} {v b b' : β} {w : γ}

theorem refl (u a : α) : StandsFor u a a := .inr rfl

theorem map {f : α → β} (h : StandsFor u a a') (hu : f u = v) : StandsFor v (f a) (f a') := by
  rcases h with rfl | rfl
  · exact .inl hu
  · exact refl _ _

theorem trans {c : α} (hab : StandsFor u a a') (hbc : StandsFor u a' c) : StandsFor u a c := by
  rcases hab with rfl | rfl
  · exact .inl rfl
  · exact hbc

/-- What is unknown as soon as one of two things is says no more than these do. -/
theorem map₂ {f : α → β → γ} (ha : StandsFor u a a') (hb : StandsFor v b b')
    (hu : ∀ b, f u b = w) (hv : ∀ a, f a v = w) : StandsFor w (f a b) (f a' b') := by
  rcases ha with rfl | rfl
  · exact .inl (hu b)
  · exact hb.map (hv _)

/-- A result that stands for another one stands for it where both are reached. -/
theorem whereBoth {x y : Except ε α} (h : StandsFor (.ok u) x y) :
    WhereBoth (StandsFor u) x y := by
  rcases h with rfl | rfl
  · rintro _ _ ⟨⟩ -
    exact .inl rfl
  · exact .of_eq rfl (refl u)

end StandsFor

/-- The same fields, where those that are null in the first row may hold anything in the second. -/
def RowStandsFor (row row' : Record) : Prop :=
  ∀ name, Option.Rel (StandsFor .null) (Record.get? row name) (Record.get? row' name)

/-- Field by field, one row stands for another. -/
theorem rowStandsFor_of_fields {row row' : Record}
    (h : List.Forall₂ (fun field field' ↦
      field'.1 = field.1 ∧ StandsFor .null field.2 field'.2) row row') :
    RowStandsFor row row' := by
  intro name
  induction h with
  | nil => exact .none
  | @cons field field' row row' hfield _ ih =>
    rw [Record.get?_cons, Record.get?_cons, hfield.1]
    split
    · exact .some hfield.2
    · exact ih

/-! ## Operations on unknown values -/

namespace Evaluation

variable {v w a a' b b' : Value}

theorem compareValues_of_not_known {op : CompareOp} {nullKnown : Bool}
    (h : op = .eq ∨ op = .ne → nullKnown = false) :
    compareValues op a b nullKnown = (a.compare b).map op.holds := by
  rw [← compareValues_unknown]
  cases op with
  | eq => rw [h (.inl rfl)]
  | ne => rw [h (.inr rfl)]
  | _ => rfl

theorem arith_null_left (op : ArithOp) (v : Value) : arith op .null v = .ok .null := by
  simp [arith, Value.isNull]

theorem arith_null_right (op : ArithOp) (v : Value) : arith op v .null = .ok .null := by
  simp [arith, Value.isNull]

theorem applyStringMethod_null_right (m : StringMethod) (v : Value) :
    applyStringMethod m v .null = none := by
  unfold applyStringMethod
  cases v.patternText? <;> rfl

/-- An order with an unknown value is unknown. -/
theorem compare_standsFor (op : CompareOp) (ha : StandsFor .null a a') (hb : StandsFor .null b b') :
    StandsFor none ((a.compare b).map op.holds) ((a'.compare b').map op.holds) :=
  have hordering : StandsFor none (a.compare b) (a'.compare b') :=
    ha.map₂ hb compare_null_left compare_null_right
  hordering.map rfl

theorem truth?_standsFor (h : StandsFor .null v w) :
    WhereBoth (StandsFor none) (truth? v) (truth? w) :=
  (h.map (f := truth?) rfl).whereBoth

theorem ofTruth_standsFor {t t' : Option Bool} (h : StandsFor none t t') :
    StandsFor .null (ofTruth t) (ofTruth t') :=
  h.map rfl

theorem connect_comm (op : Connective) (s t : Option Bool) : connect op s t = connect op t s := by
  cases op <;> rcases s with _ | _ | _ <;> rcases t with _ | _ | _ <;> rfl

/-- A false side decides a conjunction alone, and a true side a disjunction. -/
theorem connect_unknown (op : Connective) (s t : Option Bool) :
    StandsFor none (connect op none t) (connect op s t) := by
  cases op with
  | and =>
    rcases t with _ | _ | _
    · exact .inl rfl
    · exact .inr (connect_comm .and s (some false))
    · exact .inl rfl
  | or =>
    rcases t with _ | _ | _
    · exact .inl rfl
    · exact .inl rfl
    · exact .inr (connect_comm .or s (some true))

/-- A connective that is known has the same truth for all values of what is unknown. -/
theorem connect_standsFor (op : Connective) {s s' t t' : Option Bool} (hs : StandsFor none s s')
    (ht : StandsFor none t t') : StandsFor none (connect op s t) (connect op s' t') := by
  have hside {r r' : Option Bool} (h : StandsFor none r r') (q : Option Bool) :
      StandsFor none (connect op r q) (connect op r' q) := by
    rcases h with rfl | rfl
    · exact connect_unknown op r' q
    · exact .refl _ _
  have hright := hside ht s'
  rw [connect_comm op t, connect_comm op t'] at hright
  exact (hside hs t).trans hright

/-- A string method of something unknown is unknown, as is one with an unknown argument. -/
theorem callMethod_standsFor (method : String) {args args' : List Value}
    (hreceiver : StandsFor .null v w) (hargs : List.Forall₂ (StandsFor .null) args args') :
    WhereBoth (StandsFor .null) (callMethod v method args) (callMethod w method args') := by
  unfold callMethod
  cases StringMethod.ofName? method with
  | some m =>
    cases hargs with
    | nil => nofun
    | cons harg hrest =>
      cases hrest with
      | nil =>
        have hmatch := hreceiver.map₂ harg (f := applyStringMethod m) (fun _ ↦ rfl)
          (applyStringMethod_null_right m)
        exact .ok (ofTruth_standsFor hmatch)
      | cons => nofun
  | none =>
    cases stringMap? method with
    | some f =>
      cases hargs with
      | nil =>
        rcases hreceiver with rfl | rfl
        · exact StandsFor.whereBoth (.inl rfl)
        · exact .of_eq rfl (.refl _)
      | cons => nofun
    | none => nofun

/-- A calculation with something unknown is unknown. -/
theorem arith_standsFor (op : ArithOp) (ha : StandsFor .null a a') (hb : StandsFor .null b b') :
    WhereBoth (StandsFor .null) (arith op a b) (arith op a' b') :=
  (ha.map₂ hb (arith_null_left op) (arith_null_right op)).whereBoth

theorem member_standsFor (name : String) (h : StandsFor .null v w) :
    WhereBoth (StandsFor .null) (v.member name) (w.member name) := by
  rcases h with rfl | rfl
  · nofun
  · exact .of_eq rfl (.refl _)

/-- A property has in the second row what it stands for in the first. -/
theorem property_standsFor {row row' : Record} (h : RowStandsFor row row') (name : String) :
    WhereBoth (StandsFor .null) (property (some row) name) (property (some row') name) := by
  intro v w hv hw
  have hfield := h name
  rw [property_eq_ok.1 hv, property_eq_ok.1 hw] at hfield
  cases hfield with
  | some hvalue => exact hvalue

end Evaluation

/-! ## Filters on rows with unknown values -/

namespace Expr

open Evaluation

variable {row row' : Record} {e left right : Expr}

/-- Null without a row, and so on every row. -/
def IsNull (e : Expr) : Prop := e.isClosed = true ∧ e.evaluate = .ok .null

/-- At this place there is no equality or inequality with a null that is known before any row. -/
def AsksNoNull : Expr → Prop
  | .compare op left right => op = .eq ∨ op = .ne → ¬ left.IsNull ∧ ¬ right.IsNull
  | _ => True

theorem not_known_of_not_isNull {v : Value} (h : ¬ e.IsNull) (hv : e.evaluateOn row = .ok v) :
    (e.isClosed && v.isNull) = false := by
  by_contra hknown
  rw [Bool.not_eq_false, Bool.and_eq_true] at hknown
  refine h ⟨hknown.1, ?_⟩
  rw [← eval_of_isClosed (some row) e hknown.1, ← eq_null_of_isNull hknown.2]
  exact hv

/-- Where no null is known, a comparison says what the order of its sides says. -/
theorem eval_compare_eq_ok {op : CompareOp} {v : Value} (h : (compare op left right).AsksNoNull)
    (hv : (compare op left right).evaluateOn row = .ok v) :
    ∃ a b, left.evaluateOn row = .ok a ∧ right.evaluateOn row = .ok b ∧
      v = ofTruth ((a.compare b).map op.holds) := by
  have hsides := hv
  rw [evaluateOn, eval] at hsides
  obtain ⟨a, ha, hsides⟩ := bind_eq_ok.1 hsides
  obtain ⟨b, hb, -⟩ := bind_eq_ok.1 hsides
  refine ⟨a, b, ha, hb, ?_⟩
  rw [evaluateOn, eval_compare ha hb, compareValues_of_not_known] at hv
  · cases hv
    rfl
  · intro hop
    obtain ⟨hleft, hright⟩ := h hop
    rw [not_known_of_not_isNull hleft ha, not_known_of_not_isNull hright hb, Bool.or_false]

theorem evalAll_standsFor {es : List Expr} (h : ∀ e ∈ es,
      WhereBoth (StandsFor .null) (e.evaluateOn row) (e.evaluateOn row')) :
    WhereBoth (List.Forall₂ (StandsFor .null)) (evalAll (some row) es)
      (evalAll (some row') es) := by
  induction es with
  | nil => exact .ok .nil
  | cons e es ih =>
    obtain ⟨he, hes⟩ := List.forall_mem_cons.1 h
    rw [evalAll, evalAll]
    exact he.bind fun _ _ hvalue ↦ (ih hes).bind fun _ _ hvalues ↦ .ok (.cons hvalue hvalues)

/-- By induction on the parts: each kind of expression keeps the order of what is known. -/
theorem eval_standsFor (hrows : RowStandsFor row row') : ∀ e : Expr, e.Throughout AsksNoNull →
    WhereBoth (StandsFor .null) (e.evaluateOn row) (e.evaluateOn row') := by
  apply induction_on_parts
  intro e ih hnull
  obtain ⟨hplace, hparts⟩ := throughout_iff.1 hnull
  have hpart {part : Expr} (h : part ∈ e.parts) :
      WhereBoth (StandsFor .null) (part.evaluateOn row) (part.evaluateOn row') :=
    ih part h (hparts part h)
  cases e with
  | row => nofun
  | const v => exact .of_eq rfl (.refl _)
  | member target name =>
    by_cases hrow : target = .row
    · subst hrow
      exact property_standsFor hrows name
    · rw [evaluateOn, evaluateOn, eval_member _ name hrow, eval_member _ name hrow]
      rw [parts_member name hrow] at hpart
      exact (hpart List.mem_cons_self).bind fun _ _ ↦ member_standsFor name
  | compare op left right =>
    intro v w hv hw
    obtain ⟨a, b, ha, hb, rfl⟩ := eval_compare_eq_ok hplace hv
    obtain ⟨a', b', ha', hb', rfl⟩ := eval_compare_eq_ok hplace hw
    have hleft : StandsFor .null a a' := hpart List.mem_cons_self _ _ ha ha'
    have hright : StandsFor .null b b' :=
      hpart (List.mem_cons_of_mem _ List.mem_cons_self) _ _ hb hb'
    exact ofTruth_standsFor (compare_standsFor op hleft hright)
  | connect op left right =>
    rw [evaluateOn, evaluateOn, eval, eval]
    refine (hpart List.mem_cons_self).bind fun _ _ hleft ↦
      (truth?_standsFor hleft).bind fun _ _ hs ↦ ?_
    refine (hpart (List.mem_cons_of_mem _ List.mem_cons_self)).bind fun _ _ hright ↦
      (truth?_standsFor hright).bind fun _ _ ht ↦ ?_
    exact .ok (ofTruth_standsFor (connect_standsFor op hs ht))
  | not inner =>
    rw [evaluateOn, evaluateOn, eval, eval]
    refine (hpart List.mem_cons_self).bind fun _ _ hinner ↦
      (truth?_standsFor hinner).bind fun _ _ ht ↦ ?_
    exact .ok (ofTruth_standsFor (ht.map rfl))
  | call target method args =>
    rw [evaluateOn, evaluateOn, eval, eval]
    refine (hpart List.mem_cons_self).bind fun _ _ hreceiver ↦ ?_
    have hargs := evalAll_standsFor fun arg harg ↦ hpart (List.mem_cons_of_mem target harg)
    exact hargs.bind fun _ _ ↦ callMethod_standsFor method hreceiver
  | arith op left right =>
    rw [evaluateOn, evaluateOn, eval, eval]
    exact (hpart List.mem_cons_self).bind fun _ _ hleft ↦
      (hpart (List.mem_cons_of_mem _ List.mem_cons_self)).bind fun _ _ ↦ arith_standsFor op hleft

/-- A filter in which no equality asks for null has, on a row with nulls, the value null or the
value that it has with anything in their place. A row that it definitely accepts or rejects it
goes on to accept or reject, whatever the nulls stand for. -/
theorem definite_values_persist (hnull : e.Throughout AsksNoNull) (hrows : RowStandsFor row row')
    {v w : Value} (hv : e.evaluateOn row = .ok v) (hw : e.evaluateOn row' = .ok w) :
    (v = .null ∨ w = v) ∧
      ∀ b, v = .bool b → e.accepts row = .ok b ∧ e.accepts row' = .ok b := by
  have hvalues : v = .null ∨ w = v := eval_standsFor hrows e hnull v w hv hw
  refine ⟨hvalues, ?_⟩
  rintro b rfl
  obtain h | rfl := hvalues
  · cases h
  · exact ⟨by rw [accepts, hv]; rfl, by rw [accepts, hw]; rfl⟩

example : (compare .eq (.column "Name") (.const .null)).evaluateOn [("Name", .null)] =
      .ok (.bool true) ∧
    (compare .eq (.column "Name") (.const .null)).evaluateOn [("Name", .string "a")] =
      .ok (.bool false) :=
  ⟨rfl, rfl⟩

/-- A row that is old enough passes, be its name with or without the nickname in it. -/
theorem definite_values_persist_nameless :
    let e : Expr := .connect .or (.not (.call (.column "Name") "Contains" [.column "Nick"]))
      (.compare .gt (.column "Age") (.const (.int 3)))
    let row : Record := [("Age", .int 5), ("Name", .null), ("Nick", .null)]
    let row' : Record := [("Age", .int 5), ("Name", .string "ab"), ("Nick", .string "b")]
    e.Throughout AsksNoNull ∧ RowStandsFor row row' ∧ e.evaluateOn row = .ok (.bool true) ∧
      e.evaluateOn row' = .ok (.bool true) ∧
      (Value.bool true = .null ∨ Value.bool true = .bool true) ∧
        ∀ b, Value.bool true = .bool b → e.accepts row = .ok b ∧ e.accepts row' = .ok b := by
  intro e row row'
  have hnull : e.Throughout AsksNoNull := by
    have hcolumn (name : String) : (column name).Throughout AsksNoNull :=
      throughout_of_parts_nil trivial rfl
    have hcall : (Expr.call (.column "Name") "Contains" [.column "Nick"]).Throughout AsksNoNull :=
      throughout_pair trivial rfl (hcolumn _) (hcolumn _)
    refine throughout_pair trivial rfl (throughout_single trivial rfl hcall) ?_
    exact throughout_pair (by rintro (h | h) <;> cases h) rfl (hcolumn _)
      (throughout_of_parts_nil trivial rfl)
  have hrows : RowStandsFor row row' :=
    rowStandsFor_of_fields (by simp [row, row', StandsFor])
  have hrow : e.evaluateOn row = .ok (.bool true) := rfl
  have hrow' : e.evaluateOn row' = .ok (.bool true) := rfl
  exact ⟨hnull, hrows, hrow, hrow', definite_values_persist hnull hrows hrow hrow'⟩

end Expr

end EntitySql
