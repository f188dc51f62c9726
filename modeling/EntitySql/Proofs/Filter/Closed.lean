import EntitySql.Filter.Evaluation
import EntitySql.Proofs.Outcome
import Mathlib.Logic.Relation

/-!
# Closed expressions

An expression that never reads the row has the value that it has without a row, on every row, and
fails with the same error where it has none. One that reads the row fails without it: evaluation
goes into every part of an expression, and a part without a value leaves the whole without one.
-/

namespace EntitySql.Expr

theorem column?_eq_some {e : Expr} {name : String} :
    e.column? = some name ↔ e = .column name := by
  constructor
  · intro h
    unfold column? at h
    split at h
    · simp only [Option.some.injEq] at h
      rw [h, column]
    · simp at h
  · rintro rfl
    rfl

theorem not_isClosed_column (name : String) : (column name).isClosed = false := rfl

theorem eval_column (row : Option Record) (name : String) :
    (column name).eval row = Evaluation.property row name := by
  simp [column, eval]

theorem eval_member (row : Option Record) {target : Expr} (name : String) (h : target ≠ .row) :
    (member target name).eval row = (target.eval row).bind (·.member name) := by
  cases target <;> first | exact absurd rfl h | rfl

mutual

/-- Without a column in it, an expression has the same outcome on every row as on none. -/
theorem eval_of_isClosed (row : Option Record) :
    ∀ e : Expr, e.isClosed = true → e.eval row = e.evaluate
  | .row, h => by simp [isClosed] at h
  | .const v, _ => by simp [evaluate, eval]
  | .member target name, h => by
    have htarget : target ≠ .row := by rintro rfl; simp [isClosed] at h
    rw [isClosed] at h
    calc
      (member target name).eval row = (target.eval row).bind (·.member name) :=
        eval_member row name htarget
      _ = (target.eval none).bind (·.member name) := by rw [eval_of_isClosed row target h, evaluate]
      _ = (member target name).evaluate := (eval_member none name htarget).symm
  | .compare op left right, h => by
    simp only [isClosed, Bool.and_eq_true] at h
    simp only [evaluate, eval, eval_of_isClosed row left h.1, eval_of_isClosed row right h.2]
  | .connect op left right, h => by
    simp only [isClosed, Bool.and_eq_true] at h
    simp only [evaluate, eval, eval_of_isClosed row left h.1, eval_of_isClosed row right h.2]
  | .not inner, h => by
    rw [isClosed] at h
    simp only [evaluate, eval, eval_of_isClosed row inner h]
  | .call target method args, h => by
    simp only [isClosed, Bool.and_eq_true] at h
    simp only [evaluate, eval, eval_of_isClosed row target h.1, evalAll_of_allClosed row args h.2]
  | .arith op left right, h => by
    simp only [isClosed, Bool.and_eq_true] at h
    simp only [evaluate, eval, eval_of_isClosed row left h.1, eval_of_isClosed row right h.2]

theorem evalAll_of_allClosed (row : Option Record) :
    ∀ es : List Expr, allClosed es = true → evalAll row es = evalAll none es
  | [], _ => by simp [evalAll]
  | e :: es, h => by
    simp only [allClosed, Bool.and_eq_true] at h
    simp only [evalAll, eval_of_isClosed row e h.1, evalAll_of_allClosed row es h.2, evaluate]

end

/-! ## The parts of an expression -/

/-- The expressions that are evaluated for the value of an expression. The row that a column is a
member of is not one of them, since it has no value of its own. -/
def parts : Expr → List Expr
  | .member .row _ => []
  | .member target _ => [target]
  | .compare _ left right => [left, right]
  | .connect _ left right => [left, right]
  | .not inner => [inner]
  | .call target _ args => target :: args
  | .arith _ left right => [left, right]
  | _ => []

theorem parts_member {target : Expr} (name : String) (h : target ≠ .row) :
    (member target name).parts = [target] := by
  cases target <;> first | exact absurd rfl h | rfl

theorem sizeOf_lt_of_mem_parts {part e : Expr} (h : part ∈ e.parts) : sizeOf part < sizeOf e := by
  cases e with
  | member target name =>
    by_cases hrow : target = .row
    · subst hrow
      cases h
    · rw [parts_member name hrow, List.mem_singleton] at h
      subst h
      simp only [member.sizeOf_spec]
      omega
  | call target method args =>
    rcases List.mem_cons.1 h with rfl | hmem
    · simp only [call.sizeOf_spec]
      omega
    · have hlist := List.sizeOf_lt_of_mem hmem
      simp only [call.sizeOf_spec]
      omega
  | row => cases h
  | const v => cases h
  | _ =>
    simp only [parts, List.mem_cons, List.not_mem_nil, or_false] at h
    rcases h with rfl | rfl <;> simp <;> omega

/-- What holds of an expression whenever it holds of its parts, holds of every expression. -/
theorem induction_on_parts {P : Expr → Prop} (h : ∀ e, (∀ part ∈ e.parts, P part) → P e)
    (e : Expr) : P e :=
  h e fun part hpart ↦
    have := sizeOf_lt_of_mem_parts hpart
    induction_on_parts h part
termination_by sizeOf e

/-- A part of an expression, or a part of one of its parts, and so on. -/
abbrev Within : Expr → Expr → Prop := Relation.ReflTransGen fun part e ↦ part ∈ e.parts

/-! ## What holds within an expression -/

section Throughout

def Throughout (P : Expr → Prop) (e : Expr) : Prop := ∀ part, part.Within e → P part

variable {P : Expr → Prop} {e : Expr}

/-- A property holds throughout an expression where it holds of the expression and throughout each
of its parts. -/
theorem throughout_iff : Throughout P e ↔ P e ∧ ∀ part ∈ e.parts, Throughout P part := by
  constructor
  · intro h
    exact ⟨h e .refl, fun part hpart other hother ↦ h other (hother.tail hpart)⟩
  · rintro ⟨he, hparts⟩ part hpart
    rcases hpart.cases_tail with rfl | ⟨next, hwithin, hnext⟩
    · exact he
    · exact hparts next hnext part hwithin

theorem throughout_of_parts_nil (h : P e) (hparts : e.parts = []) : Throughout P e := by
  rw [throughout_iff, hparts]
  exact ⟨h, fun _ hpart ↦ absurd hpart List.not_mem_nil⟩

theorem throughout_single {part : Expr} (h : P e) (hparts : e.parts = [part])
    (hpart : Throughout P part) : Throughout P e := by
  rw [throughout_iff, hparts]
  exact ⟨h, List.forall_mem_singleton.2 hpart⟩

theorem throughout_pair {left right : Expr} (h : P e) (hparts : e.parts = [left, right])
    (hleft : Throughout P left) (hright : Throughout P right) : Throughout P e := by
  rw [throughout_iff, hparts]
  exact ⟨h, List.forall_mem_cons.2 ⟨hleft, List.forall_mem_singleton.2 hright⟩⟩

theorem throughout_member {target : Expr} {name : String} (h : P (.member target name))
    (htarget : Throughout P target) : Throughout P (.member target name) := by
  by_cases hrow : target = .row
  · subst hrow
    exact throughout_of_parts_nil h rfl
  · exact throughout_single h (parts_member name hrow) htarget

end Throughout

/-! ## Expressions that read the row -/

variable {row : Option Record} {part e : Expr} {es : List Expr}

theorem allClosed_eq_false (h : allClosed es = false) : ∃ e ∈ es, e.isClosed = false := by
  induction es with
  | nil => cases h
  | cons e es ih =>
    rw [allClosed, Bool.and_eq_false_iff] at h
    rcases h with he | hes
    · exact ⟨e, List.mem_cons_self, he⟩
    · obtain ⟨other, hmem, hother⟩ := ih hes
      exact ⟨other, List.mem_cons_of_mem e hmem, hother⟩

/-- An expression reads the row itself or in one of its parts. -/
theorem exists_part_of_not_isClosed (h : e.isClosed = false) :
    e = .row ∨ (∃ name, e = .column name) ∨ ∃ part ∈ e.parts, part.isClosed = false := by
  cases e with
  | row => exact .inl rfl
  | const v => cases h
  | member target name =>
    by_cases hrow : target = .row
    · exact .inr (.inl ⟨name, by rw [hrow, column]⟩)
    · rw [parts_member name hrow]
      exact .inr (.inr ⟨target, List.mem_singleton_self target, h⟩)
  | not inner => exact .inr (.inr ⟨inner, List.mem_singleton_self inner, h⟩)
  | call target method args =>
    rw [isClosed, Bool.and_eq_false_iff] at h
    rcases h with htarget | hargs
    · exact .inr (.inr ⟨target, List.mem_cons_self, htarget⟩)
    · obtain ⟨arg, hmem, harg⟩ := allClosed_eq_false hargs
      exact .inr (.inr ⟨arg, List.mem_cons_of_mem target hmem, harg⟩)
  | _ =>
    rw [isClosed, Bool.and_eq_false_iff] at h
    rcases h with hleft | hright
    · exact .inr (.inr ⟨_, List.mem_cons_self, hleft⟩)
    · exact .inr (.inr ⟨_, List.mem_cons_of_mem _ List.mem_cons_self, hright⟩)

theorem evalAll_error (hmem : part ∈ es) (h : ∃ error, part.eval row = .error error) :
    ∃ error, evalAll row es = .error error := by
  induction es with
  | nil => cases hmem
  | cons e es ih =>
    rw [evalAll]
    apply exists_error_bind
    rcases List.mem_cons.1 hmem with rfl | hmem
    · exact .inl h
    · exact .inr fun _ ↦ exists_error_bind (.inl (ih hmem))

/-- An expression has no value where one of its parts has none. -/
theorem eval_error_of_mem_parts (hpart : part ∈ e.parts)
    (h : ∃ error, part.eval row = .error error) : ∃ error, e.eval row = .error error := by
  cases e with
  | row => cases hpart
  | const v => cases hpart
  | member target name =>
    by_cases hrow : target = .row
    · subst hrow
      cases hpart
    · rw [parts_member name hrow, List.mem_singleton] at hpart
      subst hpart
      rw [eval_member row name hrow]
      exact exists_error_bind (.inl h)
  | compare op left right =>
    rw [eval]
    simp only [parts, List.mem_cons, List.not_mem_nil, or_false] at hpart
    rcases hpart with rfl | rfl
    · exact exists_error_bind (.inl h)
    · exact exists_error_bind (.inr fun _ ↦ exists_error_bind (.inl h))
  | connect op left right =>
    rw [eval]
    simp only [parts, List.mem_cons, List.not_mem_nil, or_false] at hpart
    rcases hpart with rfl | rfl
    · exact exists_error_bind (.inl h)
    · exact exists_error_bind (.inr fun _ ↦ exists_error_bind (.inr fun _ ↦
        exists_error_bind (.inl h)))
  | not inner =>
    rw [parts, List.mem_singleton] at hpart
    subst hpart
    rw [eval]
    exact exists_error_bind (.inl h)
  | call target method args =>
    rw [eval]
    rcases List.mem_cons.1 hpart with rfl | hmem
    · exact exists_error_bind (.inl h)
    · exact exists_error_bind (.inr fun _ ↦ exists_error_bind (.inl (evalAll_error hmem h)))
  | arith op left right =>
    rw [eval]
    simp only [parts, List.mem_cons, List.not_mem_nil, or_false] at hpart
    rcases hpart with rfl | rfl
    · exact exists_error_bind (.inl h)
    · exact exists_error_bind (.inr fun _ ↦ exists_error_bind (.inl h))

/-- A failure anywhere within an expression is a failure of the expression. -/
theorem eval_error_of_within (hpart : part.Within e) (h : ∃ error, part.eval row = .error error) :
    ∃ error, e.eval row = .error error := by
  induction hpart with
  | refl => exact h
  | tail _ hstep ih => exact eval_error_of_mem_parts hstep ih

/-- An expression that reads the row has no value without one. -/
theorem evaluate_of_not_isClosed : ∀ e : Expr, e.isClosed = false →
    ∃ error, e.evaluate = .error error := by
  apply induction_on_parts
  intro e ih h
  rcases exists_part_of_not_isClosed h with rfl | ⟨name, rfl⟩ | ⟨part, hpart, hopen⟩
  · exact ⟨_, rfl⟩
  · exact ⟨_, eval_column none name⟩
  · exact eval_error_of_mem_parts hpart (ih part hpart hopen)

/-- An expression that is closed has on every row the outcome that it has without one, and one that
is not closed has no value without a row. No part is left out: on a row or without one, an
expression has no value where something within it has none. -/
theorem isClosed_decides_rowIndependence (e : Expr) :
    (e.isClosed = true → ∀ row : Record, e.evaluateOn row = e.evaluate) ∧
      (e.isClosed = false → ∃ error, e.evaluate = .error error) ∧
      ∀ (row : Option Record) (part : Expr), part.Within e →
        (∃ error, part.eval row = .error error) → ∃ error, e.eval row = .error error := by
  refine ⟨fun h row ↦ ?_, evaluate_of_not_isClosed e, fun row part ↦ eval_error_of_within⟩
  rw [evaluateOn, eval_of_isClosed (some row) e h]

example : (connect .or (.const (.bool true)) (.column "a")).evaluate =
    .error (.unsupported (.outsideRow "a")) := rfl

end EntitySql.Expr
