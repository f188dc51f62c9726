import EntitySql.Proofs.Filter.Unknown
import EntitySql.Proofs.Sql.Bindable
import EntitySql.Proofs.Sql.ParamNumber

/-!
# Lists of conditions as one

Conditions joined by one connective mean "all" or "any" of them, in whichever order they come, on
every row on which each is true, false or null. They bind what each of them binds, in the order of
the list, with numbers that go on through it.
-/

namespace EntitySql

namespace Evaluation

/-- Two operands may change places behind a third. -/
theorem connect_right_comm (op : Connective) (r s t : Option Bool) :
    connect op (connect op r s) t = connect op (connect op r t) s := by
  cases op <;>
    rcases r with _ | _ | _ <;> rcases s with _ | _ | _ <;> rcases t with _ | _ | _ <;> rfl

theorem both_eq_true {s t : Option Bool} :
    both s t = some true ↔ s = some true ∧ t = some true := by
  rcases s with _ | _ | _ <;> rcases t with _ | _ | _ <;> simp [both]

theorem either_eq_true {s t : Option Bool} :
    either s t = some true ↔ s = some true ∨ t = some true := by
  rcases s with _ | _ | _ <;> rcases t with _ | _ | _ <;> simp [either]

/-- What leaves the other side of a connective as it is. -/
def neutral : Connective → Option Bool
  | .and => some true
  | .or => some false

theorem connect_neutral (op : Connective) (t : Option Bool) : connect op (neutral op) t = t := by
  cases op <;> rcases t with _ | _ | _ <;> rfl

end Evaluation

namespace Expr

open Evaluation

variable {op : Connective} {e fold : Expr} {es es' : List Expr} {row : Record}

/-- On this row the condition is true, false or null. -/
def HasTruth (row : Record) (e : Expr) : Prop :=
  e.evaluateOn row = .ok .null ∨ ∃ b, e.evaluateOn row = .ok (.bool b)

def truthOn (row : Record) (e : Expr) : Option Bool :=
  match e.evaluateOn row with
  | .ok (.bool b) => some b
  | _ => none

/-- A condition with a truth evaluates to it. -/
theorem evaluateOn_of_hasTruth (h : e.HasTruth row) :
    e.evaluateOn row = .ok (ofTruth (e.truthOn row)) := by
  unfold truthOn
  rcases h with h | ⟨b, h⟩
  · rw [h]
    rfl
  · rw [h]
    rfl

theorem accepts_of_truth {t : Option Bool} (h : e.evaluateOn row = .ok (ofTruth t)) :
    e.accepts row = .ok (t == some true) := by
  rw [accepts, h]
  rcases t with _ | _ | _ <;> rfl

/-- A row is accepted by what is true on it, and by nothing else. -/
theorem accepts_eq_true {t : Option Bool} (h : e.evaluateOn row = .ok (ofTruth t)) :
    e.accepts row = .ok true ↔ t = some true := by
  rw [accepts_of_truth h, Except.ok.injEq, beq_iff_eq]

/-! ## Folds -/

/-- Only the empty list has no fold. -/
theorem exists_fold? (op : Connective) (hne : es ≠ []) : ∃ fold, fold? op es = some fold := by
  obtain ⟨e, es, rfl⟩ := List.exists_cons_of_ne_nil hne
  exact ⟨_, rfl⟩

/-- What a connective puts together from its sides, a fold puts together from its list. -/
theorem foldl_connect_eq_flatMap {α : Type} {f : Expr → List α}
    (h : ∀ left right, f (.connect op left right) = f left ++ f right) (e : Expr)
    (es : List Expr) : f (es.foldl (.connect op) e) = (e :: es).flatMap f := by
  induction es generalizing e with
  | nil => simp
  | cons next es ih => rw [List.foldl_cons, ih, List.flatMap_cons, h]; simp

/-- What a connective puts one behind the other, a fold does for the whole list. -/
theorem eq_flatMap_of_fold? {α : Type} {f : Expr → List α}
    (h : ∀ left right, f (.connect op left right) = f left ++ f right)
    (hfold : fold? op es = some fold) : f fold = es.flatMap f := by
  cases es with
  | nil => cases hfold
  | cons e es =>
    cases hfold
    exact foldl_connect_eq_flatMap h e es

/-! ## Truth -/

theorem evaluateOn_foldl {s : Option Bool} (he : e.evaluateOn row = .ok (ofTruth s))
    (hes : ∀ e ∈ es, HasTruth row e) :
    (es.foldl (.connect op) e).evaluateOn row =
      .ok (ofTruth ((es.map (truthOn row)).foldl (Evaluation.connect op) s)) := by
  induction es generalizing e s with
  | nil => exact he
  | cons next es ih =>
    obtain ⟨hnext, hes⟩ := List.forall_mem_cons.1 hes
    exact ih (eval_connect he (evaluateOn_of_hasTruth hnext)) hes

/-- The truth of a fold is that of its list, connected from the left. -/
theorem evaluateOn_of_fold? (h : ∀ e ∈ es, HasTruth row e) (hfold : fold? op es = some fold) :
    fold.evaluateOn row =
      .ok (ofTruth ((es.map (truthOn row)).foldl (Evaluation.connect op) (neutral op))) := by
  cases es with
  | nil => cases hfold
  | cons e es =>
    cases hfold
    obtain ⟨he, hes⟩ := List.forall_mem_cons.1 h
    rw [List.map_cons, List.foldl_cons, connect_neutral]
    exact evaluateOn_foldl (evaluateOn_of_hasTruth he) hes

/-- Truths are connected to the same truth in any order. -/
theorem foldl_connect_perm {ts ts' : List (Option Bool)} (h : ts.Perm ts') (s : Option Bool) :
    ts.foldl (Evaluation.connect op) s = ts'.foldl (Evaluation.connect op) s :=
  h.foldl_eq' (fun t _ t' _ r ↦ connect_right_comm op r t t') s

theorem foldl_both_eq_true {ts : List (Option Bool)} {s : Option Bool} :
    ts.foldl (Evaluation.connect .and) s = some true ↔
      s = some true ∧ ∀ t ∈ ts, t = some true := by
  induction ts generalizing s with
  | nil => simp
  | cons t ts ih =>
    rw [List.foldl_cons, ih, List.forall_mem_cons, ← and_assoc, Evaluation.connect, both_eq_true]

theorem foldl_either_eq_true {ts : List (Option Bool)} {s : Option Bool} :
    ts.foldl (Evaluation.connect .or) s = some true ↔
      s = some true ∨ ∃ t ∈ ts, t = some true := by
  induction ts generalizing s with
  | nil => simp
  | cons t ts ih =>
    rw [List.foldl_cons, ih, List.exists_mem_cons_iff, ← or_assoc, Evaluation.connect,
      either_eq_true]

/-- All conditions as one accept the rows that each of them accepts. -/
theorem accepts_all (h : ∀ e ∈ es, HasTruth row e) (hfold : fold? .and es = some fold) :
    fold.accepts row = .ok (decide (∀ e ∈ es, e.accepts row = .ok true)) := by
  rw [accepts_of_truth (evaluateOn_of_fold? h hfold), Except.ok.injEq, Bool.eq_iff_iff, beq_iff_eq,
    decide_eq_true_iff, foldl_both_eq_true, List.forall_mem_map, neutral]
  have hes (e : Expr) (he : e ∈ es) : e.truthOn row = some true ↔ e.accepts row = .ok true :=
    (accepts_eq_true (evaluateOn_of_hasTruth (h e he))).symm
  rw [forall₂_congr hes]
  exact and_iff_right rfl

/-- Any of the conditions as one accept the rows that one of them accepts. -/
theorem accepts_any (h : ∀ e ∈ es, HasTruth row e) (hfold : fold? .or es = some fold) :
    fold.accepts row = .ok (decide (∃ e ∈ es, e.accepts row = .ok true)) := by
  rw [accepts_of_truth (evaluateOn_of_fold? h hfold), Except.ok.injEq, Bool.eq_iff_iff, beq_iff_eq,
    decide_eq_true_iff, foldl_either_eq_true, neutral]
  have hes (e : Expr) : e ∈ es ∧ e.truthOn row = some true ↔ e ∈ es ∧ e.accepts row = .ok true :=
    and_congr_right fun he ↦ (accepts_eq_true (evaluateOn_of_hasTruth (h e he))).symm
  simp only [List.mem_map, exists_exists_and_eq_and, hes, Option.some.injEq, Bool.false_eq_true,
    false_or]

theorem evaluateOn_perm (h : ∀ e ∈ es, HasTruth row e) (hperm : es'.Perm es) :
    (fold? op es').map (·.evaluateOn row) = (fold? op es).map (·.evaluateOn row) := by
  cases es with
  | nil => rw [hperm.eq_nil]
  | cons e es =>
    have hne : es' ≠ [] := by
      rintro rfl
      exact List.cons_ne_nil e es hperm.symm.eq_nil
    obtain ⟨fold', hfold'⟩ := exists_fold? op hne
    have h' : ∀ e ∈ es', HasTruth row e := fun e he ↦ h e (hperm.mem_iff.1 he)
    have htruth : (es.foldl (.connect op) e).evaluateOn row = _ := evaluateOn_of_fold? h rfl
    rw [hfold', fold?, Option.map_some, Option.map_some, evaluateOn_of_fold? h' hfold', htruth,
      foldl_connect_perm (hperm.map (truthOn row))]

/-! ## Lowering -/

/-- A fold is lowered where each of its conditions is. -/
theorem exists_lower_iff (hfold : fold? op es = some fold) (resolve : Resolver)
    (dialect : Dialect) :
    (∃ f, fold.lower resolve dialect = .ok f) ↔ ∀ e ∈ es, ∃ f, e.lower resolve dialect = .ok f := by
  have hlower (e : Expr) : (∃ f, e.lower resolve dialect = .ok f) ↔
      ∀ p ∈ e.predicates, Lowering.fault? resolve p = none := by
    rw [← failure?_eq_none, failure?_lower, List.findSome?_eq_none_iff]
  have hpredicates : fold.predicates = es.flatMap predicates :=
    eq_flatMap_of_fold? (fun _ _ ↦ rfl) hfold
  simp only [hlower, hpredicates, List.mem_flatMap]
  constructor
  · intro h e he p hp
    exact h p ⟨e, he, hp⟩
  · rintro h p ⟨e, he, hp⟩
    exact h e he p hp

/-- A list of conditions that is not empty can be joined to one that accepts a row where all of them
do, and to one that accepts it where any of them does, if each is true, false or null on it; their
order does not matter. The joined condition is lowered where each of them is, and its bag holds what
theirs hold, one after the other and numbered through. -/
theorem folds_mean_all_and_any (hne : es ≠ []) :
    (∃ all any, fold? .and es = some all ∧ fold? .or es = some any ∧
      ∀ row, (∀ e ∈ es, HasTruth row e) →
        all.accepts row = .ok (decide (∀ e ∈ es, e.accepts row = .ok true)) ∧
        any.accepts row = .ok (decide (∃ e ∈ es, e.accepts row = .ok true)) ∧
        ∀ es', es'.Perm es → ∀ op,
          (fold? op es').map (·.evaluateOn row) = (fold? op es).map (·.evaluateOn row)) ∧
    ∀ op fold, fold? op es = some fold → ∀ (resolve : Resolver) (dialect : Dialect),
      ((∃ f, fold.lower resolve dialect = .ok f) ↔
        ∀ e ∈ es, ∃ f, e.lower resolve dialect = .ok f) ∧
      ∀ f, fold.lower resolve dialect = .ok f →
        f.params.entries = Bindings.numbered 0 (es.flatMap (bound resolve)) ∧
        ∀ e ∈ es, ∃ g, e.lower resolve dialect = .ok g ∧
          g.params.entries = Bindings.numbered 0 (e.bound resolve) := by
  obtain ⟨all, hall⟩ := exists_fold? .and hne
  obtain ⟨any, hany⟩ := exists_fold? .or hne
  constructor
  · refine ⟨all, any, hall, hany, fun row h ↦ ?_⟩
    exact ⟨accepts_all h hall, accepts_any h hany, fun es' hperm op ↦ evaluateOn_perm h hperm⟩
  · intro op fold hfold resolve dialect
    have hlower := exists_lower_iff hfold resolve dialect
    refine ⟨hlower, fun f hf ↦ ⟨?_, fun e he ↦ ?_⟩⟩
    · have hbound : fold.bound resolve = es.flatMap (bound resolve) :=
        eq_flatMap_of_fold? (fun _ _ ↦ rfl) hfold
      rw [entries_of_lower hf, hbound]
    · obtain ⟨g, hg⟩ := hlower.1 ⟨f, hf⟩ e he
      exact ⟨g, hg, entries_of_lower hg⟩

/-- One of three conditions is unknown, so that not all are met, and any of the others will do. -/
theorem folds_mean_all_and_any_unknown :
    let es : List Expr := [.column "Active", .compare .gt (.column "Age") (.const (.int 3)),
      .compare .eq (.const (.int 5)) (.column "Age")]
    let row : Record := [("Active", .null), ("Age", .int 5)]
    es ≠ [] ∧ (∀ e ∈ es, HasTruth row e) ∧
      (∃ all any, fold? .and es = some all ∧ fold? .or es = some any ∧
        all.accepts row = .ok false ∧ any.accepts row = .ok true) ∧
      ∃ fold f, fold? .and es = some fold ∧ fold.lower .ok .postgres = .ok f ∧
        f.params.entries = [("Age_0", .int 3), ("Age_1", .int 5)] := by
  intro es row
  have hne : es ≠ [] := List.cons_ne_nil _ _
  have hes : ∀ e ∈ es, HasTruth row e := by
    simp only [es, List.forall_mem_cons]
    exact ⟨.inl rfl, .inr ⟨true, rfl⟩, .inr ⟨true, rfl⟩, nofun⟩
  obtain ⟨⟨all, any, hall, hany, hrows⟩, hfolds⟩ := folds_mean_all_and_any hne
  obtain ⟨haccepts, haccepts', -⟩ := hrows row hes
  refine ⟨hne, hes, ⟨all, any, hall, hany, haccepts, haccepts'⟩, all, ?_⟩
  obtain ⟨f, hf⟩ := (hfolds .and all hall .ok .postgres).1.2 (by
    simp only [es, List.forall_mem_cons]
    exact ⟨⟨_, rfl⟩, ⟨_, rfl⟩, ⟨_, rfl⟩, nofun⟩)
  exact ⟨f, hall, hf, ((hfolds .and all hall .ok .postgres).2 f hf).1⟩

end Expr

end EntitySql
