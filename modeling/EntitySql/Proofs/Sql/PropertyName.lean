import EntitySql.Proofs.Translation

/-!
# Names of properties in texts and on records

An entity finds a property by its name in any case of ASCII letters, and a record finds a field by
its exact name. So a filter that becomes text for an entity can name a property that a record of
that entity lacks, but only one that it does not spell as it is declared. Where the properties that
stand for conditions have truth values, the first such name is all that the filter fails with.
-/

namespace EntitySql

open Text

/-! ## The properties that an expression names -/

namespace Expr

variable {e : Expr} {name : String}

theorem mem_listed {es : List Expr} :
    name ∈ properties.listed es ↔ ∃ e ∈ es, name ∈ e.properties := by
  induction es with
  | nil => simp [properties.listed]
  | cons e es ih => simp [properties.listed, ih]

theorem properties_member {target : Expr} (name : String) (h : target ≠ .row) :
    (member target name).properties = target.properties := by
  cases target <;> first | exact absurd rfl h | rfl

/-- An expression names the property that it is, or what its parts name. -/
theorem mem_properties_iff :
    name ∈ e.properties ↔ e = .column name ∨ ∃ part ∈ e.parts, name ∈ part.properties := by
  cases e with
  | member target other =>
    by_cases hrow : target = .row
    · subst hrow
      simp [properties, parts, column, eq_comm]
    · simp [properties_member other hrow, parts_member other hrow, column, hrow]
  | call target method args => simp [properties, parts, mem_listed, column]
  | _ => simp [properties, parts, column]

/-- What has a value without a row names no property of one. -/
theorem properties_of_evaluate_eq_ok {v : Value} (h : e.evaluate = .ok v) : e.properties = [] := by
  have hnamed : ∀ e : Expr, ∀ name ∈ e.properties, ∃ error, e.evaluate = .error error := by
    apply induction_on_parts
    intro e ih name hname
    rcases mem_properties_iff.1 hname with rfl | ⟨part, hpart, hname⟩
    · exact ⟨_, eval_column none name⟩
    · exact eval_error_of_mem_parts hpart (ih part hpart name hname)
  refine List.eq_nil_iff_forall_not_mem.2 fun name hname ↦ ?_
  obtain ⟨error, herror⟩ := hnamed e name hname
  rw [h] at herror
  cases herror

end Expr

/-! ## Properties that a record lacks -/

/-- The step fails for an unknown property only where it asks for one of these names, which the
record lacks. -/
def LacksOnly {α : Type} (record : Record) (names : List String) (x : Except Error α) : Prop :=
  ∀ name, x = .error (.schema (.unknownProperty name)) →
    name ∈ names ∧ Record.get? record name = none

namespace LacksOnly

variable {α β : Type} {record : Record} {names names' : List String} {x : Except Error α}

theorem ok (a : α) : LacksOnly record names (.ok a) := fun _ h ↦ by cases h

/-- Steps that lack only these names lack only these names together. -/
theorem bind {f : α → Except Error β} (h : LacksOnly record names x)
    (hnext : ∀ a, LacksOnly record names (f a)) : LacksOnly record names (x >>= f) := by
  intro name hname
  rcases bind_eq_error.1 hname with hx | ⟨a, -, ha⟩
  · exact h name hx
  · exact hnext a name ha

theorem mono (h : LacksOnly record names x) (hsubset : names ⊆ names') :
    LacksOnly record names' x :=
  fun name hname ↦ ⟨hsubset (h name hname).1, (h name hname).2⟩

end LacksOnly

namespace Evaluation

variable {record : Record} {names : List String}

theorem lacksOnly_property (record : Record) (name : String) :
    LacksOnly record [name] (property (some record) name) := by
  intro other hother
  cases hget : Record.get? record name with
  | none =>
    simp only [property, hget] at hother
    cases hother
    exact ⟨List.mem_singleton_self _, hget⟩
  | some v =>
    rw [property_eq_ok.2 hget] at hother
    cases hother

theorem lacksOnly_truth? (v : Value) : LacksOnly record names (truth? v) := by
  cases v <;> nofun

theorem lacksOnly_member (v : Value) (name : String) : LacksOnly record names (v.member name) := by
  unfold Value.member
  split
  · split <;> nofun
  · nofun
  · nofun

theorem lacksOnly_callMethod (v : Value) (method : String) (args : List Value) :
    LacksOnly record names (callMethod v method args) := by
  unfold callMethod
  split
  · split <;> nofun
  · split
    · split
      · nofun
      · split <;> nofun
    · nofun

theorem lacksOnly_arith (op : ArithOp) (v w : Value) : LacksOnly record names (arith op v w) := by
  unfold arith
  split
  · nofun
  · split
    · nofun
    · split
      · unfold arithInt
        split
        · nofun
        · split <;> nofun
      · split <;> nofun

end Evaluation

namespace Expr

open Evaluation

variable {record : Record}

theorem lacksOnly_evalAll {es : List Expr} {names : List String}
    (h : ∀ e ∈ es, LacksOnly record names (e.evaluateOn record)) :
    LacksOnly record names (evalAll (some record) es) := by
  induction es with
  | nil => exact .ok []
  | cons e es ih =>
    obtain ⟨he, hes⟩ := List.forall_mem_cons.1 h
    rw [evalAll]
    exact he.bind fun v ↦ (ih hes).bind fun vs ↦ .ok (v :: vs)

/-- An expression asks a row for the properties that it names, and for nothing else. -/
theorem lacksOnly_evaluateOn : ∀ e : Expr, LacksOnly record e.properties (e.evaluateOn record) := by
  apply induction_on_parts
  intro e ih
  have hpart {part : Expr} (h : part ∈ e.parts) :
      LacksOnly record e.properties (part.evaluateOn record) :=
    (ih part h).mono fun _ hname ↦ mem_properties_iff.2 (.inr ⟨part, h, hname⟩)
  cases e with
  | row => rintro _ ⟨⟩
  | const v => exact .ok v
  | member target name =>
    by_cases hrow : target = .row
    · subst hrow
      exact lacksOnly_property record name
    · rw [parts_member name hrow] at hpart
      rw [evaluateOn, eval_member _ name hrow]
      exact (hpart List.mem_cons_self).bind fun v ↦ lacksOnly_member v name
  | compare op left right =>
    rw [evaluateOn, eval]
    exact (hpart List.mem_cons_self).bind fun _ ↦
      (hpart (List.mem_cons_of_mem _ List.mem_cons_self)).bind fun _ ↦ .ok _
  | connect op left right =>
    rw [evaluateOn, eval]
    exact (hpart List.mem_cons_self).bind fun l ↦ (lacksOnly_truth? l).bind fun _ ↦
      (hpart (List.mem_cons_of_mem _ List.mem_cons_self)).bind fun r ↦
        (lacksOnly_truth? r).bind fun _ ↦ .ok _
  | not inner =>
    rw [evaluateOn, eval]
    exact (hpart List.mem_cons_self).bind fun v ↦ (lacksOnly_truth? v).bind fun _ ↦ .ok _
  | call target method args =>
    rw [evaluateOn, eval]
    exact (hpart List.mem_cons_self).bind fun v ↦
      (lacksOnly_evalAll fun arg harg ↦ hpart (List.mem_cons_of_mem target harg)).bind fun vs ↦
        lacksOnly_callMethod v method vs
  | arith op left right =>
    rw [evaluateOn, eval]
    exact (hpart List.mem_cons_self).bind fun l ↦
      (hpart (List.mem_cons_of_mem _ List.mem_cons_self)).bind fun r ↦ lacksOnly_arith op l r

end Expr

/-! ## The first property that a record lacks -/

def lacking (record : Record) (names : List String) : Option Error :=
  (names.find? fun name ↦ (Record.get? record name).isNone).map fun name ↦
    .schema (.unknownProperty name)

section Lacking

open Evaluation

variable {record : Record}

/-- The first name that is lacking, of two lists in a row. -/
theorem lacking_append (names names' : List String) :
    lacking record (names ++ names') = (lacking record names).or (lacking record names') := by
  simp [lacking, List.find?_append, Option.map_or]

theorem failure?_property (name : String) :
    failure? (property (some record) name) = lacking record [name] := by
  cases hget : Record.get? record name <;> simp [property, lacking, hget, failure?]

/-- A column fails where the record lacks its name. -/
theorem failure?_column (name : String) :
    failure? ((Expr.column name).evaluateOn record) =
      lacking record (Expr.column name).properties := by
  rw [Expr.evaluateOn, Expr.eval_column]
  exact failure?_property name

/-- What asks for no row lacks no name of it. -/
theorem failure?_closed {e : Expr} {v : Value} (hclosed : e.isClosed = true)
    (hv : e.evaluate = .ok v) : failure? (e.evaluateOn record) = lacking record e.properties := by
  rw [Expr.evaluateOn, Expr.eval_of_isClosed _ e hclosed, hv, Expr.properties_of_evaluate_eq_ok hv]
  rfl

end Lacking

/-! ## Filters that become text -/

namespace Lowering

open Evaluation

variable {resolve : Resolver} {e left right : Expr} {record : Record}

theorem Compared.resolves {column : String} {v : Value} (h : Compared resolve left right column v) :
    ∀ name ∈ left.properties ++ right.properties, ∃ column, resolve name = .ok column := by
  cases h with
  | left hcolumn _ hv =>
    simpa [properties_column, Expr.properties_of_evaluate_eq_ok hv] using ⟨column, hcolumn⟩
  | right _ hv hcolumn =>
    simpa [properties_column, Expr.properties_of_evaluate_eq_ok hv] using ⟨column, hcolumn⟩

/-- Every property that the filter names has a column. -/
theorem Lowered.resolves {b b' : Bindings} {c : Condition} (h : Lowered resolve e b c b') :
    ∀ name ∈ e.properties, ∃ column, resolve name = .ok column := by
  induction h with
  | null b hcompared => exact hcompared.resolves
  | value b hcompared _ => exact hcompared.resolves
  | columns b hl hr =>
    simpa [Expr.properties, properties_column] using ⟨⟨_, hl⟩, _, hr⟩
  | like b _ _ hv hcolumn =>
    simpa [Expr.properties, Expr.properties.listed, properties_column,
      Expr.properties_of_evaluate_eq_ok hv] using ⟨_, hcolumn⟩
  | flag b hcolumn => simpa [properties_column] using ⟨_, hcolumn⟩
  | always b _ _ hv => simp [Expr.properties_of_evaluate_eq_ok hv]
  | not _ ih => exact ih
  | connect _ _ ihl ihr =>
    intro name hname
    exact (List.mem_append.1 hname).elim (ihl name) (ihr name)

/-- The two sides of a comparison fail where the record lacks a name of theirs. -/
theorem Compared.failures {column : String} {v : Value} (h : Compared resolve left right column v) :
    failure? (left.evaluateOn record) = lacking record left.properties ∧
      failure? (right.evaluateOn record) = lacking record right.properties := by
  cases h with
  | left _ hclosed hv => exact ⟨failure?_column _, failure?_closed hclosed hv⟩
  | right hclosed hv _ => exact ⟨failure?_closed hclosed hv, failure?_column _⟩

/-- The outcome of a condition: a truth value, or the error for the first property of the filter
that the record lacks. -/
def Outcome (record : Record) (e : Expr) : Prop :=
  ∃ t : Except Error (Option Bool), e.evaluateOn record = t.map ofTruth ∧
    failure? t = lacking record e.properties

theorem outcome_compare {op : CompareOp}
    (h : failure? (left.evaluateOn record) = lacking record left.properties ∧
      failure? (right.evaluateOn record) = lacking record right.properties) :
    Outcome record (.compare op left right) := by
  unfold Outcome
  rw [Expr.properties, lacking_append, ← h.1, ← h.2]
  simp only [Expr.evaluateOn, Expr.eval]
  cases left.eval (some record) with
  | error error => exact ⟨.error error, rfl, rfl⟩
  | ok l =>
    cases right.eval (some record) with
    | error error => exact ⟨.error error, rfl, rfl⟩
    | ok r => exact ⟨.ok _, rfl, rfl⟩

theorem outcome_flag {name : String}
    (h : ∀ v, Record.get? record name = some v → v = .null ∨ ∃ b, v = .bool b) :
    Outcome record (.column name) := by
  unfold Outcome
  rw [Expr.evaluateOn, Expr.eval_column, properties_column, ← failure?_property]
  cases hget : Record.get? record name with
  | none =>
    refine ⟨.error (.schema (.unknownProperty name)), ?_⟩
    simp [property, hget, failure?, Except.map]
  | some v =>
    rw [property_eq_ok.2 hget]
    rcases h v hget with rfl | ⟨b, rfl⟩
    · exact ⟨.ok none, rfl, rfl⟩
    · exact ⟨.ok (some b), rfl, rfl⟩

theorem outcome_like {name method : String} {m : StringMethod} {arg : Expr} {v : Value}
    (hm : StringMethod.ofName? method = some m) (hclosed : arg.isClosed = true)
    (hv : arg.evaluate = .ok v) : Outcome record (.call (.column name) method [arg]) := by
  unfold Outcome
  rw [Expr.properties, Expr.properties.listed, Expr.properties.listed, properties_column,
    Expr.properties_of_evaluate_eq_ok hv, List.append_nil, List.append_nil, ← failure?_property]
  have hcolumn : (Expr.column name).eval (some record) = property (some record) name :=
    Expr.eval_column _ name
  cases hproperty : property (some record) name with
  | error error =>
    refine ⟨.error error, ?_, rfl⟩
    rw [Expr.evaluateOn, Expr.eval, hcolumn, hproperty]
    rfl
  | ok w =>
    exact ⟨.ok _, Expr.eval_call hm (hcolumn.trans hproperty)
      ((Expr.eval_of_isClosed _ arg hclosed).trans hv), rfl⟩

theorem Outcome.not {inner : Expr} (h : Outcome record inner) : Outcome record (.not inner) := by
  obtain ⟨t, ht, hfailure⟩ := h
  unfold Outcome
  rw [Expr.properties, ← hfailure]
  cases t with
  | error error =>
    refine ⟨.error error, ?_, rfl⟩
    unfold Expr.evaluateOn at ht ⊢
    rw [Expr.eval, ht]
    rfl
  | ok t => exact ⟨.ok _, Expr.eval_not ht, rfl⟩

/-- A connective fails as its first part to fail does. -/
theorem Outcome.connect {op : Connective} (hl : Outcome record left) (hr : Outcome record right) :
    Outcome record (.connect op left right) := by
  obtain ⟨s, hs, hleft⟩ := hl
  obtain ⟨t, ht, hright⟩ := hr
  unfold Outcome
  rw [Expr.properties, lacking_append, ← hleft, ← hright]
  cases s with
  | error error =>
    refine ⟨.error error, ?_, rfl⟩
    unfold Expr.evaluateOn at hs ⊢
    rw [Expr.eval, hs]
    rfl
  | ok s =>
    cases t with
    | error error =>
      refine ⟨.error error, ?_, rfl⟩
      unfold Expr.evaluateOn at hs ht ⊢
      rw [Expr.eval, hs, ht]
      change (truth? (ofTruth s)).bind _ = _
      rw [truth?_ofTruth]
      rfl
    | ok t => exact ⟨.ok _, Expr.eval_connect hs ht, rfl⟩

/-- Where what stands for a condition by itself is one, a filter that becomes text is true, false
or null, and fails only where the record lacks one of its properties. -/
theorem Lowered.outcome {b b' : Bindings} {c : Condition} (h : Lowered resolve e b c b')
    (hflags : ∀ name ∈ e.flags, ∀ v, Record.get? record name = some v →
      v = .null ∨ ∃ b, v = .bool b) : Outcome record e := by
  induction h with
  | null b hcompared => exact outcome_compare hcompared.failures
  | value b hcompared _ => exact outcome_compare hcompared.failures
  | columns b _ _ => exact outcome_compare ⟨failure?_column _, failure?_column _⟩
  | like b hm hclosed hv _ => exact outcome_like hm hclosed hv
  | flag b _ => exact outcome_flag (hflags _ (List.mem_singleton_self _))
  | @always e holds b hleaf hclosed hv =>
    refine ⟨.ok (some holds), ?_, ?_⟩
    · exact (Expr.eval_of_isClosed _ e hclosed).trans hv
    · rw [Expr.properties_of_evaluate_eq_ok hv]
      rfl
  | not _ ih => exact (ih hflags).not
  | connect _ _ ihl ihr =>
    obtain ⟨hleft, hright⟩ := List.forall_mem_append.1 hflags
    exact (ihl hleft).connect (ihr hright)

end Lowering

/-! ## Entities -/

namespace EntityMeta

variable {m : EntityMeta} {record : Record} {name : String}

/-- The record has every property of the entity under its declared name. -/
def IsHeldBy (m : EntityMeta) (record : Record) : Prop :=
  ∀ p ∈ m.properties, (Record.get? record p.name).isSome = true

theorem exists_of_column_eq_ok {column : String} (h : m.column name = .ok column) :
    ∃ p ∈ m.properties, sameIgnoringCase p.name name = true := by
  unfold EntityMeta.column property? at h
  split at h
  · next p hp =>
    rcases Option.or_eq_some_iff.1 hp with hexact | ⟨-, hcase⟩
    · have hname : p.name = name := by simpa using List.find?_some hexact
      exact ⟨p, List.mem_of_find?_eq_some hexact, by rw [hname, sameIgnoringCase_self]⟩
    · have hsame : sameIgnoringCase p.name name = true := by simpa using List.find?_some hcase
      exact ⟨p, List.mem_of_find?_eq_some hcase, hsame⟩
  · cases h

end EntityMeta

/-- What a filter that became text for an entity reads from a record of that entity. No property
is unknown where the filter names each as it is declared. A property that is unknown is declared
in another case, and the first one that the record lacks is the only failure that there is, if
the properties that stand for conditions have truth values. -/
theorem translated_filter_reads_declared {m : EntityMeta} {e : Expr} {dialect : Dialect}
    {f : Fragment} {record : Record} (hlower : e.lower m.column dialect = .ok f)
    (hheld : m.IsHeldBy record) :
    ((∀ name ∈ e.properties, name ∈ m.properties.map (·.name)) →
      ∀ name, e.evaluateOn record ≠ .error (.schema (.unknownProperty name))) ∧
    (∀ name, e.evaluateOn record = .error (.schema (.unknownProperty name)) →
      name ∈ e.properties ∧ Record.get? record name = none ∧
        ∃ p ∈ m.properties, p.name ≠ name ∧ sameIgnoringCase p.name name = true) ∧
    ((∀ name ∈ e.flags, ∀ v, Record.get? record name = some v → v = .null ∨ ∃ b, v = .bool b) →
      failure? (e.evaluateOn record) = lacking record e.properties) := by
  obtain ⟨c, b, hlowered, -⟩ := lowered_of_lower hlower
  have hlacking {name : String}
      (h : e.evaluateOn record = .error (.schema (.unknownProperty name))) :
      name ∈ e.properties ∧ Record.get? record name = none := e.lacksOnly_evaluateOn name h
  have hfield {p : ResolvedProperty} (hp : p ∈ m.properties) : Record.get? record p.name ≠ none :=
    Option.isSome_iff_ne_none.1 (hheld p hp)
  refine ⟨fun hdeclared name herror ↦ ?_, fun name herror ↦ ?_, fun hflags ↦ ?_⟩
  · obtain ⟨hname, hnone⟩ := hlacking herror
    obtain ⟨p, hp, rfl⟩ := List.mem_map.1 (hdeclared name hname)
    exact hfield hp hnone
  · obtain ⟨hname, hnone⟩ := hlacking herror
    obtain ⟨column, hcolumn⟩ := hlowered.resolves name hname
    obtain ⟨p, hp, hsame⟩ := EntityMeta.exists_of_column_eq_ok hcolumn
    refine ⟨hname, hnone, p, hp, ?_, hsame⟩
    rintro rfl
    exact hfield hp hnone
  · obtain ⟨t, ht, hfailure⟩ := hlowered.outcome hflags
    rw [ht, failure?_map, hfailure]

/-- A filter of two conditions, the second of which is a property itself. -/
theorem translated_filter_reads_declared_person :
    let m : EntityMeta := ⟨"Person", "PERSON", [⟨"Name", "NAME", false, false, false⟩,
      ⟨"Active", "ACTIVE", false, false, false⟩]⟩
    let e : Expr := .connect .and (.compare .eq (.column "Name") (.const (.string "a")))
      (.column "Active")
    let record : Record := [("Active", .null), ("Name", .string "a")]
    ∃ f, e.lower m.column .db2 = .ok f ∧ m.IsHeldBy record ∧
      (∀ name, e.evaluateOn record ≠ .error (.schema (.unknownProperty name))) ∧
      failure? (e.evaluateOn record) = lacking record e.properties := by
  intro m e record
  have hlower : e.lower m.column .db2 = .ok ⟨_, _⟩ := rfl
  have hheld : m.IsHeldBy record :=
    List.forall_mem_cons.2 ⟨rfl, List.forall_mem_singleton.2 rfl⟩
  obtain ⟨hdeclared, -, hfailure⟩ := translated_filter_reads_declared hlower hheld
  refine ⟨_, hlower, hheld, hdeclared (by simp [e, m, Expr.properties, Expr.column]), hfailure ?_⟩
  rintro name hname v hv
  obtain rfl := List.mem_singleton.1 hname
  cases hv
  exact .inl rfl

/-- A property in another case has a column in the text, and no value on a record of the entity. -/
theorem recased_property_unknown :
    ∃ m f, EntityMeta.resolve ⟨"Person", none, [⟨"Name", none, false, false, false⟩]⟩ none .upper =
        .ok m ∧
      (Expr.compare .eq (.column "name") (.const (.string "a"))).lower m.column .db2 = .ok f ∧
      m.IsHeldBy [("Name", .string "a")] ∧
      (Expr.compare .eq (.column "name") (.const (.string "a"))).evaluateOn
        [("Name", .string "a")] = .error (.schema (.unknownProperty "name")) := by
  exact ⟨⟨_, _, _⟩, ⟨_, _⟩, rfl, rfl, List.forall_mem_singleton.2 rfl, rfl⟩

end EntitySql
