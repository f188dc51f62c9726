import EntitySql.Proofs.Entity.Assignment
import EntitySql.Proofs.Session.Operation

/-!
# Writing generated keys back

What an insert does to its entity is to assign what came back for the generated keys, in their
order of declaration. So an insert that fails leaves the entity as it was, unless the value at
fault stands behind one that was already assigned; and the single column of an identity query goes
to the first key, and to a later one only if the column of that key has its name.
-/

namespace EntitySql

open Text

def Value.present? (v : Value) : Option Value := if v.isNull then none else some v

def EntityType.insertPlan (t : EntityType) (m : EntityMeta) (dialect : Dialect) (e : t.Entity) :
    InsertPlan :=
  dialect.insertPlan (StatementBuilder.insert ⟨m, dialect⟩ (t.toRecord e))

namespace Session

variable {σ : Type} {t : EntityType}

/-- What a row gives back for keys: the name of each with its value, where that is not null. -/
def returned (row : Row) : Bool → List ResolvedProperty → List (String × Value)
  | _, [] => []
  | isFirst, key :: keys =>
    let v := generatedValue row isFirst key
    if v.isNull then returned row false keys else (key.name, v) :: returned row false keys

structure Returns (ex : Executor σ) (e : t.Entity) (s : Session σ) (m : EntityMeta) (row : Row) :
    Prop where
  resolved : (s.registry.resolve t.descriptor).1 = .ok m
  answered : (ex.insert (t.insertPlan m ex.dialect e) s.options s.state).1 = .ok (some row)

/-! ## A write-back as assignments -/

theorem returned_sublist (row : Row) (isFirst : Bool) (keys : List ResolvedProperty) :
    ((returned row isFirst keys).map (·.1)).Sublist (keys.map (·.name)) := by
  induction keys generalizing isFirst with
  | nil => exact List.Sublist.refl []
  | cons key keys ih =>
    unfold returned
    dsimp only
    split
    · exact (ih false).cons _
    · exact (ih false).cons_cons _

theorem get?_returned_cons (row : Row) (isFirst : Bool) (key : ResolvedProperty)
    (keys : List ResolvedProperty) (field : String) :
    Record.get? (returned row isFirst (key :: keys)) field =
      (if field = key.name then (generatedValue row isFirst key).present? else none).or
        (Record.get? (returned row false keys) field) := by
  rw [returned]
  unfold Value.present?
  split
  · rw [ite_self, Option.none_or]
  · rw [Record.get?_cons]
    split
    · rfl
    · rfl

/-- The first value that came back is the one that an insert replies with. -/
theorem writeBack_eq (row : Row) (isFirst : Bool) (keys : List ResolvedProperty)
    (generated : Option Value) (e : t.Entity) :
    writeBack t row isFirst keys generated e =
      ((t.assignAll (returned row isFirst keys) e).1.map fun _ ↦
        generated.or ((returned row isFirst keys).head?.map (·.2)),
        (t.assignAll (returned row isFirst keys) e).2) := by
  induction keys generalizing isFirst generated e with
  | nil =>
    unfold writeBack returned EntityType.assignAll
    rw [List.head?_nil, Option.map_none, Option.or_none]
    rfl
  | cons key keys ih =>
    unfold writeBack returned
    dsimp only
    split
    · exact ih false generated e
    · unfold EntityType.assignAll
      cases hset : t.setProperty e key.name (generatedValue row isFirst key) with
      | error error => rfl
      | ok e₁ =>
        dsimp only
        rw [ih, Option.or_assoc, List.head?_cons, Option.map_some, Option.some_or]

variable {ex : Executor σ} {e e' : t.Entity} {s s' : Session σ} {m : EntityMeta} {row : Row}

theorem insert_of_returns (h : Returns ex e s m row) :
    (insert ex t e s).1 = writeBack t row true m.generatedKeys none e := by
  have hprepare : s.registry.prepare t ex.dialect
      (fun b ↦ .ok (b.dialect.insertPlan (b.insert (t.toRecord e)))) =
      .ok (m, t.insertPlan m ex.dialect e) := bind_eq_ok.2 ⟨m, h.resolved, rfl⟩
  have hanswer : ex.answer .insert (t.insertPlan m ex.dialect e) s.options s.state =
      (.ok (some row), (ex.insert (t.insertPlan m ex.dialect e) s.options s.state).2) :=
    Prod.ext h.answered rfl
  rw [insert_eq_ask, ask_of_answered hprepare hanswer]

/-- Only a row that comes back can change the entity. -/
theorem insert_cases (ex : Executor σ) (e : t.Entity) (s : Session σ) :
    (insert ex t e s).1.2 = e ∨ ∃ m row, Returns ex e s m row := by
  cases hresolve : (s.registry.resolve t.descriptor).1 with
  | error error =>
    left
    simp only [insert, builder_of_error hresolve]
  | ok m =>
    simp only [insert, builder_of_ok hresolve, perform]
    split
    · exact .inl rfl
    · exact .inl rfl
    · next row _ heq => exact .inr ⟨m, row, hresolve, (Prod.mk.inj heq).1⟩

/-! ## Inserts that fail -/

/-- A write-back that stopped at a value that does not fit, with another one written already. -/
def StoppedAfterWriting (row : Row) (keys : List ResolvedProperty) (e e' : t.Entity)
    (error : Error) : Prop :=
  ∃ before name v after, returned row true keys = before ++ (name, v) :: after ∧ before ≠ [] ∧
    t.assignAll before e = (.ok (), e') ∧ t.setProperty e' name v = .error error

theorem eq_or_stopped_of_writeBack {keys : List ResolvedProperty} {error : Error}
    (h : writeBack t row true keys none e = (.error error, e')) :
    e' = e ∨ StoppedAfterWriting row keys e e' error := by
  rw [writeBack_eq] at h
  cases hassign : t.assignAll (returned row true keys) e with
  | mk result e₁ =>
    rw [hassign] at h
    cases result with
    | ok u => cases h
    | error error' =>
      cases h
      obtain ⟨before, name, v, after, hreturned, hbefore, hfault⟩ :=
        EntityType.exists_of_assignAll_error hassign
      cases before with
      | nil =>
        cases hbefore
        exact .inl rfl
      | cons pair before =>
        exact .inr ⟨pair :: before, name, v, after, hreturned, by simp, hbefore, hfault⟩

theorem StoppedAfterWriting.two_le {keys : List ResolvedProperty} {error : Error}
    (h : StoppedAfterWriting row keys e e' error) : 2 ≤ keys.length := by
  obtain ⟨before, name, v, after, hreturned, hne, -, -⟩ := h
  have hlength := (returned_sublist row true keys).length_le
  rw [List.length_map, List.length_map, hreturned, List.length_append, List.length_cons] at hlength
  have hbefore := List.length_pos_iff.2 hne
  omega

/-- An insert that fails leaves the entity untouched, unless the executor gave back a row in which
a value that cannot be read stands behind one that was written. That takes two generated keys. -/
theorem failed_insert_untouched {error : Error}
    (h : insert ex t e s = ((.error error, e'), s')) :
    (e' = e ∨ ∃ m row, Returns ex e s m row ∧
      StoppedAfterWriting row m.generatedKeys e e' error) ∧
    ((∀ m, (s.registry.resolve t.descriptor).1 = .ok m → m.generatedKeys.length ≤ 1) →
      e' = e) := by
  have heq : (insert ex t e s).1 = (.error error, e') := by rw [h]
  have hcases : e' = e ∨ ∃ m row, Returns ex e s m row ∧
      StoppedAfterWriting row m.generatedKeys e e' error := by
    rcases insert_cases ex e s with hself | ⟨m, row, hreturns⟩
    · rw [heq] at hself
      exact .inl hself
    · rw [insert_of_returns hreturns] at heq
      exact (eq_or_stopped_of_writeBack heq).imp_right fun hstopped ↦ ⟨m, row, hreturns, hstopped⟩
  refine ⟨hcases, fun hone ↦ ?_⟩
  rcases hcases with hself | ⟨m, row, hreturns, hstopped⟩
  · exact hself
  · have := hone m hreturns.resolved
    have := hstopped.two_le
    omega

end Session

/-- An executor that gives back the same row for every insert. -/
def Executor.returning (dialect : Dialect) (row : Row) : Executor Unit where
  dialect := dialect
  execute := fun _ _ u ↦ (.ok 1, u)
  query := fun _ _ u ↦ (.ok [], u)
  insert := fun _ _ u ↦ (.ok (some row), u)

def EntityType.pair : EntityType :=
  ⟨"Pair", none, [⟨"a", .required .int64, .key⟩, ⟨"b", .required .int32, .key⟩]⟩

namespace Session

/-- A value that cannot be read comes back for the only key. -/
theorem failed_insert_untouched_one_key :
    let t : EntityType := ⟨"Note", none, [⟨"id", .required .int64, .key⟩,
      ⟨"size", .required .int32, .plain⟩]⟩
    let ex : Executor Unit := .returning .mySql ⟨[("id", .string "seven")]⟩
    let s : Session Unit := ⟨.empty .upper, ⟨none⟩, ()⟩
    let e : t.Entity := ((3 : Int64), (10 : Int32), ())
    ∃ e' s', insert ex t e s = ((.error (.schema (.unreadable .string .int64)), e'), s') ∧
      (∀ m, (s.registry.resolve t.descriptor).1 = .ok m → m.generatedKeys.length ≤ 1) ∧
      e' = e := by
  intro t ex s e
  let m : EntityMeta := ⟨"Note", "NOTE", [⟨"id", "ID", true, false, false⟩,
    ⟨"size", "SIZE", false, false, false⟩]⟩
  have hm : (s.registry.resolve t.descriptor).1 = .ok m := by decide +kernel
  have hreturns : Returns ex e s m ⟨[("id", .string "seven")]⟩ := ⟨hm, rfl⟩
  have hinsert : insert ex t e s =
      ((.error (.schema (.unreadable .string .int64)), e), (insert ex t e s).2) :=
    Prod.ext (insert_of_returns hreturns) rfl
  have hone : ∀ m', (s.registry.resolve t.descriptor).1 = .ok m' →
      m'.generatedKeys.length ≤ 1 := by
    intro m' hm'
    rw [hm] at hm'
    cases hm'
    decide
  exact ⟨_, _, hinsert, hone, (failed_insert_untouched hinsert).2 hone⟩

/-- The value that comes back for the second key cannot be read, and the first is already in the
entity. -/
theorem failed_insert_keeps_first_key :
    let row : Row := ⟨[("A", .int 5), ("B", .string "seven")]⟩
    let ex : Executor Unit := .returning .postgres row
    let s : Session Unit := ⟨.empty .upper, ⟨none⟩, ()⟩
    let e : EntityType.pair.Entity := ((0 : Int64), (0 : Int32), ())
    let e' : EntityType.pair.Entity := ((5 : Int64), (0 : Int32), ())
    (insert ex .pair e s).1 = (.error (.schema (.unreadable .string .int64)), e') ∧ e' ≠ e := by
  intro row ex s e e'
  let m : EntityMeta := ⟨"Pair", "PAIR", [⟨"a", "A", true, false, false⟩,
    ⟨"b", "B", true, false, false⟩]⟩
  have hm : (s.registry.resolve EntityType.pair.descriptor).1 = .ok m := by decide +kernel
  have hreturns : Returns ex e s m row := ⟨hm, rfl⟩
  constructor
  · rw [insert_of_returns hreturns]
    rfl
  · intro heq
    have hfirst : (5 : Int64) = 0 := congrArg Prod.fst heq
    exact absurd hfirst (by decide)

/-! ## Identity queries -/

variable {σ : Type} {t : EntityType} {ex : Executor σ} {e e' : t.Entity} {s s' : Session σ}
  {m : EntityMeta} {row : Row}

theorem identity_query_iff (d : Dialect) (st : InsertStatement) :
    (∃ q, (d.insertPlan st).identity = .query q) ↔ d ≠ .postgres ∧ st.keyProperties ≠ [] := by
  unfold Dialect.insertPlan
  cases hkeys : st.keyProperties with
  | nil => simp
  | cons key keys => cases d <;> simp [Dialect.identityQuery?]

/-- Whether the only column of a row, called `name`, goes to a field: that of the first key, or
that of a key whose own column has this name. -/
def feeds (name : String) (key : ResolvedProperty) (keys : List ResolvedProperty)
    (field : String) : Bool :=
  field == key.name || keys.any fun k ↦ field == k.name && sameIgnoringCase name k.column

section OneColumn

variable {name : String} {v : Value}

theorem get?_oneColumn (name : String) (v : Value) (column : String) :
    Row.get? ⟨[(name, v)]⟩ column = if sameIgnoringCase name column then some v else none := by
  unfold Row.get? Record.find?
  rw [Record.get?_cons, List.find?_cons]
  by_cases hsame : sameIgnoringCase name column = true
  · rw [if_pos hsame]
    split
    · rfl
    · simp [hsame, Record.get?]
  · have hne : column ≠ name := by
      rintro rfl
      exact hsame (beq_self_eq_true _)
    rw [if_neg hsame, if_neg hne]
    simp [hsame, Record.get?]

theorem generatedValue_first (name : String) (v : Value) (key : ResolvedProperty) :
    generatedValue ⟨[(name, v)]⟩ true key = v := by
  unfold generatedValue
  rw [get?_oneColumn]
  split <;> rfl

theorem generatedValue_later (name : String) (v : Value) (key : ResolvedProperty) :
    generatedValue ⟨[(name, v)]⟩ false key =
      if sameIgnoringCase name key.column then v else .null := by
  unfold generatedValue
  rw [get?_oneColumn]
  split <;> rfl

theorem or_ite_self {α : Type} (x : Option α) (p : Prop) [Decidable p] :
    x.or (if p then x else none) = x := by
  split
  · exact Option.or_self
  · exact Option.or_none

theorem get?_returned_later (keys : List ResolvedProperty) (field : String) :
    Record.get? (returned ⟨[(name, v)]⟩ false keys) field =
      if keys.any fun k ↦ field == k.name && sameIgnoringCase name k.column then v.present?
      else none := by
  induction keys with
  | nil => rfl
  | cons key keys ih =>
    rw [get?_returned_cons, ih, generatedValue_later, List.any_cons]
    by_cases hname : field = key.name
    · by_cases hsame : sameIgnoringCase name key.column = true
      · simp [hname, hsame, or_ite_self]
      · simp [hname, hsame, Value.present?, Value.isNull]
    · simp [hname]

theorem get?_returned (key : ResolvedProperty) (keys : List ResolvedProperty) (field : String) :
    Record.get? (returned ⟨[(name, v)]⟩ true (key :: keys)) field =
      if feeds name key keys field then v.present? else none := by
  rw [get?_returned_cons, get?_returned_later, generatedValue_first]
  unfold feeds
  by_cases hname : field = key.name
  · simp [hname, or_ite_self]
  · simp [hname]

end OneColumn

/-- Where every value that came back could be written, each field has what came back for it. -/
theorem takes_of_writeBack {names : Option AliasMap} {case : NameCase} {generated : Option Value}
    (hm : EntityMeta.resolve t.descriptor names case = .ok m)
    (h : writeBack t row true m.generatedKeys none e = (.ok generated, e')) :
    t.Takes (Record.get? (returned row true m.generatedKeys)) e e' := by
  have hkeys := returned_sublist row true m.generatedKeys
  have hproperties : (m.generatedKeys.map (·.name)).Sublist (m.properties.map (·.name)) :=
    List.filter_sublist.map _
  rw [writeBack_eq] at h
  cases hassign : t.assignAll (returned row true m.generatedKeys) e with
  | mk result e₁ =>
    rw [hassign] at h
    cases result with
    | error error => cases h
    | ok u =>
      cases h
      refine EntityType.takes_of_assignAll (EntityType.nodup_lower_fields hm) ?_ ?_ hassign
      · rw [← EntityType.map_name_properties hm]
        exact (hkeys.trans hproperties).subset
      · exact (EntityMeta.nodup_names_of_resolve hm).sublist (hkeys.trans hproperties)

/-- The one column that an identity query answers with goes to the first generated key, and to the
later ones whose own column has the same name. If there are none of these, the first key has the
value, unless that is null, and every other field is as it was. -/
theorem identity_feeds_first_key {names : Option AliasMap} {case : NameCase}
    (hm : EntityMeta.resolve t.descriptor names case = .ok m) {q : String}
    (hplan : (t.insertPlan m ex.dialect e).identity = .query q) {name : String} {v : Value}
    (hreturns : Returns ex e s m ⟨[(name, v)]⟩) {generated : Option Value}
    (h : insert ex t e s = ((.ok generated, e'), s')) :
    ∃ key keys, m.generatedKeys = key :: keys ∧
      t.Takes (fun field ↦ if feeds name key keys field then v.present? else none) e e' ∧
      ((∀ k ∈ keys, sameIgnoringCase name k.column = false) →
        t.Takes (fun field ↦ if field = key.name then v.present? else none) e e') := by
  have heq : (insert ex t e s).1 = (.ok generated, e') := by rw [h]
  rw [insert_of_returns hreturns] at heq
  have htakes := takes_of_writeBack hm heq
  cases hkeys : m.generatedKeys with
  | nil =>
    have hne := ((identity_query_iff _ _).1 ⟨q, hplan⟩).2
    simp [StatementBuilder.insert, StatementBuilder.insertWith, hkeys] at hne
  | cons key keys =>
    rw [hkeys] at htakes
    have hfed : t.Takes (fun field ↦ if feeds name key keys field then v.present? else none) e e' :=
      FieldValues.Takes.congr htakes fun f _ ↦ get?_returned key keys f.name
    refine ⟨key, keys, rfl, hfed, fun hother ↦ FieldValues.Takes.congr hfed fun f _ ↦ ?_⟩
    unfold feeds
    rw [List.any_eq_false.2 fun k hk ↦ by simp [hother k hk]]
    simp

/-- Two generated keys with columns of their own, of which the identity is for the first. -/
theorem identity_feeds_first_key_pair :
    let m : EntityMeta := ⟨"Pair", "PAIR", [⟨"a", "A", true, false, false⟩,
      ⟨"b", "B", true, false, false⟩]⟩
    let row : Row := ⟨[("id", .int 7)]⟩
    let ex : Executor Unit := .returning .sqlite row
    let s : Session Unit := ⟨.empty .upper, ⟨none⟩, ()⟩
    let e : EntityType.pair.Entity := ((0 : Int64), (0 : Int32), ())
    let e' : EntityType.pair.Entity := ((7 : Int64), (0 : Int32), ())
    EntityMeta.resolve EntityType.pair.descriptor none .upper = .ok m ∧
      (EntityType.pair.insertPlan m ex.dialect e).identity =
        .query "SELECT last_insert_rowid() id" ∧
      Returns ex e s m row ∧ (insert ex .pair e s).1 = (.ok (some (.int 7)), e') ∧
      ∃ key keys, m.generatedKeys = key :: keys ∧
        (∀ k ∈ keys, sameIgnoringCase "id" k.column = false) ∧
        EntityType.pair.Takes (fun field ↦ if field = key.name then some (.int 7) else none)
          e e' := by
  intro m row ex s e e'
  have hm : EntityMeta.resolve EntityType.pair.descriptor none .upper = .ok m := by decide +kernel
  have hreturns : Returns ex e s m row := ⟨hm, rfl⟩
  have hresult : (insert ex .pair e s).1 = (.ok (some (.int 7)), e') := insert_of_returns hreturns
  have hinsert : insert ex .pair e s = ((.ok (some (.int 7)), e'), (insert ex .pair e s).2) :=
    Prod.ext hresult rfl
  obtain ⟨key, keys, hkeys, -, htakes⟩ := identity_feeds_first_key hm rfl hreturns hinsert
  cases hkeys
  have hother : ∀ k ∈ [m.properties[1]], sameIgnoringCase "id" k.column = false := by decide
  exact ⟨hm, rfl, hreturns, hresult, _, _, rfl, hother, htakes hother⟩

/-- A second key whose column is called as the identity query calls its own takes the identity of
the first. -/
theorem identity_feeds_second_key :
    let names : AliasMap := ⟨none, [("b", "ID")]⟩
    let m : EntityMeta := ⟨"Pair", "PAIR", [⟨"a", "A", true, false, false⟩,
      ⟨"b", "ID", true, false, false⟩]⟩
    let row : Row := ⟨[("id", .int 7)]⟩
    let ex : Executor Unit := .returning .sqlite row
    let s : Session Unit := ⟨(Registry.empty .upper).registerAlias "Pair" names, ⟨none⟩, ()⟩
    let e : EntityType.pair.Entity := ((0 : Int64), (0 : Int32), ())
    let e' : EntityType.pair.Entity := ((7 : Int64), (7 : Int32), ())
    (EntityType.pair.insertPlan m ex.dialect e).identity =
        .query "SELECT last_insert_rowid() id" ∧
      Returns ex e s m row ∧ (insert ex .pair e s).1 = (.ok (some (.int 7)), e') ∧
      m.generatedKeys.head?.map (·.name) = some "a" ∧
      ¬EntityType.pair.Takes (fun field ↦ if field = "a" then some (.int 7) else none) e e' := by
  intro names m row ex s e e'
  have hm : (s.registry.resolve EntityType.pair.descriptor).1 = .ok m := by decide +kernel
  have hreturns : Returns ex e s m row := ⟨hm, rfl⟩
  refine ⟨rfl, hreturns, insert_of_returns hreturns, rfl, ?_⟩
  rintro ⟨-, hb, -⟩
  have hsecond : (7 : Int32) = 0 := hb
  exact absurd hsecond (by decide)

end Session

end EntitySql
