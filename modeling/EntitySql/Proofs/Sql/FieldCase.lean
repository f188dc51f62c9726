import EntitySql.Proofs.Sql.Role

/-!
# The case of field names

A statement takes the value of a key from the field that has the name of the key in whatever case of
ASCII letters, so that two records whose names differ in case alone are found by the same statement.
What is inserted or set is taken from the field of exactly that name. There the two records give
the same statement if they have the same ones of these names.
-/

namespace EntitySql

open Text

namespace Record

/-- No two fields have names that differ only in the case of ASCII letters. -/
def Apart (r : Record) : Prop := (r.map fun field ↦ foldAscii field.1.toList).Nodup

instance (r : Record) : Decidable r.Apart :=
  inferInstanceAs (Decidable (r.map fun field ↦ foldAscii field.1.toList).Nodup)

/-- The same values under names that differ only in the case of ASCII letters. -/
structure Recased (r r' : Record) : Prop where
  left : ∀ field ∈ r, ∃ other ∈ r', sameIgnoringCase field.1 other.1 = true ∧ field.2 = other.2
  right : ∀ field ∈ r', ∃ other ∈ r, sameIgnoringCase field.1 other.1 = true ∧ field.2 = other.2

variable {r r' : Record} {name : String} {v : Value}

theorem Apart.eq_of_same {field other : String × Value} (h : r.Apart) (hfield : field ∈ r)
    (hother : other ∈ r) (hsame : sameIgnoringCase field.1 other.1 = true) : field = other :=
  List.inj_on_of_nodup_map h hfield hother (beq_iff_eq.1 hsame)

theorem Apart.nodup_names (h : r.Apart) : (r.map (·.1)).Nodup := by
  unfold Apart at h
  refine List.Nodup.of_map (fun name ↦ foldAscii name.toList) ?_
  rwa [List.map_map]

/-- The value that is found is that of the one field whose name fits. -/
theorem Apart.find?_eq_some_iff (h : r.Apart) : r.find? name = some v ↔
    ∃ field ∈ r, sameIgnoringCase field.1 name = true ∧ field.2 = v := by
  have hfound : ∀ {w}, r.find? name = some w →
      ∃ field ∈ r, sameIgnoringCase field.1 name = true ∧ field.2 = w := by
    intro w hw
    rcases Option.or_eq_some_iff.1 hw with hexact | ⟨-, hcase⟩
    · exact ⟨_, mem_of_get? hexact, sameIgnoringCase_self name, rfl⟩
    · obtain ⟨field, hfind, rfl⟩ := Option.map_eq_some_iff.1 hcase
      have hname : sameIgnoringCase field.1 name = true := by simpa using List.find?_some hfind
      exact ⟨field, List.mem_of_find?_eq_some hfind, hname, rfl⟩
  refine ⟨hfound, ?_⟩
  rintro ⟨field, hfield, hname, rfl⟩
  cases hw : r.find? name with
  | none =>
    have hnone := List.find?_eq_none.1 (Option.map_eq_none_iff.1 (Option.or_eq_none_iff.1 hw).2)
    exact absurd hname (hnone field hfield)
  | some w =>
    obtain ⟨other, hother, hsame, rfl⟩ := hfound hw
    rw [h.eq_of_same hother hfield (sameIgnoringCase_trans hsame (by rwa [sameIgnoringCase_comm]))]

theorem Recased.symm (h : r.Recased r') : r'.Recased r := ⟨h.right, h.left⟩

theorem Recased.exists_field (h : r.Recased r') (hfield : ∃ field ∈ r,
    sameIgnoringCase field.1 name = true ∧ field.2 = v) :
    ∃ field ∈ r', sameIgnoringCase field.1 name = true ∧ field.2 = v := by
  obtain ⟨field, hfield, hname, rfl⟩ := hfield
  obtain ⟨other, hother, hsame, hvalue⟩ := h.left field hfield
  rw [sameIgnoringCase_comm] at hsame
  exact ⟨other, hother, sameIgnoringCase_trans hsame hname, hvalue.symm⟩

/-- Looking a name up without regard to case finds the same in records that differ in case. -/
theorem find?_eq_of_recased (hr : r.Apart) (hr' : r'.Apart) (h : r.Recased r') (name : String) :
    r.find? name = r'.find? name := by
  apply Option.ext
  intro v
  rw [hr.find?_eq_some_iff, hr'.find?_eq_some_iff]
  exact ⟨h.exists_field, h.symm.exists_field⟩

theorem Apart.get?_eq_some_iff (h : r.Apart) : get? r name = some v ↔ (name, v) ∈ r :=
  ⟨mem_of_get?, ParamBag.lookup_of_mem h.nodup_names⟩

/-- Of each of these properties both records have a field of exactly its name, or neither has. -/
def SpeltAlike (r r' : Record) (properties : List ResolvedProperty) : Prop :=
  ∀ p ∈ properties, p.name ∈ r.map (·.1) ↔ p.name ∈ r'.map (·.1)

instance (r r' : Record) (properties : List ResolvedProperty) :
    Decidable (r.SpeltAlike r' properties) :=
  inferInstanceAs (Decidable (∀ p ∈ properties, p.name ∈ r.map (·.1) ↔ p.name ∈ r'.map (·.1)))

theorem Recased.mem_of_mem (hr' : r'.Apart) (h : r.Recased r') (hname : name ∈ r'.map (·.1))
    (hmem : (name, v) ∈ r) : (name, v) ∈ r' := by
  obtain ⟨field, hfield, rfl⟩ := List.mem_map.1 hname
  obtain ⟨other, hother, hsame, rfl⟩ := h.left _ hmem
  rwa [hr'.eq_of_same hfield hother hsame]

/-- A name that both records spell alike has one value in both. -/
theorem get?_eq_of_recased (hr : r.Apart) (hr' : r'.Apart) (h : r.Recased r')
    (hname : name ∈ r.map (·.1) ↔ name ∈ r'.map (·.1)) : get? r name = get? r' name := by
  apply Option.ext
  intro v
  rw [hr.get?_eq_some_iff, hr'.get?_eq_some_iff]
  constructor
  · intro hmem
    exact h.mem_of_mem hr' (hname.1 (List.mem_map_of_mem hmem)) hmem
  · intro hmem
    exact h.symm.mem_of_mem hr (hname.2 (List.mem_map_of_mem hmem)) hmem

end Record

/-! ## What a statement takes from a record -/

variable {r r' : Record}

/-- Keys are read by nothing but such look-ups. -/
theorem keyEntries_congr (h : ∀ name, r.find? name = r'.find? name)
    (keys : List ResolvedProperty) : keyEntries r keys = keyEntries r' keys := by
  induction keys with
  | nil => rfl
  | cons k ks ih => rw [keyEntries, keyEntries, keyValue, keyValue, h, ih]

theorem bagOf_congr {properties : List ResolvedProperty}
    (h : ∀ p ∈ properties, Record.get? r p.name = Record.get? r' p.name) :
    bagOf r properties = bagOf r' properties := by
  unfold bagOf
  rw [List.map_congr_left fun p hp ↦ by rw [h p hp]]

/-- Records whose names differ in case alone are found and deleted by the same statement, or by none
for the same reason. They are updated and inserted alike if what is set or inserted has its exact
name in both or in neither. -/
theorem statements_ignore_key_case (b : StatementBuilder) (hr : r.Apart) (hr' : r'.Apart)
    (h : r.Recased r') :
    b.selectById (.composite r) = b.selectById (.composite r') ∧
      b.delete r = b.delete r' ∧
      (r.SpeltAlike r' b.entity.updateProperties → b.update r = b.update r') ∧
      (r.SpeltAlike r' b.entity.insertProperties → b.insert r = b.insert r') := by
  have hkeys (keys : List ResolvedProperty) : keyBag r keys = keyBag r' keys := by
    rw [keyBag, keyBag, keyEntries_congr (Record.find?_eq_of_recased hr hr' h)]
  have hbag {properties : List ResolvedProperty} (hspelt : r.SpeltAlike r' properties) :
      bagOf r properties = bagOf r' properties :=
    bagOf_congr fun p hp ↦ Record.get?_eq_of_recased hr hr' h (hspelt p hp)
  refine ⟨?_, ?_, fun hspelt ↦ ?_, fun hspelt ↦ ?_⟩
  · simp only [StatementBuilder.selectById, StatementBuilder.keyParams, hkeys]
  · simp only [StatementBuilder.delete, hkeys]
  · unfold StatementBuilder.update
    cases hparts : b.updateParts with
    | error e => rfl
    | ok parts =>
      have hsets := (StatementBuilder.updateParts_eq_ok hparts).1
      have hbags : updateBag r parts.sets parts.keys = updateBag r' parts.sets parts.keys := by
        rw [updateBag, updateBag, hkeys, hsets, hbag hspelt]
      exact congrArg (fun x : Except Error ParamBag ↦ do
        return Statement.mk parts.sql (.single (← x))) hbags
  · rw [StatementBuilder.insert, StatementBuilder.insert, hbag hspelt]

/-- A composite key in two spellings, beside a settable property in one. -/
theorem statements_ignore_key_case_composite :
    let b : StatementBuilder := ⟨⟨"OrderLine", "ORDERLINE", [⟨"Line", "LINE", true, false, false⟩,
      ⟨"OrderId", "ORDERID", true, false, false⟩, ⟨"Qty", "QTY", false, false, false⟩]⟩, .db2⟩
    let r : Record := [("Line", .int 2), ("OrderId", .int 7), ("Qty", .int 4)]
    let r' : Record := [("ORDERID", .int 7), ("Qty", .int 4), ("line", .int 2)]
    r.Apart ∧ r'.Apart ∧ r.Recased r' ∧ r.SpeltAlike r' b.entity.updateProperties ∧
      r.SpeltAlike r' b.entity.insertProperties ∧
      b.selectById (.composite r) = b.selectById (.composite r') ∧ b.delete r = b.delete r' ∧
      b.update r = b.update r' ∧ b.insert r = b.insert r' := by
  intro b r r'
  have hr : r.Apart := by decide
  have hr' : r'.Apart := by decide
  have h : r.Recased r' := by
    constructor <;> simp [r, r', sameIgnoringCase, foldAscii]
  have hsets : r.SpeltAlike r' b.entity.updateProperties := by decide
  have hinserts : r.SpeltAlike r' b.entity.insertProperties := by decide
  obtain ⟨hselect, hdelete, hupdate, hinsert⟩ := statements_ignore_key_case b hr hr' h
  exact ⟨hr, hr', h, hsets, hinserts, hselect, hdelete, hupdate hsets, hinsert hinserts⟩

/-- The names of what a statement binds, each with whether its value is null. -/
def Params.nulls (params : Params) : List (List (String × Bool)) :=
  params.bags.map fun bag ↦ bag.entries.map fun entry ↦ (entry.1, entry.2.isNull)

/-- A value whose field name differs in case from the property is found as a key, but set and
inserted as null. -/
theorem update_nulls_recased_field :
    let b : StatementBuilder := ⟨⟨"Article", "ARTICLE", [⟨"Id", "ID", true, false, false⟩,
      ⟨"Name", "NAME", false, false, false⟩]⟩, .db2⟩
    let r : Record := [("Id", .int 3), ("Name", .string "n")]
    let r' : Record := [("id", .int 3), ("name", .string "n")]
    r.Apart ∧ r'.Apart ∧ r.Recased r' ∧
      (b.update r).map (·.params.nulls) = .ok [[("Name", false), ("Id", false)]] ∧
      (b.update r').map (·.params.nulls) = .ok [[("Name", true), ("Id", false)]] ∧
      (b.insert r).params.nulls = [[("Name", false)]] ∧
      (b.insert r').params.nulls = [[("Name", true)]] ∧
      b.update r ≠ b.update r' ∧ b.insert r ≠ b.insert r' := by
  intro b r r'
  have h : r.Recased r' := by
    constructor <;> simp [r, r', sameIgnoringCase, foldAscii]
  have hupdate : (b.update r).map (·.params.nulls) = .ok [[("Name", false), ("Id", false)]] := by
    decide
  have hupdate' : (b.update r').map (·.params.nulls) = .ok [[("Name", true), ("Id", false)]] := by
    decide
  have hinsert : (b.insert r).params.nulls = [[("Name", false)]] := by decide
  have hinsert' : (b.insert r').params.nulls = [[("Name", true)]] := by decide
  refine ⟨by decide, by decide, h, hupdate, hupdate', hinsert, hinsert', fun heq ↦ ?_, fun heq ↦ ?_⟩
  · rw [heq, hupdate'] at hupdate
    cases hupdate
  · rw [heq, hinsert'] at hinsert
    cases hinsert

end EntitySql
