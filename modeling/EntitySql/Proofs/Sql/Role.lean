import EntitySql.Proofs.Schema.Role
import EntitySql.Proofs.Sql.Write
import EntitySql.Proofs.Value.Record

/-!
# Roles and statements

What a statement reads, writes and finds its rows by is decided by the roles of the properties
alone: each list in it has the properties of certain roles, each once and in the order of
declaration. What updates or deletes a record compares every key, and there is no such statement
for an entity without keys, nor for a record that lacks one.
-/

namespace EntitySql

open Text

namespace StatementBuilder

variable (b : StatementBuilder)

/-! ## What a statement mentions -/

/-- The properties in question, each once and in the order of declaration. -/
structure Lists (listed : List ResolvedProperty) (inQuestion : ResolvedProperty → Prop) :
    Prop where
  ordered : listed.Sublist b.entity.properties
  once : (listed.map (·.name)).Nodup
  mem_iff : ∀ p, p ∈ listed ↔ p ∈ b.entity.properties ∧ inQuestion p

/-- All keys and nothing else, and at least one. -/
structure ListsKeys (keys : List ResolvedProperty) : Prop
    extends b.Lists keys fun p ↦ p.key = true ∨ p.explicitKey = true where
  ne_nil : keys ≠ []

def IsClause (rest : String) : Prop :=
  rest = "" ∨ ∃ word ∈ [" WHERE ", " ORDER BY ", " LIMIT ", " OFFSET "], ∃ behind,
    rest = word ++ behind

def Reads (sql : String) : Prop :=
  ∃ listed rest, b.Lists listed (·.computed = false) ∧ IsClause rest ∧
    sql = "select " ++ ",".intercalate (b.columnTexts listed) ++ " from " ++
      b.dialect.style.identifier b.entity.table ++ rest

def ReadsById (sql : String) : Prop :=
  ∃ listed keys, b.Lists listed (·.computed = false) ∧ b.ListsKeys keys ∧
    sql = "SELECT " ++ ",".intercalate (b.columnTexts listed) ++ " FROM " ++
      b.dialect.style.identifier b.entity.table ++ " WHERE " ++
      " AND ".intercalate (b.markedColumns keys)

/-- An insert of the explicit keys and of what may be set. A single column that has no name is
taken for none at all, and is left out of the text. -/
def Inserts (valuesKeyword : String) (st : InsertStatement) : Prop :=
  ∃ listed, b.Lists listed (fun p ↦ p.isSettable = true ∨ p.explicitKey = true) ∧
    st.columnList = ", ".intercalate (b.columnTexts listed) ∧
    st.paramList = ", ".intercalate (listed.map fun p ↦ "@" ++ p.name) ∧
    (listed = [] →
      st.sql = "INSERT INTO " ++ b.dialect.style.identifier b.entity.table ++ " DEFAULT VALUES") ∧
    (listed ≠ [] → (∀ p, listed = [p] → p.column ≠ "") →
      st.sql = "INSERT INTO " ++ b.dialect.style.identifier b.entity.table ++ " (" ++
        ", ".intercalate (b.columnTexts listed) ++ ") " ++ valuesKeyword ++ " (" ++
        ", ".intercalate (listed.map fun p ↦ "@" ++ p.name) ++ ")")

def Updates (sql : String) : Prop :=
  ∃ sets keys, b.Lists sets (·.isSettable = true) ∧ sets ≠ [] ∧ b.ListsKeys keys ∧
    sql = "update " ++ b.dialect.style.identifier b.entity.table ++ " set " ++
      ", ".intercalate (b.markedColumns sets) ++ " where " ++
      " and ".intercalate (b.markedColumns keys)

def Deletes (sql : String) : Prop :=
  ∃ keys, b.ListsKeys keys ∧
    sql = "DELETE FROM " ++ b.dialect.style.identifier b.entity.table ++ " WHERE " ++
      " AND ".intercalate (b.markedColumns keys)

structure MentionsByRole : Prop where
  selectAll : ∀ filter st, b.selectAll filter = .ok st → b.Reads st.sql
  select : ∀ query st, b.select query = .ok st → b.Reads st.sql
  selectById : ∀ key st, b.selectById key = .ok st → b.ReadsById st.sql
  insert : ∀ record, b.Inserts "VALUES" (b.insert record)
  insertBatch : ∀ records, b.Inserts "values" (b.insertBatch records)
  update : ∀ record st, b.update record = .ok st → b.Updates st.sql
  updateBatch : ∀ records st, b.updateBatch records = .ok st → b.Updates st.sql
  delete : ∀ record st, b.delete record = .ok st → b.Deletes st.sql
  deleteBatch : ∀ records st, b.deleteBatch records = .ok st → b.Deletes st.sql

section Mentions

variable {b} {d : EntityDescriptor} {names : Option AliasMap} {case : NameCase}

/-- Filtering by a role keeps the order and takes no property twice. -/
theorem lists_filter (hnodup : (b.entity.properties.map (·.name)).Nodup)
    {role : ResolvedProperty → Bool} {inQuestion : ResolvedProperty → Prop}
    (h : ∀ p ∈ b.entity.properties, role p = true ↔ inQuestion p) :
    b.Lists (b.entity.properties.filter role) inQuestion where
  ordered := List.filter_sublist
  once := hnodup.sublist (List.filter_sublist.map _)
  mem_iff p := by
    rw [List.mem_filter]
    exact and_congr_right (h p)

theorem lists_selectProperties (hnodup : (b.entity.properties.map (·.name)).Nodup) :
    b.Lists b.entity.selectProperties (·.computed = false) :=
  lists_filter hnodup fun p _ ↦ by simp

theorem lists_updateProperties (hnodup : (b.entity.properties.map (·.name)).Nodup) :
    b.Lists b.entity.updateProperties (·.isSettable = true) :=
  lists_filter hnodup fun p _ ↦ by
    simp [ResolvedProperty.isSettable, ResolvedProperty.isAnyKey, and_comm]

theorem listsKeys (hnodup : (b.entity.properties.map (·.name)).Nodup) (hne : b.keys ≠ []) :
    b.ListsKeys b.keys where
  toLists := lists_filter hnodup fun p _ ↦ by simp [ResolvedProperty.isAnyKey]
  ne_nil := hne

/-- An explicit key is inserted because it is neither generated nor computed. -/
theorem lists_insertProperties (h : EntityMeta.resolve d names case = .ok b.entity) :
    b.Lists b.entity.insertProperties fun p ↦ p.isSettable = true ∨ p.explicitKey = true := by
  refine lists_filter (EntityMeta.nodup_names_of_resolve h) fun p hp ↦ ?_
  obtain ⟨hcomputed, hkey⟩ := EntityMeta.exclusive_of_resolve h p hp
  unfold ResolvedProperty.isSettable
  cases hp : p.explicitKey with
  | false => simp [and_comm]
  | true =>
    have hnotComputed : p.computed = false := by
      by_contra hc
      exact absurd (hcomputed (by simpa using hc)).2 (by simp [hp])
    have hnotKey : p.key = false := by
      by_contra hk
      exact absurd (hkey (by simpa using hk)) (by simp [hp])
    simp [hnotComputed, hnotKey]

theorem keyProperties_eq_ok_iff {keys : List ResolvedProperty} :
    b.entity.keyProperties = .ok keys ↔ keys = b.keys ∧ b.keys ≠ [] := by
  unfold EntityMeta.keyProperties StatementBuilder.keys
  split
  · next hnil => simp [hnil]
  · next hne =>
    simp only [Except.ok.injEq]
    exact ⟨fun h ↦ ⟨h.symm, hne⟩, fun h ↦ h.1.symm⟩

theorem IsClause.append {first rest : String} (hfirst : IsClause first) (hrest : IsClause rest) :
    IsClause (first ++ rest) := by
  obtain rfl | ⟨word, hword, behind, rfl⟩ := hfirst
  · rwa [String.empty_append]
  · exact .inr ⟨word, hword, behind ++ rest, String.append_assoc⟩

theorem isClause_filterClause {filter : Option Expr} {clause : Fragment}
    (h : b.filterClause filter = .ok clause) : IsClause clause.sql := by
  cases filter with
  | none =>
    cases h
    exact .inl rfl
  | some e =>
    obtain ⟨fragment, -, h⟩ := bind_eq_ok.1 h
    cases h
    exact .inr ⟨_, by simp, _, rfl⟩

theorem isClause_orderBy {order : OrderBy} {clause : String} (h : b.orderBy order = .ok clause) :
    IsClause clause := by
  obtain ⟨terms, -, h⟩ := bind_eq_ok.1 h
  cases h
  split
  · exact .inl rfl
  · exact .inr ⟨_, by simp, _, rfl⟩

theorem isClause_paging (style : Style) (limit offset : String) :
    IsClause (style.paging limit offset) := by
  unfold Style.paging
  split
  · exact .inr ⟨" LIMIT ", by simp, limit ++ " OFFSET " ++ offset,
      by simp only [String.append_assoc]⟩
  · exact .inr ⟨" OFFSET ", by simp, offset ++ " ROWS FETCH NEXT " ++ limit ++ " ROWS ONLY",
      by simp only [String.append_assoc]⟩

theorem isClause_pagingClause (d : Dialect) (sql : String) : IsClause (pagingClause d sql) := by
  have horder : IsClause orderByNothing := .inr ⟨" ORDER BY ", by simp, "(SELECT NULL)", rfl⟩
  unfold pagingClause
  split
  · exact horder.append (isClause_paging _ _ _)
  · rw [String.empty_append]
    exact isClause_paging _ _ _

theorem reads_of_filtered (hnodup : (b.entity.properties.map (·.name)).Nodup)
    {filter : Option Expr} {sql : String} {params : ParamBag}
    (h : b.filtered b.selectText filter = .ok (sql, params)) {rest : String}
    (hrest : IsClause rest) : b.Reads (sql ++ rest) := by
  obtain ⟨clause, hclause, h⟩ := bind_eq_ok.1 h
  cases h
  refine ⟨_, clause.sql ++ rest, lists_selectProperties hnodup,
    (isClause_filterClause hclause).append hrest, ?_⟩
  simp only [selectText, columnList_eq, table, String.append_assoc]

/-- A select, whatever follows its table, reads the columns that are not computed. -/
theorem reads_of_select (hnodup : (b.entity.properties.map (·.name)).Nodup) {query : Query}
    {st : Statement} (h : b.select query = .ok st) : b.Reads st.sql := by
  obtain ⟨sql, bag, clause, hfiltered, horder, hst⟩ := select_eq_ok h
  rcases hst with ⟨-, rfl⟩ | ⟨size, page, -, -, rfl⟩
  · exact reads_of_filtered hnodup hfiltered (isClause_orderBy horder)
  · rw [pageOf, String.append_assoc]
    exact reads_of_filtered hnodup hfiltered
      ((isClause_orderBy horder).append (isClause_pagingClause _ _))

/-- An insert lists the columns that are not generated and not computed, or none by its keyword. -/
theorem inserts_insertWith (h : EntityMeta.resolve d names case = .ok b.entity)
    (valuesKeyword : String) (params : Params) :
    b.Inserts valuesKeyword (b.insertWith valuesKeyword params) := by
  refine ⟨_, lists_insertProperties h, rfl, rfl, ?_, ?_⟩
  · intro hnil
    simp only [insertWith, insertText, hnil]
    rfl
  · intro hne hnamed
    simp only [insertWith, insertText]
    rw [if_neg]
    · rfl
    · intro hempty
      rcases columnList_isEmpty (by decide) hempty with hnil | ⟨p, hp, hcolumn⟩
      · exact hne hnil
      · exact hnamed p hp hcolumn

/-- An update names what may be set, and compares every key. -/
theorem sql_of_updateParts (hnodup : (b.entity.properties.map (·.name)).Nodup)
    {parts : UpdateParts} (h : b.updateParts = .ok parts) : b.Updates parts.sql := by
  have hsql := (updateParts_eq_ok h).2.2
  rw [assignments_eq, assignments_eq] at hsql
  unfold updateParts at h
  obtain ⟨keys, hkeys, h⟩ := bind_eq_ok.1 h
  dsimp only at h
  split at h
  · cases h
  · next hsets =>
    refine ⟨_, _, lists_updateProperties hnodup, ?_,
      listsKeys hnodup (keyProperties_eq_ok_iff.1 hkeys).2, hsql⟩
    simpa using hsets

section Bound

variable {α : Type} {toParams : α → Params} {st : Statement}

/-- An update of one record or of many, which differ in what they bind. -/
theorem updates_of_bound (hnodup : (b.entity.properties.map (·.name)).Nodup)
    {bound : UpdateParts → Except Error α}
    (h : (do
      let parts ← b.updateParts
      let a ← bound parts
      return Statement.mk parts.sql (toParams a)) = .ok st) : b.Updates st.sql := by
  obtain ⟨parts, hparts, h⟩ := bind_eq_ok.1 h
  obtain ⟨a, -, h⟩ := bind_eq_ok.1 h
  cases h
  exact sql_of_updateParts hnodup hparts

/-- A delete compares the keys, however they are bound. -/
theorem deletes_of_bound (hnodup : (b.entity.properties.map (·.name)).Nodup)
    {bound : List ResolvedProperty → Except Error α}
    (h : (do
      let keys ← b.entity.keyProperties
      let a ← bound keys
      return Statement.mk (b.deleteText keys) (toParams a)) = .ok st) : b.Deletes st.sql := by
  obtain ⟨keys, hkeys, h⟩ := bind_eq_ok.1 h
  obtain ⟨a, -, h⟩ := bind_eq_ok.1 h
  cases h
  obtain ⟨rfl, hne⟩ := keyProperties_eq_ok_iff.1 hkeys
  refine ⟨_, listsKeys hnodup hne, ?_⟩
  rw [deleteText, assignments_eq]
  rfl

end Bound

/-- The statements that are built mention each column by the role of its property. -/
theorem mentionsByRole (h : EntityMeta.resolve d names case = .ok b.entity) :
    b.MentionsByRole := by
  have hnodup := EntityMeta.nodup_names_of_resolve h
  constructor
  case selectAll =>
    intro filter st hst
    obtain ⟨⟨sql, params⟩, hfiltered, hst⟩ := bind_eq_ok.1 hst
    cases hst
    simpa using reads_of_filtered hnodup hfiltered (.inl rfl)
  case select => exact fun query st hst ↦ reads_of_select hnodup hst
  case selectById =>
    intro key st hst
    obtain ⟨keys, hkeys, hst⟩ := bind_eq_ok.1 hst
    obtain ⟨rfl, hne⟩ := keyProperties_eq_ok_iff.1 hkeys
    obtain ⟨params, -, hst⟩ := bind_eq_ok.1 hst
    cases hst
    refine ⟨_, _, lists_selectProperties hnodup, listsKeys hnodup hne, ?_⟩
    rw [assignments_eq]
    rfl
  case insert => exact fun record ↦ inserts_insertWith h _ _
  case insertBatch => exact fun records ↦ inserts_insertWith h _ _
  case update => exact fun record st hst ↦ updates_of_bound hnodup hst
  case updateBatch => exact fun records st hst ↦ updates_of_bound hnodup hst
  case delete => exact fun record st hst ↦ deletes_of_bound hnodup hst
  case deleteBatch => exact fun records st hst ↦ deletes_of_bound hnodup hst

end Mentions

end StatementBuilder

/-! ## What a statement is refused for -/

/-- No field of the record has the name of the property, in whatever case of ASCII letters. -/
def Lacks (record : Record) (p : ResolvedProperty) : Prop :=
  ∀ field ∈ record, sameIgnoringCase field.1 p.name = false

theorem find?_eq_none_iff {record : Record} {p : ResolvedProperty} :
    record.find? p.name = none ↔ Lacks record p := by
  unfold Record.find? Lacks
  rw [Option.or_eq_none_iff, Option.map_eq_none_iff, List.find?_eq_none]
  constructor
  · intro h field hfield
    simpa using h.2 field hfield
  · intro h
    have hexact : ∀ v, Record.get? record p.name ≠ some v := by
      intro v hv
      have hself := h (p.name, v) (Record.mem_of_get? hv)
      rw [sameIgnoringCase, beq_self_eq_true] at hself
      cases hself
    exact ⟨Option.eq_none_iff_forall_ne_some.2 hexact, fun field hfield ↦ by simp [h field hfield]⟩

/-- An outcome that hangs on the keys of some records alone: refused for a key that one of them
lacks, and reached if none lacks any. -/
inductive KeyDecided {α : Type} (keys : List ResolvedProperty) (records : List Record) :
    Except Error α → Prop
  | refused {record : Record} {k : ResolvedProperty} (hrecord : record ∈ records) (hk : k ∈ keys)
    (h : Lacks record k) : KeyDecided keys records (.error (.validation (.missingKey k.name)))
  | reached (h : ∀ record ∈ records, ∀ k ∈ keys, ¬Lacks record k) (a : α) :
    KeyDecided keys records (.ok a)

namespace KeyDecided

variable {α β : Type} {keys : List ResolvedProperty} {records : List Record} {x : Except Error α}

theorem bind_ok (h : KeyDecided keys records x) (f : α → β) :
    KeyDecided keys records (x >>= fun a ↦ .ok (f a)) := by
  cases h with
  | refused hrecord hk h => exact .refused hrecord hk h
  | reached h a => exact .reached h (f a)

theorem map (h : KeyDecided keys records x) (f : α → β) : KeyDecided keys records (x.map f) := by
  cases h with
  | refused hrecord hk h => exact .refused hrecord hk h
  | reached h a => exact .reached h (f a)

/-- A missing key is the only fault that a record can have. -/
theorem validation_iff (h : KeyDecided keys records x) :
    (∃ cause, x = .error (.validation cause)) ↔
      ∃ record ∈ records, ∃ k ∈ keys, Lacks record k := by
  cases h with
  | refused hrecord hk h => exact iff_of_true ⟨_, rfl⟩ ⟨_, hrecord, _, hk, h⟩
  | reached h a =>
    refine iff_of_false (by simp) ?_
    rintro ⟨record, hrecord, k, hk, hlacks⟩
    exact h record hrecord k hk hlacks

theorem exists_ok (h : KeyDecided keys records x)
    (hnone : ¬∃ record ∈ records, ∃ k ∈ keys, Lacks record k) : ∃ a, x = .ok a := by
  cases h with
  | refused hrecord hk h => exact absurd ⟨_, hrecord, _, hk, h⟩ hnone
  | reached h a => exact ⟨a, rfl⟩

end KeyDecided

theorem keyDecided_keyEntries (record : Record) (keys : List ResolvedProperty) :
    KeyDecided keys [record] (keyEntries record keys) := by
  induction keys with
  | nil => exact .reached (by simp) []
  | cons k ks ih =>
    unfold keyEntries keyValue
    cases hfind : record.find? k.name with
    | none =>
      exact .refused (List.mem_singleton_self record) List.mem_cons_self
        (find?_eq_none_iff.1 hfind)
    | some v =>
      have hk : ¬Lacks record k := by
        rw [← find?_eq_none_iff, hfind]
        simp
      generalize keyEntries record ks = rest at ih ⊢
      cases ih with
      | refused hrecord hk h => exact .refused hrecord (List.mem_cons_of_mem k hk) h
      | reached h rest =>
        refine .reached (fun r hr k' hk' ↦ ?_) _
        rcases List.mem_cons.1 hk' with rfl | hk'
        · rwa [List.mem_singleton.1 hr]
        · exact h r hr k' hk'

/-- A batch is decided by the keys of its records. By induction on the records. -/
theorem keyDecided_allBags {keys : List ResolvedProperty} {bag : Record → Except Error ParamBag}
    (h : ∀ record, KeyDecided keys [record] (bag record)) (records : List Record) :
    KeyDecided keys records (allBags bag records) := by
  induction records with
  | nil => exact .reached (by simp) []
  | cons record records ih =>
    have hfirst := h record
    unfold allBags
    generalize bag record = first at hfirst ⊢
    generalize allBags bag records = rest at ih ⊢
    cases hfirst with
    | refused hrecord hk hlacks =>
      exact .refused (List.mem_cons.2 (.inl (List.mem_singleton.1 hrecord))) hk hlacks
    | reached hfirst first =>
      cases ih with
      | refused hrecord hk hlacks => exact .refused (List.mem_cons_of_mem _ hrecord) hk hlacks
      | reached hrest rest =>
        refine .reached (fun r hr k hk ↦ ?_) _
        rcases List.mem_cons.1 hr with rfl | hr
        · exact hfirst _ (List.mem_singleton_self _) k hk
        · exact hrest r hr k hk

theorem keyDecided_updateBag (record : Record) (sets keys : List ResolvedProperty) :
    KeyDecided keys [record] (updateBag record sets keys) :=
  ((keyDecided_keyEntries record keys).map _).map _

namespace StatementBuilder

variable (b : StatementBuilder)

/-- Refused for a key that a record lacks, and for nothing else. -/
structure NeedsKeys (records : List Record) (result : Except Error Statement) : Prop where
  validation_iff : (∃ cause, result = .error (.validation cause)) ↔
    ∃ record ∈ records, ∃ k ∈ b.keys, Lacks record k
  built : (¬∃ record ∈ records, ∃ k ∈ b.keys, Lacks record k) → ∃ st, result = .ok st

/-- What the statements that find rows by their keys are refused for, in the order in which it is
looked at: the lack of any key, then that of anything to set, then that of a value for a key. -/
structure RefusesByRole : Prop where
  noKey : b.keys = [] →
    (∀ key, b.selectById key = .error (.schema .noKey)) ∧
    (∀ record, b.update record = .error (.schema .noKey)) ∧
    (∀ records, b.updateBatch records = .error (.schema .noKey)) ∧
    (∀ record, b.delete record = .error (.schema .noKey)) ∧
    ∀ records, b.deleteBatch records = .error (.schema .noKey)
  nothingToSet : b.keys ≠ [] → b.entity.updateProperties = [] →
    (∀ record, b.update record = .error (.validation (.nothingToUpdate b.entity.name))) ∧
    ∀ records, b.updateBatch records = .error (.validation (.nothingToUpdate b.entity.name))
  update : b.keys ≠ [] → b.entity.updateProperties ≠ [] →
    ∀ record, b.NeedsKeys [record] (b.update record)
  updateBatch : b.keys ≠ [] → b.entity.updateProperties ≠ [] →
    ∀ records, b.NeedsKeys records (b.updateBatch records)
  delete : b.keys ≠ [] → ∀ record, b.NeedsKeys [record] (b.delete record)
  deleteBatch : b.keys ≠ [] → ∀ records, b.NeedsKeys records (b.deleteBatch records)

variable {b}

/-- What is decided by the keys needs all of them. -/
theorem needsKeys {records : List Record} {result : Except Error Statement}
    (h : KeyDecided b.keys records result) : b.NeedsKeys records result :=
  ⟨h.validation_iff, h.exists_ok⟩

theorem keyProperties_of_nil (h : b.keys = []) :
    b.entity.keyProperties = .error (.schema .noKey) := by
  unfold EntityMeta.keyProperties
  unfold StatementBuilder.keys at h
  rw [h]

theorem updateParts_of_nil (h : b.keys = []) : b.updateParts = .error (.schema .noKey) := by
  unfold updateParts
  rw [keyProperties_of_nil h]
  rfl

theorem updateParts_of_nothing (h : b.keys ≠ []) (hsets : b.entity.updateProperties = []) :
    b.updateParts = .error (.validation (.nothingToUpdate b.entity.name)) := by
  unfold updateParts
  rw [keyProperties_eq_ok_iff.2 ⟨rfl, h⟩, hsets]
  rfl

theorem exists_updateParts (h : b.keys ≠ []) (hsets : b.entity.updateProperties ≠ []) :
    ∃ sql, b.updateParts = .ok ⟨sql, b.entity.updateProperties, b.keys⟩ := by
  unfold updateParts
  rw [keyProperties_eq_ok_iff.2 ⟨rfl, h⟩]
  exact ⟨_, if_neg (by simpa using hsets)⟩

theorem keyDecided_update (h : b.keys ≠ []) (hsets : b.entity.updateProperties ≠ [])
    (record : Record) : KeyDecided b.keys [record] (b.update record) := by
  obtain ⟨sql, hparts⟩ := exists_updateParts h hsets
  unfold StatementBuilder.update
  rw [hparts]
  exact (keyDecided_updateBag record _ _).bind_ok _

theorem keyDecided_updateBatch (h : b.keys ≠ []) (hsets : b.entity.updateProperties ≠ [])
    (records : List Record) : KeyDecided b.keys records (b.updateBatch records) := by
  obtain ⟨sql, hparts⟩ := exists_updateParts h hsets
  unfold StatementBuilder.updateBatch
  rw [hparts]
  exact (keyDecided_allBags (fun record ↦ keyDecided_updateBag record _ _) records).bind_ok _

theorem keyDecided_delete (h : b.keys ≠ []) (record : Record) :
    KeyDecided b.keys [record] (b.delete record) := by
  unfold StatementBuilder.delete
  rw [keyProperties_eq_ok_iff.2 ⟨rfl, h⟩]
  exact ((keyDecided_keyEntries record b.keys).map _).bind_ok _

theorem keyDecided_deleteBatch (h : b.keys ≠ []) (records : List Record) :
    KeyDecided b.keys records (b.deleteBatch records) := by
  unfold StatementBuilder.deleteBatch
  rw [keyProperties_eq_ok_iff.2 ⟨rfl, h⟩]
  exact (keyDecided_allBags
    (fun record ↦ (keyDecided_keyEntries record b.keys).map _) records).bind_ok _

/-- The statements that are refused are those whose roles are missing. -/
theorem refusesByRole (b : StatementBuilder) : b.RefusesByRole where
  noKey h := by
    refine ⟨fun key ↦ ?_, fun record ↦ ?_, fun records ↦ ?_, fun record ↦ ?_, fun records ↦ ?_⟩
    · exact bind_eq_error.2 (.inl (keyProperties_of_nil h))
    · exact bind_eq_error.2 (.inl (updateParts_of_nil h))
    · exact bind_eq_error.2 (.inl (updateParts_of_nil h))
    · exact bind_eq_error.2 (.inl (keyProperties_of_nil h))
    · exact bind_eq_error.2 (.inl (keyProperties_of_nil h))
  nothingToSet h hsets :=
    ⟨fun _ ↦ bind_eq_error.2 (.inl (updateParts_of_nothing h hsets)),
      fun _ ↦ bind_eq_error.2 (.inl (updateParts_of_nothing h hsets))⟩
  update h hsets record := needsKeys (keyDecided_update h hsets record)
  updateBatch h hsets records := needsKeys (keyDecided_updateBatch h hsets records)
  delete h record := needsKeys (keyDecided_delete h record)
  deleteBatch h records := needsKeys (keyDecided_deleteBatch h records)

end StatementBuilder

/-- The roles of a resolved entity are those of its declaration, and every statement mentions just
what they say. What is to update or delete records is not built without a key to find them by, nor
without a value for each key. -/
theorem statements_follow_roles {d : EntityDescriptor} {names : Option AliasMap} {case : NameCase}
    {m : EntityMeta} (h : EntityMeta.resolve d names case = .ok m) :
    m.HasRoles d ∧ ∀ dialect, StatementBuilder.MentionsByRole ⟨m, dialect⟩ ∧
      StatementBuilder.RefusesByRole ⟨m, dialect⟩ :=
  ⟨EntityMeta.hasRoles h, fun _ ↦
    ⟨StatementBuilder.mentionsByRole h, StatementBuilder.refusesByRole _⟩⟩

/-- An entity that declares no generated key, with an explicit key beside the conventional one, a
computed property, and an alias. -/
theorem statements_follow_roles_convention :
    let d : EntityDescriptor := ⟨"Part", none, [⟨"Code", none, false, true, false⟩,
      ⟨"iD", none, false, false, false⟩, ⟨"Total", none, false, false, true⟩,
      ⟨"Order", none, false, false, false⟩]⟩
    let names : AliasMap := ⟨some "PARTS", [("Code", "C")]⟩
    ∃ m, EntityMeta.resolve d (some names) .lower = .ok m ∧ m.HasRoles d ∧
      ∀ dialect, StatementBuilder.MentionsByRole ⟨m, dialect⟩ ∧
        StatementBuilder.RefusesByRole ⟨m, dialect⟩ := by
  intro d names
  have hresolve : EntityMeta.resolve d (some names) .lower = .ok ⟨_, _, _⟩ := rfl
  exact ⟨_, hresolve, statements_follow_roles hresolve⟩

/-- A settable property whose column has no name is left out of the insert: its value is bound,
but no marker in the text refers to it. -/
theorem insert_drops_unnamed_column :
    let d : EntityDescriptor := ⟨"Note", none, [⟨"Id", none, true, false, false⟩,
      ⟨"Text", some "", false, false, false⟩]⟩
    let m : EntityMeta := ⟨"Note", "NOTE", [⟨"Id", "ID", true, false, false⟩,
      ⟨"Text", "", false, false, false⟩]⟩
    let st := StatementBuilder.insert ⟨m, .sqlite⟩ [("Text", .string "a")]
    EntityMeta.resolve d none .upper = .ok m ∧ m.updateProperties.map (·.name) = ["Text"] ∧
      st.params.bags.map (·.names) = [["Text"]] ∧ st.sql = "INSERT INTO NOTE DEFAULT VALUES" ∧
      occursIn (marker "Text").toList st.sql.toList = false := by
  intro d m st
  exact ⟨by decide +kernel, by decide, by decide, by decide +kernel, by decide +kernel⟩

end EntitySql
