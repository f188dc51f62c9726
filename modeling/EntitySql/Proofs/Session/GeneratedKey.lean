import EntitySql.Proofs.Session.WriteBack
import EntitySql.Proofs.Sql.FieldCase

/-!
# Generated keys that come back

An insert that is answered with a row of the key columns writes each generated key from its own
column, whatever the order of the columns, the case of their names and the aliases by which keys
have them. Nothing else of the entity changes, whichever row comes back and also where the insert
fails.
-/

namespace EntitySql.Session

open Text

variable {σ : Type} {t : EntityType} {ex : Executor σ} {e e' : t.Entity} {s s' : Session σ}
  {m : EntityMeta} {row : Row} {keys : List ResolvedProperty}

/-- A row has the column of a key, and its value is not null. -/
def Supplies (row : Row) (key : ResolvedProperty) : Prop :=
  ∃ column ∈ row.columns, sameIgnoringCase column.1 key.column = true ∧ column.2.isNull = false

/-- An entity after its generated keys have come back: each has the value of its own column, every
other field is as before, and the reply is the value of the first key. -/
structure KeysWritten (row : Row) (keys : List ResolvedProperty) (given : String → Option Value)
    (generated : Option Value) (e e' : t.Entity) : Prop where
  takes : t.Takes given e e'
  ofColumn : ∀ key ∈ keys, ∀ column ∈ row.columns,
    sameIgnoringCase column.1 key.column = true → given key.name = some column.2
  others : ∀ field, field ∉ keys.map (·.name) → given field = none
  reply : ∀ key, keys.head? = some key → ∀ column ∈ row.columns,
    sameIgnoringCase column.1 key.column = true → generated = some column.2
  keyless : keys = [] → generated = none

theorem generatedValue_of_column {key : ResolvedProperty} {column : String × Value}
    (hrow : Record.Apart row.columns) (hcolumn : column ∈ row.columns)
    (hname : sameIgnoringCase column.1 key.column = true) (isFirst : Bool) :
    generatedValue row isFirst key = column.2 := by
  have hget : row.get? key.column = some column.2 :=
    hrow.find?_eq_some_iff.2 ⟨column, hcolumn, hname, rfl⟩
  rw [generatedValue, hget]
  rfl

theorem returned_cons_of_column {key : ResolvedProperty} {column : String × Value}
    (hrow : Record.Apart row.columns) (hcolumn : column ∈ row.columns)
    (hname : sameIgnoringCase column.1 key.column = true) (hvalue : column.2.isNull = false)
    (isFirst : Bool) :
    returned row isFirst (key :: keys) = (key.name, column.2) :: returned row false keys := by
  rw [returned, generatedValue_of_column hrow hcolumn hname, hvalue]
  rfl

theorem mem_returned {key : ResolvedProperty} {column : String × Value} {isFirst : Bool}
    (hrow : Record.Apart row.columns) (hcolumn : column ∈ row.columns)
    (hname : sameIgnoringCase column.1 key.column = true) (hvalue : column.2.isNull = false)
    (hkey : key ∈ keys) : (key.name, column.2) ∈ returned row isFirst keys := by
  induction keys generalizing isFirst with
  | nil => cases hkey
  | cons first keys ih =>
    rcases List.mem_cons.1 hkey with rfl | hmem
    · rw [returned_cons_of_column hrow hcolumn hname hvalue]
      exact List.mem_cons_self
    · unfold returned
      dsimp only
      split
      · exact ih hmem
      · exact List.mem_cons_of_mem _ (ih hmem)

theorem nodup_generatedKeys {names : Option AliasMap} {case : NameCase}
    (hm : EntityMeta.resolve t.descriptor names case = .ok m) :
    (m.generatedKeys.map (·.name)).Nodup :=
  (EntityMeta.nodup_names_of_resolve hm).sublist (List.filter_sublist.map _)

theorem names_returned_subset {names : Option AliasMap} {case : NameCase}
    (hm : EntityMeta.resolve t.descriptor names case = .ok m) (row : Row) :
    (returned row true m.generatedKeys).map (·.1) ⊆ t.fields.map (·.name) := by
  rw [← EntityType.map_name_properties hm]
  exact ((returned_sublist row true m.generatedKeys).trans (List.filter_sublist.map _)).subset

/-- The values that come back are those of the keys, each from its own column. -/
theorem keysWritten_of_writeBack {names : Option AliasMap} {case : NameCase}
    {generated : Option Value} (hm : EntityMeta.resolve t.descriptor names case = .ok m)
    (hrow : Record.Apart row.columns) (hkeys : ∀ key ∈ m.generatedKeys, Supplies row key)
    (h : writeBack t row true m.generatedKeys none e = (.ok generated, e')) :
    KeysWritten row m.generatedKeys (Record.get? (returned row true m.generatedKeys)) generated
      e e' := by
  have hnames := returned_sublist row true m.generatedKeys
  have hnodup := (nodup_generatedKeys hm).sublist hnames
  have htakes := takes_of_writeBack hm h
  have hreply : generated = (returned row true m.generatedKeys).head?.map (·.2) := by
    rw [writeBack_eq] at h
    obtain ⟨-, -, heq⟩ := map_eq_ok.1 (Prod.mk.inj h).1
    exact heq.symm
  refine ⟨htakes, ?_, ?_, ?_, ?_⟩
  · intro key hkey column hcolumn hname
    obtain ⟨other, hother, hsame, hvalue⟩ := hkeys key hkey
    have hcolumns : column = other := hrow.eq_of_same hcolumn hother
      (sameIgnoringCase_trans hname (by rwa [sameIgnoringCase_comm]))
    subst hcolumns
    exact ParamBag.lookup_of_mem hnodup (mem_returned hrow hcolumn hname hvalue hkey)
  · intro field hfield
    rw [Option.eq_none_iff_forall_ne_some]
    intro v hv
    exact hfield (hnames.subset (List.mem_map_of_mem (Record.mem_of_get? hv)))
  · intro key hkey column hcolumn hname
    obtain ⟨rest, hrest⟩ := List.head?_eq_some_iff.1 hkey
    rw [hrest] at hkeys hreply
    obtain ⟨other, hother, hsame, hvalue⟩ := hkeys key List.mem_cons_self
    have hcolumns : column = other := hrow.eq_of_same hcolumn hother
      (sameIgnoringCase_trans hname (by rwa [sameIgnoringCase_comm]))
    subst hcolumns
    rw [hreply, returned_cons_of_column hrow hcolumn hname hvalue]
    rfl
  · intro hnil
    rw [hreply, hnil]
    rfl

/-- Whatever comes back, and also where it cannot be written, only generated keys change. -/
theorem changesOnly_insert {names : Option AliasMap} {case : NameCase}
    (hm : EntityMeta.resolve t.descriptor names case = .ok m)
    (hresolved : (s.registry.resolve t.descriptor).1 = .ok m) :
    t.ChangesOnly (m.generatedKeys.map (·.name)) e (insert ex t e s).1.2 := by
  rcases insert_cases ex e s with hself | ⟨m', row, hreturns⟩
  · rw [hself]
    exact FieldValues.changesOnly_self
  · cases hresolved.symm.trans hreturns.resolved
    rw [insert_of_returns hreturns, writeBack_eq]
    exact (EntityType.changesOnly_of_assignAll (EntityType.nodup_lower_fields hm)
      (names_returned_subset hm row)).mono (returned_sublist row true m.generatedKeys).subset

/-- An insert that gets back a row with the columns of all generated keys, none of them null and no
two called alike, writes each key from its own column and nothing else, and replies with the value
of the first key. Only generated keys ever change, whatever comes back. -/
theorem insert_writes_generated_keys {names : Option AliasMap} {case : NameCase}
    (hm : EntityMeta.resolve t.descriptor names case = .ok m)
    (hresolved : (s.registry.resolve t.descriptor).1 = .ok m) (ex : Executor σ) (e : t.Entity) :
    (∀ row generated e', Returns ex e s m row → Record.Apart row.columns →
      (∀ key ∈ m.generatedKeys, Supplies row key) →
      (insert ex t e s).1 = (.ok generated, e') →
      ∃ given, KeysWritten row m.generatedKeys given generated e e') ∧
    t.ChangesOnly (m.generatedKeys.map (·.name)) e (insert ex t e s).1.2 := by
  refine ⟨?_, changesOnly_insert hm hresolved⟩
  intro row generated e' hreturns hrow hkeys h
  rw [insert_of_returns hreturns] at h
  exact ⟨_, keysWritten_of_writeBack hm hrow hkeys h⟩

/-- Two keys that go by the names of each other's columns, which come back in the other case. -/
theorem insert_writes_generated_keys_crossed :
    let t : EntityType := ⟨"Pair", none, [⟨"a", .required .int64, .key⟩,
      ⟨"b", .required .int32, .key⟩, ⟨"name", .optional .string, .plain⟩]⟩
    let names : AliasMap := ⟨none, [("a", "B"), ("b", "A")]⟩
    let m : EntityMeta := ⟨"Pair", "PAIR", [⟨"a", "B", true, false, false⟩,
      ⟨"b", "A", true, false, false⟩, ⟨"name", "NAME", false, false, false⟩]⟩
    let row : Row := ⟨[("a", .int 7), ("b", .int 5), ("name", .string "other")]⟩
    let ex : Executor Unit := .returning .postgres row
    let s : Session Unit := ⟨(Registry.empty .upper).registerAlias "Pair" names, ⟨none⟩, ()⟩
    let e : t.Entity := ((0 : Int64), (0 : Int32), some "n", ())
    let e' : t.Entity := ((5 : Int64), (7 : Int32), some "n", ())
    EntityMeta.resolve t.descriptor (some names) .upper = .ok m ∧
      (s.registry.resolve t.descriptor).1 = .ok m ∧ Returns ex e s m row ∧
      Record.Apart row.columns ∧ (∀ key ∈ m.generatedKeys, Supplies row key) ∧
      (insert ex t e s).1 = (.ok (some (.int 5)), e') ∧
      (∃ given, KeysWritten row m.generatedKeys given (some (.int 5)) e e') ∧
      t.ChangesOnly (m.generatedKeys.map (·.name)) e (insert ex t e s).1.2 := by
  intro t names m row ex s e e'
  have hm : EntityMeta.resolve t.descriptor (some names) .upper = .ok m := by decide +kernel
  have hresolved : (s.registry.resolve t.descriptor).1 = .ok m := by decide +kernel
  have hreturns : Returns ex e s m row := ⟨hresolved, rfl⟩
  have hrow : Record.Apart row.columns := by decide
  have hkeys : ∀ key ∈ m.generatedKeys, Supplies row key := by
    intro key hkey
    change key ∈ [m.properties[0], m.properties[1]] at hkey
    rcases List.mem_pair.1 hkey with rfl | rfl
    · exact ⟨("b", .int 5), by simp [row], by decide, rfl⟩
    · exact ⟨("a", .int 7), by simp [row], by decide, rfl⟩
  have hinsert : (insert ex t e s).1 = (.ok (some (.int 5)), e') := insert_of_returns hreturns
  obtain ⟨hwritten, honly⟩ := insert_writes_generated_keys hm hresolved ex e
  exact ⟨hm, hresolved, hreturns, hrow, hkeys, hinsert,
    hwritten row _ e' hreturns hrow hkeys hinsert, honly⟩

end EntitySql.Session
