import EntitySql.Proofs.Number.Reading
import EntitySql.Proofs.Outcome
import EntitySql.Proofs.Schema.Resolve
import EntitySql.Proofs.Value.Record
import EntitySql.Session

/-!
# Entities read back

A value of a type is read back from the value it is stored as, null included. A row that stores
the record of an entity gives each selected property the value it had, whatever the order of its
columns, the case of their names, and the further columns between them. So an entity comes back
from such a row as it was, but for its computed fields: those are not selected, and take their
initial values.
-/

namespace EntitySql

/-! ## Values -/

theorem Value.readInt32_toInt64 (n : Int32) : Value.readInt32 (.int n.toInt64) = .ok n := by
  rw [Value.readInt32, bind_eq_ok]
  exact ⟨n.toInt64, rfl, by rw [Number.int32?_eq_some.2 (Int32.toInt_toInt64 n).symm]⟩

/-- A value of a base type is read back from what it is stored as. -/
theorem BaseType.read_toValue (type : BaseType) (a : type.Carrier) :
    type.read (type.toValue a) = .ok a := by
  cases type with
  | int32 => exact Value.readInt32_toInt64 a
  | _ => rfl

/-- Null is what no value of a base type is stored as, so that a missing value stays apart. -/
theorem FieldType.read_optional (base : BaseType) (a : base.Carrier) :
    FieldType.read (.optional base) (base.toValue a) = (base.read (base.toValue a)).map some := by
  cases base with
  | _ => rfl

theorem FieldType.read_toValue (type : FieldType) (a : type.Carrier) :
    type.read (type.toValue a) = .ok a := by
  cases type with
  | required base => exact base.read_toValue a
  | optional base =>
    cases a with
    | none => rfl
    | some a =>
      exact (read_optional base a).trans (map_eq_ok.2 ⟨a, base.read_toValue a, rfl⟩)

/-! ## Fields -/

/-- An entity whose computed fields hold their initial values. -/
def FieldValues.withInitialComputed : (fs : List Field) → FieldValues fs → FieldValues fs
  | [], _ => ()
  | f :: fs, (a, rest) =>
    (if f.role = .computed then f.type.initial else a, withInitialComputed fs rest)

def EntityType.withInitialComputed (t : EntityType) (e : t.Entity) : t.Entity :=
  FieldValues.withInitialComputed t.fields e

/-- A computed field that a record lacks has the initial value of its type. -/
theorem Field.read_computed {f : Field} {record : Record} (hrole : f.role = .computed)
    (h : Record.get? record f.name = none) : f.read record = .ok f.type.initial := by
  simp only [Field.read, hrole, h]

theorem Field.read_stored {f : Field} {record : Record} {v : Value} (hrole : f.role ≠ .computed)
    (h : Record.get? record f.name = some v) : f.read record = f.type.read v := by
  unfold Field.read
  rw [h]
  split
  · next hcomputed _ => exact absurd hcomputed hrole
  · next hcomputed _ => exact absurd hcomputed hrole
  · next heq _ =>
    cases heq
    rfl
  · next heq _ => cases heq

namespace FieldValues

theorem map_fst_entries (fs : List Field) (values : FieldValues fs) :
    (entries fs values).map (·.1) = fs.map (·.name) := by
  induction fs with
  | nil => rfl
  | cons f fs ih => exact congrArg (f.name :: ·) (ih values.2)

/-- An entity has the value of each of its fields under the name of the field. -/
theorem get?_ofList_entries (fs : List Field) (values : FieldValues fs)
    (hnodup : (fs.map (·.name)).Nodup) :
    ∀ entry ∈ entries fs values,
      Record.get? (Record.ofList (entries fs values)) entry.1 = some entry.2 := by
  intro entry hentry
  refine Record.get?_ofList_of_mem ?_ hentry
  rw [map_fst_entries]
  exact hnodup

/-- A record that holds the stored value of each field that is not computed, and nothing under the
name of a field that is, reads as what was stored but for the computed fields. -/
theorem read_fetched {stored fetched : Record} (fs : List Field) (values : FieldValues fs)
    (hstored : ∀ entry ∈ entries fs values, Record.get? stored entry.1 = some entry.2)
    (hfetched : ∀ f ∈ fs, Record.get? fetched f.name =
      if f.role = .computed then none else Record.get? stored f.name) :
    read fetched fs = .ok (withInitialComputed fs values) := by
  induction fs with
  | nil => rfl
  | cons f fs ih =>
    obtain ⟨a, rest⟩ := values
    have hhead : f.read fetched = .ok (if f.role = .computed then f.type.initial else a) := by
      have hf := hfetched f List.mem_cons_self
      split
      · next hrole => exact Field.read_computed hrole (by rw [hf, if_pos hrole])
      · next hrole =>
        rw [if_neg hrole, hstored (f.name, f.type.toValue a) List.mem_cons_self] at hf
        rw [Field.read_stored hrole hf, f.type.read_toValue]
    have htail : read fetched fs = .ok (withInitialComputed fs rest) :=
      ih rest (fun entry hentry ↦ hstored entry (List.mem_cons_of_mem _ hentry))
        fun f' hf' ↦ hfetched f' (List.mem_cons_of_mem _ hf')
    exact bind_eq_ok.2 ⟨_, hhead, bind_eq_ok.2 ⟨_, htail, rfl⟩⟩

end FieldValues

/-! ## Rows -/

/-- A row that holds a record under the columns of an entity: each selected property has its
value in a column of its name. Columns stand in any order, and others may stand between them; no
two have the same name, and the case of the letters of a name does not count. -/
structure Row.Stores (row : Row) (m : EntityMeta) (record : Record) : Prop where
  distinct : (row.names.map fun name ↦ Text.foldAscii name.toList).Nodup
  value : ∀ p ∈ m.selectProperties, ∃ c ∈ row.columns,
    Text.sameIgnoringCase c.1 p.column = true ∧ Record.get? record p.name = some c.2

namespace Row.Stores

variable {row : Row} {m : EntityMeta} {record : Record}

/-- Looking for the exact name first makes no difference, since no other column fits. -/
theorem find?_column (h : row.Stores m record) {c : String × Value} (hc : c ∈ row.columns)
    {column : String} (hname : Text.sameIgnoringCase c.1 column = true) :
    row.toRecord.find? column = some c.2 := by
  refine Record.find?_ofList hc hname ?_
  intro other hother hsame
  have hdistinct := h.distinct
  rw [Row.names, List.map_map] at hdistinct
  have heq : Text.foldAscii other.1.toList = Text.foldAscii c.1.toList :=
    (beq_iff_eq.1 hsame).trans (beq_iff_eq.1 hname).symm
  rw [List.inj_on_of_nodup_map hdistinct hother hc heq]

/-- A computed property is missing, since no selected one has its name. -/
theorem get?_rowToRecord (h : row.Stores m record) (hnodup : (m.properties.map (·.name)).Nodup)
    {p : ResolvedProperty} (hp : p ∈ m.properties) :
    Record.get? (m.rowToRecord row.toRecord) p.name =
      if p.computed then none else Record.get? record p.name := by
  unfold EntityMeta.rowToRecord
  split
  · next hcomputed =>
    refine Record.get?_ofList_eq_none ?_
    intro hmem
    rw [List.map_map] at hmem
    obtain ⟨q, hq, hname⟩ := List.mem_map.1 hmem
    obtain ⟨hq, hselected⟩ := List.mem_filter.1 hq
    rw [List.inj_on_of_nodup_map hnodup hq hp hname, hcomputed] at hselected
    cases hselected
  · next hplain =>
    have hselected : p ∈ m.selectProperties := List.mem_filter.2 ⟨hp, by simp [hplain]⟩
    obtain ⟨c, hc, hname, hvalue⟩ := h.value p hselected
    rw [hvalue]
    refine Record.get?_ofList_of_mem ?_ ?_
    · rw [List.map_map]
      exact hnodup.sublist (List.filter_sublist.map _)
    · refine List.mem_map.2 ⟨p, hselected, ?_⟩
      rw [h.find?_column hc hname, Option.getD_some]

end Row.Stores

/-! ## Entities -/

namespace EntityType

variable {t : EntityType} {names : Option AliasMap} {case : NameCase} {m : EntityMeta}

theorem exists_property (hm : EntityMeta.resolve t.descriptor names case = .ok m) {f : Field}
    (hf : f ∈ t.fields) :
    ∃ p ∈ m.properties, p.name = f.name ∧ p.computed = decide (f.role = .computed) := by
  obtain ⟨-, columns, heq⟩ := EntityMeta.resolve_eq_ok hm
  have hdescriptor : f.descriptor ∈ t.descriptor.properties := List.mem_map_of_mem hf
  rw [heq]
  exact ⟨_, List.mem_map_of_mem hdescriptor, rfl, rfl⟩

theorem nodup_fields (hm : EntityMeta.resolve t.descriptor names case = .ok m) :
    (t.fields.map (·.name)).Nodup := by
  have hnodup := EntityMeta.nodup_names_of_resolve hm
  obtain ⟨-, columns, heq⟩ := EntityMeta.resolve_eq_ok hm
  rw [heq, EntityType.descriptor, List.map_map, List.map_map] at hnodup
  exact hnodup

/-- A row that stores an entity is read as that entity, with its computed fields at their initial
values. -/
theorem ofRecord_rowToRecord (hm : EntityMeta.resolve t.descriptor names case = .ok m) {row : Row}
    {e : t.Entity} (h : row.Stores m (t.toRecord e)) :
    t.ofRecord (m.rowToRecord row.toRecord) = .ok (t.withInitialComputed e) := by
  have hstored : ∀ entry ∈ FieldValues.entries t.fields e,
      Record.get? (t.toRecord e) entry.1 = some entry.2 :=
    FieldValues.get?_ofList_entries t.fields e (nodup_fields hm)
  refine FieldValues.read_fetched t.fields e hstored ?_
  intro f hf
  obtain ⟨p, hp, hname, hcomputed⟩ := exists_property hm hf
  rw [← hname, h.get?_rowToRecord (EntityMeta.nodup_names_of_resolve hm) hp, hcomputed]
  simp only [decide_eq_true_eq]

theorem materialize_rows (hm : EntityMeta.resolve t.descriptor names case = .ok m)
    {rows : List Row} {entities : List t.Entity}
    (h : List.Forall₂ (fun row e ↦ row.Stores m (t.toRecord e)) rows entities) :
    Session.materialize t m rows = .ok (entities.map t.withInitialComputed) := by
  induction h with
  | nil => rfl
  | cons hrow _ ih =>
    exact bind_eq_ok.2 ⟨_, ofRecord_rowToRecord hm hrow, bind_eq_ok.2 ⟨_, ih, rfl⟩⟩

end EntityType

/-- Fetching reads back what was stored: a row that stores an entity gives that entity with its
computed fields at their initial values, and so do the rows of several entities, in their order.
Aliases and the case of names play no part. -/
theorem EntityType.stored_rows_read_back {t : EntityType} {names : Option AliasMap}
    {case : NameCase} {m : EntityMeta}
    (hm : EntityMeta.resolve t.descriptor names case = .ok m) :
    (∀ (row : Row) (e : t.Entity), row.Stores m (t.toRecord e) →
      t.ofRecord (m.rowToRecord row.toRecord) = .ok (t.withInitialComputed e)) ∧
    ∀ (rows : List Row) (entities : List t.Entity),
      List.Forall₂ (fun row e ↦ row.Stores m (t.toRecord e)) rows entities →
        Session.materialize t m rows = .ok (entities.map t.withInitialComputed) :=
  ⟨fun _ _ ↦ ofRecord_rowToRecord hm, fun _ _ ↦ materialize_rows hm⟩

/-- Columns in another order and another case, with one more between them, under an alias. A float
that is not a number and a missing value come back too. -/
theorem EntityType.stored_rows_read_back_sensor :
    let t : EntityType := ⟨"Sensor", none, [⟨"id", .required .int64, .key⟩,
      ⟨"Level", .required .float, .plain⟩, ⟨"note", .optional .string, .plain⟩,
      ⟨"total", .required .int32, .computed⟩]⟩
    let names : AliasMap := ⟨none, [("note", "Remark")]⟩
    let m : EntityMeta := ⟨"Sensor", "SENSOR", [⟨"id", "ID", true, false, false⟩,
      ⟨"Level", "LEVEL", false, false, false⟩, ⟨"note", "Remark", false, false, false⟩,
      ⟨"total", "TOTAL", false, false, true⟩]⟩
    let stored : t.Entity := ((7 : Int64), (0.0 / 0.0 : Float), none, (12 : Int32), ())
    let fetched : t.Entity := ((7 : Int64), (0.0 / 0.0 : Float), none, (0 : Int32), ())
    let row : Row := ⟨[("rEMARK", .null), ("extra", .bool true), ("level", .float (0.0 / 0.0)),
      ("Id", .int 7)]⟩
    EntityMeta.resolve t.descriptor (some names) .upper = .ok m ∧ row.Stores m (t.toRecord stored) ∧
      t.ofRecord (m.rowToRecord row.toRecord) = .ok fetched ∧
      Session.materialize t m [row] = .ok [fetched] := by
  intro t names m stored fetched row
  have hresolve : EntityMeta.resolve t.descriptor (some names) .upper = .ok ⟨_, _, _⟩ := rfl
  have hm : EntityMeta.resolve t.descriptor (some names) .upper = .ok m :=
    hresolve.trans (congrArg Except.ok (by decide +kernel))
  have hstores : row.Stores m (t.toRecord stored) := by
    have hget := FieldValues.get?_ofList_entries t.fields stored (by decide)
    refine ⟨by decide, ?_⟩
    intro p hp
    have hselected : p ∈ [m.properties[0], m.properties[1], m.properties[2]] := hp
    simp only [List.mem_cons, List.not_mem_nil, or_false] at hselected
    rcases hselected with rfl | rfl | rfl
    · exact ⟨("Id", .int 7), .tail _ (.tail _ (.tail _ (.head _))), by decide,
        hget ("id", .int 7) (.head _)⟩
    · exact ⟨("level", .float (0.0 / 0.0)), .tail _ (.tail _ (.head _)), by decide,
        hget ("Level", .float (0.0 / 0.0)) (.tail _ (.head _))⟩
    · exact ⟨("rEMARK", .null), .head _, by decide,
        hget ("note", .null) (.tail _ (.tail _ (.head _)))⟩
  exact ⟨hm, hstores, (stored_rows_read_back hm).1 row stored hstores,
    (stored_rows_read_back hm).2 [row] [stored] (.cons hstores .nil)⟩

end EntitySql
