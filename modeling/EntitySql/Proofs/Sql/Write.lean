import EntitySql.Proofs.Schema.Resolve
import EntitySql.Proofs.Sql.Batch
import EntitySql.Proofs.Sql.Lowering
import EntitySql.Proofs.Sql.StatementText
import EntitySql.Sql.Identity
import Mathlib.Data.List.Forall2

/-!
# Writes bind every column to its own property

A statement that writes rows or finds them by their key has one marker for each column that it
assigns or compares, called as the property of that column. Binding it puts the value of the
property where its marker stands, as a placeholder or as NULL.
-/

namespace EntitySql

open Text Marker

/-! ## Lists with a marker in each part -/

/-- The parts with a slot of its own in the place of each marker. -/
def fillHoles (separator : String) (parts : List (String × String)) (slots : List String) :
    String :=
  separator.intercalate (List.zipWith (fun part slot ↦ part.1 ++ slot) parts slots)

section Holes

variable {separator : String} {parts : List (String × String)}

end Holes

/-! ## Bags of a record -/

def writtenValue (record : Record) (p : ResolvedProperty) : Value :=
  (Record.get? record p.name).getD .null

/-- The values of keys in a record, each under the name of its property or, where that is
missing, under the first name that differs from it only in case. -/
def KeysAre (record : Record) (keys : List ResolvedProperty) (values : List Value) : Prop :=
  keys.map (fun k ↦ record.find? k.name) = values.map some

section Bags

variable {record : Record} {properties keys : List ResolvedProperty} {bag : ParamBag}

/-- Keys are read under the names of their properties, each with its own value. -/
theorem keyEntries_eq_ok {entries : List (String × Value)}
    (h : keyEntries record keys = .ok entries) :
    entries.map (·.1) = keys.map (·.name) ∧ KeysAre record keys (entries.map (·.2)) := by
  induction keys generalizing entries with
  | nil =>
    cases h
    exact ⟨rfl, rfl⟩
  | cons k ks ih =>
    rw [keyEntries] at h
    obtain ⟨v, hv, h⟩ := bind_eq_ok.1 h
    obtain ⟨rest, hrest, h⟩ := bind_eq_ok.1 h
    cases h
    have hvalue : record.find? k.name = some v := by
      unfold keyValue at hv
      split at hv
      · next w hw =>
        cases hv
        exact hw
      · cases hv
    have htail := ih hrest
    refine ⟨by rw [List.map_cons, List.map_cons, htail.1], ?_⟩
    rw [KeysAre, List.map_cons, List.map_cons, List.map_cons, hvalue, htail.2]

theorem bagOf_entries (record : Record) (h : (properties.map (·.name)).Nodup) :
    (bagOf record properties).entries =
      properties.map fun p ↦ (p.name, writtenValue record p) := by
  apply ParamBag.ofList_entries
  rw [List.map_map]
  exact h

theorem keyBag_entries (hnodup : (keys.map (·.name)).Nodup) (h : keyBag record keys = .ok bag) :
    bag.entries.map (·.1) = keys.map (·.name) ∧ KeysAre record keys (bag.entries.map (·.2)) := by
  obtain ⟨entries, hentries, rfl⟩ := map_eq_ok.1 h
  have hspec := keyEntries_eq_ok hentries
  rw [← hspec.1] at hnodup
  rw [ParamBag.ofList_entries hnodup]
  exact hspec

/-- The bag of an update lists what it sets and then its keys. -/
theorem updateBag_entries {sets : List ResolvedProperty}
    (hnodup : (sets.map (·.name) ++ keys.map (·.name)).Nodup)
    (h : updateBag record sets keys = .ok bag) :
    ∃ values, KeysAre record keys values ∧
      bag.entries.map (·.1) = sets.map (·.name) ++ keys.map (·.name) ∧
      bag.entries.map (·.2) = sets.map (writtenValue record) ++ values := by
  obtain ⟨other, hother, rfl⟩ := map_eq_ok.1 h
  have hsplit := List.nodup_append.1 hnodup
  have hkeys := keyBag_entries hsplit.2.1 hother
  have hsets := bagOf_entries record hsplit.1
  have hnames : (bagOf record sets).names = sets.map (·.name) := by
    rw [ParamBag.names, hsets, List.map_map]
    rfl
  have hentries := ParamBag.extend_entries (bagOf record sets) other (by
    rw [hnames, ParamBag.names, hkeys.1]
    exact hnodup)
  refine ⟨other.entries.map (·.2), hkeys.2, ?_, ?_⟩
  · calc
      ((bagOf record sets).extend other).entries.map (·.1) =
          (bagOf record sets).names ++ other.entries.map (·.1) := by
        rw [hentries, List.map_append]
        rfl
      _ = sets.map (·.name) ++ keys.map (·.name) := by rw [hnames, hkeys.1]
  · calc
      ((bagOf record sets).extend other).entries.map (·.2) =
          (bagOf record sets).entries.map (·.2) ++ other.entries.map (·.2) := by
        rw [hentries, List.map_append]
      _ = sets.map (writtenValue record) ++ other.entries.map (·.2) := by
        rw [hsets, List.map_map]
        rfl

end Bags

/-! ## Statements with slots for their markers -/

namespace StatementBuilder

section Texts

variable (b : StatementBuilder)

def keys : List ResolvedProperty := b.entity.properties.filter (·.isAnyKey)

/-- Columns, each set to or compared with its own slot. -/
def assigned (separator : String) (properties : List ResolvedProperty) (slots : List String) :
    String :=
  fillHoles separator
    (properties.map fun p ↦ (b.dialect.style.identifier p.column ++ " = ", p.name)) slots

end Texts

variable {b : StatementBuilder} {d : Dialect} {properties : List ResolvedProperty}

theorem keyProperties_eq_ok {keys : List ResolvedProperty}
    (h : b.entity.keyProperties = .ok keys) : keys = b.keys := by
  unfold EntityMeta.keyProperties at h
  unfold StatementBuilder.keys
  split at h
  · cases h
  · cases h
    rfl

theorem keys_subset : b.keys ⊆ b.entity.properties := List.filter_sublist.subset

theorem nodup_keys (hnodup : (b.entity.properties.map (·.name)).Nodup) :
    (b.keys.map (·.name)).Nodup :=
  hnodup.sublist (List.filter_sublist.map _)

theorem nodup_inserted (hnodup : (b.entity.properties.map (·.name)).Nodup) :
    (b.entity.insertProperties.map (·.name)).Nodup :=
  hnodup.sublist (List.filter_sublist.map _)

/-- What an update sets is never one of its keys. -/
theorem nodup_updated (hnodup : (b.entity.properties.map (·.name)).Nodup) :
    (b.entity.updateProperties.map (·.name) ++ b.keys.map (·.name)).Nodup := by
  rw [List.nodup_append]
  refine ⟨hnodup.sublist (List.filter_sublist.map _), nodup_keys hnodup, ?_⟩
  intro name hset other hkey hsame
  obtain ⟨p, hp, rfl⟩ := List.mem_map.1 hset
  obtain ⟨q, hq, rfl⟩ := List.mem_map.1 hkey
  have heq : p = q := List.inj_on_of_nodup_map hnodup (EntityMeta.updateProperties_subset hp)
    (keys_subset hq) hsame
  have hplain := (List.mem_filter.1 hp).2
  have hany := (List.mem_filter.1 hq).2
  simp only [heq, hany, Bool.not_true, Bool.and_false] at hplain
  cases hplain

/-- An update sets what may be set and compares the keys. -/
theorem updateParts_eq_ok {parts : UpdateParts} (h : b.updateParts = .ok parts) :
    parts.sets = b.entity.updateProperties ∧ parts.keys = b.keys ∧
      parts.sql = "update " ++ b.table ++ " set " ++ b.assignments ", " b.entity.updateProperties ++
        " where " ++ b.assignments " and " b.keys := by
  unfold updateParts at h
  obtain ⟨keys, hkeys, h⟩ := bind_eq_ok.1 h
  obtain rfl := keyProperties_eq_ok hkeys
  dsimp only at h
  split at h
  · cases h
  · cases h
    exact ⟨rfl, rfl, rfl⟩

theorem column_toList_eq_nil {p : ResolvedProperty} (h : (b.column p).toList = []) :
    p.column = "" := by
  cases hr : isReserved p.column with
  | false =>
    rw [column, Style.identifier_of_not_isReserved _ hr] at h
    exact String.toList_inj.1 h
  | true =>
    rw [column, Style.toList_identifier_of_isReserved _ hr] at h
    simp at h

/-- The text of a list of columns is empty for no columns, and for one whose name is empty. -/
theorem columnList_isEmpty {separator : String} (hne : separator.toList ≠ [])
    (h : (b.columnList separator properties).isEmpty = true) :
    properties = [] ∨ ∃ p, properties = [p] ∧ p.column = "" := by
  cases properties with
  | nil => exact .inl rfl
  | cons p ps =>
    have hlist : (b.columnList separator (p :: ps)).toList = [] := by
      rw [String.isEmpty_iff.1 h]
      rfl
    rw [columnList, String.toList_intercalate, List.map_cons, List.map_cons] at hlist
    cases ps with
    | nil =>
      rw [List.map_nil, List.map_nil, List.intercalate_singleton] at hlist
      exact .inr ⟨p, rfl, column_toList_eq_nil hlist⟩
    | cons q ps =>
      rw [List.map_cons, List.map_cons, List.intercalate_cons_cons, List.append_assoc] at hlist
      exact absurd (List.append_eq_nil_iff.1 (List.append_eq_nil_iff.1 hlist).2).1 hne

/-- The text of columns that have names is empty for no columns only. -/
theorem properties_eq_nil_of_isEmpty (hm : b.entity.Named) {separator : String}
    (hne : separator.toList ≠ []) (hproperties : properties ⊆ b.entity.properties)
    (h : (b.columnList separator properties).isEmpty = true) : properties = [] := by
  rcases columnList_isEmpty hne h with hnil | ⟨p, hp, hcolumn⟩
  · exact hnil
  · have hname := isAsciiName_ne_nil (hm.column p (hproperties (by simp [hp])))
    rw [hcolumn] at hname
    exact absurd rfl hname

theorem bagOf_inserted (hnodup : (b.entity.properties.map (·.name)).Nodup) (record : Record) :
    (bagOf record b.entity.insertProperties).entries.map (·.1) =
        b.entity.insertProperties.map (·.name) ∧
      (bagOf record b.entity.insertProperties).entries.map (·.2) =
        b.entity.insertProperties.map (writtenValue record) := by
  rw [bagOf_entries record (nodup_inserted hnodup), List.map_map, List.map_map]
  exact ⟨rfl, rfl⟩

theorem isInert_deletePrefix (hm : b.entity.Named) :
    isInert ("DELETE FROM " ++ b.table ++ " WHERE ").toList = true :=
  isInert_append_string (isInert_append_string (by decide) (isInert_table hm)) (by decide)

theorem isInert_selectByIdPrefix (hm : b.entity.Named) :
    isInert ("SELECT " ++ b.columnList "," b.entity.selectProperties ++ " FROM " ++ b.table ++
      " WHERE ").toList = true := by
  have hcolumns := isInert_columnList hm "," (by decide) EntityMeta.selectProperties_subset
  have hfrom := isInert_append_string (isInert_append_string (a := "SELECT ") (by decide) hcolumns)
    (b := " FROM ") (by decide)
  exact isInert_append_string (isInert_append_string hfrom (isInert_table hm)) (by decide)

end StatementBuilder

end EntitySql
