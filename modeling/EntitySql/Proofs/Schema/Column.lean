import EntitySql.Proofs.Outcome
import EntitySql.Proofs.Schema.Resolve
import EntitySql.Proofs.Text.UpperCase

/-!
# Columns derived from names

Where no column is declared, the columns of a resolved entity are its names in the case of the
policy. Resolution tells names apart by their lower case, so in lower case and as declared the
columns are distinct. Upper case may give two names one column, and resolution does not notice.
-/

namespace EntitySql.EntityMeta

open Text

variable {d : EntityDescriptor} {case : NameCase} {m : EntityMeta}

/-- Without aliases and declared columns, each column is derived from its name. -/
theorem columns_of_resolve (hderived : ∀ p ∈ d.properties, p.column = none)
    (h : resolve d none case = .ok m) :
    m.properties.map (·.column) = d.properties.map fun p ↦ case.apply p.name := by
  unfold resolve at h
  split at h
  · cases h
  · split at h
    · cases h
    · cases h
      rw [List.map_map]
      refine List.map_congr_left fun p hp ↦ ?_
      simp [resolveProperty, hderived p hp]

/-- What is made of the names is distinct where it tells lower cases apart. -/
theorem nodup_map_of_lower {α : Type} {properties : List PropertyDescriptor}
    (hnodup : (properties.map fun p ↦ lower p.name.toList).Nodup) (derive : String → α)
    (h : ∀ p ∈ properties, ∀ q ∈ properties, derive p.name = derive q.name →
      lower p.name.toList = lower q.name.toList) :
    (properties.map fun p ↦ derive p.name).Nodup := by
  refine List.Nodup.map_on (fun p hp q hq heq ↦ ?_) (List.Nodup.of_map _ hnodup)
  exact List.inj_on_of_nodup_map hnodup hp hq (h p hp q hq heq)

/-- Derived columns are distinct, except for names that have one upper case; and names whose
letters all come back from their capitals have not. -/
theorem derived_columns_distinct (hderived : ∀ p ∈ d.properties, p.column = none)
    (h : resolve d none case = .ok m) :
    ((m.properties.map (·.column)).Nodup ↔
      (case = .upper → (d.properties.map fun p ↦ upper p.name.toList).Nodup)) ∧
    ((∀ p ∈ d.properties, ∀ c ∈ p.name.toList, isRestored c = true) →
      (m.properties.map (·.column)).Nodup) := by
  have hlower := (nodup_of_firstFault? (resolve_eq_ok h).1).1
  have hupper : (d.properties.map fun p ↦ NameCase.upper.apply p.name) =
      (d.properties.map fun p ↦ upper p.name.toList).map String.ofList := by
    rw [List.map_map]
    rfl
  have hexact : (m.properties.map (·.column)).Nodup ↔
      (case = .upper → (d.properties.map fun p ↦ upper p.name.toList).Nodup) := by
    rw [columns_of_resolve hderived h]
    cases case with
    | upper =>
      rw [hupper, List.nodup_map_iff fun _ _ ↦ String.ofList_injective]
      simp
    | lower =>
      refine iff_of_true (nodup_map_of_lower hlower NameCase.lower.apply ?_) nofun
      exact fun p _ q _ heq ↦ String.ofList_injective heq
    | preserve =>
      refine iff_of_true (nodup_map_of_lower hlower NameCase.preserve.apply ?_) nofun
      exact fun p _ q _ heq ↦ congrArg (fun name ↦ lower name.toList) heq
  refine ⟨hexact, fun hrestored ↦ hexact.2 fun _ ↦ ?_⟩
  exact nodup_map_of_lower hlower (fun name ↦ upper name.toList)
    fun p hp q hq heq ↦ lower_eq_of_upper_eq (hrestored p hp) (hrestored q hq) heq

/-- A sharp s in one name, where no other name has two letters in its place. -/
theorem derived_columns_distinct_street :
    let d : EntityDescriptor := ⟨"Road", none, [⟨"Id", none, true, false, false⟩,
      ⟨"Straße", none, false, false, false⟩, ⟨"Strase", none, false, false, false⟩]⟩
    ∃ m, resolve d none .upper = .ok m ∧ (m.properties.map (·.column)).Nodup := by
  intro d
  have hresolved : (resolve d none .upper).toBool = true := by decide +kernel
  cases h : resolve d none .upper with
  | error e =>
    rw [h] at hresolved
    cases hresolved
  | ok m =>
    have hupper : (d.properties.map fun p ↦ upper p.name.toList).Nodup := by decide +kernel
    exact ⟨m, rfl, (derived_columns_distinct (by decide) h).1.2 fun _ ↦ hupper⟩

/-- A name with a sharp s and a name with two letters in its place are taken for two properties
and get one column. -/
theorem sharp_s_shares_column :
    let d : EntityDescriptor := ⟨"Beer", none, [⟨"Maß", none, false, false, false⟩,
      ⟨"Mass", none, false, false, false⟩]⟩
    resolve d none .upper = .ok ⟨"Beer", "BEER", [⟨"Maß", "MASS", false, false, false⟩,
      ⟨"Mass", "MASS", false, false, false⟩]⟩ := by
  decide +kernel

end EntitySql.EntityMeta
