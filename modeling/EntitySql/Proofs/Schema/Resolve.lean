import EntitySql.Schema.Registry
import Mathlib.Data.List.Nodup

/-!
# Resolved entities

No two properties of a resolved entity have the same name, even where case is not looked at. A
registry remembers nothing but resolved entities, whatever was asked of it before.
-/

namespace EntitySql

/-- Where no two elements pass a test, a list without repetition has one of them at most. -/
theorem length_filter_le_one {α : Type} {l : List α} {test : α → Bool} (hnodup : l.Nodup)
    (h : ∀ a ∈ l, ∀ b ∈ l, test a = true → test b = true → a = b) :
    (l.filter test).length ≤ 1 := by
  have hsame : ∀ a ∈ l.filter test, ∀ b ∈ l.filter test, a = b := by
    intro a ha b hb
    rw [List.mem_filter] at ha hb
    exact h a ha.1 b hb.1 ha.2 hb.2
  have hdistinct := hnodup.filter test
  cases hlist : l.filter test with
  | nil => exact Nat.zero_le 1
  | cons a rest =>
    cases rest with
    | nil => exact Nat.le_refl 1
    | cons b rest =>
      rw [hlist] at hsame hdistinct
      have heq : a = b := hsame a List.mem_cons_self b (List.mem_cons_of_mem _ List.mem_cons_self)
      exact absurd (heq ▸ List.mem_cons_self) (List.nodup_cons.1 hdistinct).1

namespace EntityMeta

theorem nodup_of_firstFault? {entity : String} {seen : List (List Char)}
    {properties : List PropertyDescriptor} (h : firstFault? entity seen properties = none) :
    (properties.map fun p ↦ Text.lower p.name.toList).Nodup ∧
      ∀ p ∈ properties, Text.lower p.name.toList ∉ seen := by
  induction properties generalizing seen with
  | nil => simp
  | cons p ps ih =>
    unfold firstFault? at h
    dsimp only at h
    split at h
    · cases h
    · next hnew =>
      split at h
      · cases h
      · split at h
        · cases h
        · have hrest := ih h
          constructor
          · rw [List.map_cons, List.nodup_cons]
            refine ⟨?_, hrest.1⟩
            intro hmem
            obtain ⟨q, hq, hname⟩ := List.mem_map.1 hmem
            exact hrest.2 q hq (by simp [hname])
          · intro q hq
            rcases List.mem_cons.1 hq with rfl | hq
            · exact hnew
            · intro hseen
              exact hrest.2 q hq (List.mem_cons_of_mem _ hseen)

/-- No property is in two roles: a computed property is no key, and a key is of one kind. -/
theorem exclusive_of_firstFault? {entity : String} {seen : List (List Char)}
    {properties : List PropertyDescriptor} (h : firstFault? entity seen properties = none) :
    ∀ p ∈ properties, (p.computed = true → p.key = false ∧ p.explicitKey = false) ∧
      (p.key = true → p.explicitKey = false) := by
  induction properties generalizing seen with
  | nil => simp
  | cons p ps ih =>
    unfold firstFault? at h
    dsimp only at h
    split at h
    · cases h
    · split at h
      · cases h
      · next hcomputed =>
        split at h
        · cases h
        · next hkeys =>
          intro q hq
          rcases List.mem_cons.1 hq with rfl | hq
          · simp only [Bool.and_eq_true, Bool.or_eq_true, not_and, not_or,
              Bool.not_eq_true] at hcomputed hkeys
            exact ⟨hcomputed, hkeys⟩
          · exact ih h q hq

/-- What a resolution that succeeds gives: a declaration without fault, property by property. -/
theorem resolve_eq_ok {descriptor : EntityDescriptor} {names : Option AliasMap}
    {case : NameCase} {m : EntityMeta} (h : resolve descriptor names case = .ok m) :
    firstFault? descriptor.name [] descriptor.properties = none ∧
      ∃ columns, m.properties = descriptor.properties.map
        (resolveProperty columns (conventionalKey? descriptor.properties) case) := by
  unfold resolve at h
  split at h
  · cases h
  · split at h
    · cases h
    · next hfault =>
      cases h
      exact ⟨hfault, _, rfl⟩

/-- Properties of a resolved entity have names of their own. -/
theorem nodup_names_of_resolve {descriptor : EntityDescriptor} {names : Option AliasMap}
    {case : NameCase} {m : EntityMeta} (h : resolve descriptor names case = .ok m) :
    (m.properties.map (·.name)).Nodup := by
  obtain ⟨hfault, columns, heq⟩ := resolve_eq_ok h
  have hnodup := (nodup_of_firstFault? hfault).1
  rw [heq, List.map_map]
  exact List.Nodup.of_map (fun name ↦ Text.lower name.toList) (by
    rw [List.map_map]
    exact hnodup)

end EntityMeta

namespace Registry

/-- A registry as it is after any uses of it. -/
inductive Reachable : Registry → Prop
  | empty (case : NameCase) : Reachable (.empty case)
  | registerAlias {r : Registry} (entity : String) (names : AliasMap) :
    Reachable r → Reachable (r.registerAlias entity names)
  | resolve {r : Registry} (d : EntityDescriptor) : Reachable r → Reachable (r.resolve d).2

variable {r : Registry}

theorem nodup_names_of_mem (h : r.Reachable) :
    ∀ entry ∈ r.resolved, (entry.2.properties.map (·.name)).Nodup := by
  induction h with
  | empty case => simp [empty]
  | registerAlias entity names _ ih =>
    intro entry hentry
    exact ih entry (List.mem_filter.1 hentry).1
  | resolve d _ ih =>
    unfold Registry.resolve
    split
    · exact ih
    · split
      · next m hm =>
        intro entry hentry
        rcases List.mem_cons.1 hentry with rfl | hold
        · exact EntityMeta.nodup_names_of_resolve hm
        · exact ih entry hold
      · exact ih

/-- Properties of an entity that a registry gives have names of their own. -/
theorem nodup_names_of_resolve (h : r.Reachable) {d : EntityDescriptor} {m : EntityMeta}
    (hm : (r.resolve d).1 = .ok m) : (m.properties.map (·.name)).Nodup := by
  unfold Registry.resolve at hm
  split at hm
  · next m' hget =>
    cases hm
    have hmem : (d.name, m) ∈ r.resolved := by
      obtain ⟨l₁, l₂, heq, -⟩ := List.lookup_eq_some_iff.1 hget
      rw [heq]
      simp
    exact nodup_names_of_mem h _ hmem
  · split at hm
    · next m' hresolve =>
      cases hm
      exact EntityMeta.nodup_names_of_resolve hresolve
    · cases hm

end Registry

end EntitySql
