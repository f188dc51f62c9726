import EntitySql.Proofs.Schema.Resolve
import EntitySql.Proofs.Text.LetterCase
import Mathlib.Data.List.Perm.Basic

/-!
# The roles of properties

Every property of a resolved entity is a generated key, an explicit key, computed, or none of
these, which makes it one that a caller may set. The roles are those that were declared, except
that an entity without a declared generated key has the property called `id` for one, if that is
free. There is never a second property of that name, in whatever case it is written.
-/

namespace EntitySql

def ResolvedProperty.isSettable (p : ResolvedProperty) : Bool :=
  !p.key && !p.explicitKey && !p.computed

namespace EntityMeta

/-- Whether a property that is declared among others is a generated key. -/
def generates (properties : List PropertyDescriptor) (p : PropertyDescriptor) : Bool :=
  if properties.any (·.key) then p.key else isConventionalKey p

def computedProperties (m : EntityMeta) : List ResolvedProperty :=
  m.properties.filter (·.computed)

variable {d : EntityDescriptor} {names : Option AliasMap} {case : NameCase} {m : EntityMeta}

/-! ## The conventional key -/

section Conventional

variable {properties : List PropertyDescriptor} {p q : PropertyDescriptor}

/-- Names that are told apart in lower case leave room for one `id` only. -/
theorem eq_of_isConventionalKey
    (hnodup : (properties.map fun p ↦ Text.lower p.name.toList).Nodup)
    (hp : p ∈ properties) (hq : q ∈ properties) (hpKey : isConventionalKey p = true)
    (hqKey : isConventionalKey q = true) : p = q := by
  simp only [isConventionalKey, Bool.and_eq_true] at hpKey hqKey
  have hlower : Text.lower p.name.toList = Text.lower q.name.toList :=
    (Text.lower_eq_of_sameIgnoringCase hpKey.1.1).trans
      (Text.lower_eq_of_sameIgnoringCase hqKey.1.1).symm
  exact List.inj_on_of_nodup_map hnodup hp hq hlower

theorem conventionalKey?_beq (hnodup : (properties.map fun p ↦ Text.lower p.name.toList).Nodup)
    (hnone : properties.any (·.key) = false) (hp : p ∈ properties) :
    (conventionalKey? properties == some p.name) = isConventionalKey p := by
  unfold conventionalKey?
  rw [hnone, if_neg Bool.false_ne_true]
  cases hfind : properties.find? isConventionalKey with
  | none =>
    have hp := List.find?_eq_none.1 hfind p hp
    rw [Bool.not_eq_true] at hp
    rw [hp]
    rfl
  | some q =>
    have hq := List.mem_of_find?_eq_some hfind
    have hqKey : isConventionalKey q = true := List.find?_some hfind
    cases hpKey : isConventionalKey p with
    | true =>
      rw [eq_of_isConventionalKey hnodup hq hp hqKey hpKey]
      exact beq_self_eq_true _
    | false =>
      refine beq_false_of_ne fun hname ↦ ?_
      have hlower : Text.lower q.name.toList = Text.lower p.name.toList :=
        congrArg (fun name ↦ Text.lower name.toList) (Option.some.inj hname)
      rw [List.inj_on_of_nodup_map hnodup hq hp hlower, hpKey] at hqKey
      cases hqKey

theorem key_resolveProperty (hnodup : (properties.map fun p ↦ Text.lower p.name.toList).Nodup)
    (columns : List (String × String)) (hp : p ∈ properties) :
    (resolveProperty columns (conventionalKey? properties) case p).key =
      generates properties p := by
  unfold generates resolveProperty
  cases hany : properties.any (·.key) with
  | true => simp [conventionalKey?, hany]
  | false =>
    have hkey : p.key = false := by
      rw [← Bool.not_eq_true]
      exact List.any_eq_false.1 hany p hp
    dsimp only
    rw [hkey, Bool.false_or, conventionalKey?_beq hnodup hany hp, if_neg Bool.false_ne_true]

theorem length_filter_isConventionalKey
    (hnodup : (properties.map fun p ↦ Text.lower p.name.toList).Nodup) :
    (properties.filter isConventionalKey).length ≤ 1 :=
  length_filter_le_one (List.Nodup.of_map _ hnodup)
    fun _ hp _ hq ↦ eq_of_isConventionalKey hnodup hp hq

end Conventional

/-! ## Declared and resolved roles -/

/-- A filter of resolved properties names what a filter of the declared ones does. -/
theorem map_name_filter {properties : List PropertyDescriptor}
    {resolved : PropertyDescriptor → ResolvedProperty} (hname : ∀ p, (resolved p).name = p.name)
    {declared : PropertyDescriptor → Bool} {role : ResolvedProperty → Bool}
    (h : ∀ p ∈ properties, role (resolved p) = declared p) :
    ((properties.map resolved).filter role).map (·.name) =
      (properties.filter declared).map (·.name) := by
  have hfilter : properties.filter (role ∘ resolved) = properties.filter declared :=
    List.filter_congr h
  rw [List.filter_map, List.map_map, hfilter]
  exact List.map_congr_left fun p _ ↦ hname p

/-- No resolved property has two of the three marks. -/
theorem exclusive_of_resolve (h : resolve d names case = .ok m) : ∀ p ∈ m.properties,
    (p.computed = true → p.key = false ∧ p.explicitKey = false) ∧
      (p.key = true → p.explicitKey = false) := by
  obtain ⟨hfault, columns, heq⟩ := resolve_eq_ok h
  have hnodup := (nodup_of_firstFault? hfault).1
  intro p hp
  rw [heq] at hp
  obtain ⟨declared, hdeclared, rfl⟩ := List.mem_map.1 hp
  have hexclusive := exclusive_of_firstFault? hfault declared hdeclared
  rw [key_resolveProperty hnodup columns hdeclared]
  unfold generates isConventionalKey resolveProperty
  split
  · exact hexclusive
  · constructor
    · intro hcomputed
      simp only at hcomputed
      simp [hcomputed, (hexclusive.1 hcomputed).2]
    · intro hkey
      simp only [Bool.and_eq_true, Bool.not_eq_true'] at hkey
      exact hkey.1.2

/-- The roles that a declaration gives the properties of its entity. -/
structure HasRoles (m : EntityMeta) (d : EntityDescriptor) : Prop where
  generated : m.generatedKeys.map (·.name) =
    (d.properties.filter (generates d.properties)).map (·.name)
  /-- An entity that declares no generated key has one at most. -/
  conventional : (∀ p ∈ d.properties, p.key = false) → m.generatedKeys.length ≤ 1
  explicit : m.explicitKeys.map (·.name) = (d.properties.filter (·.explicitKey)).map (·.name)
  computed : m.computed = (d.properties.filter (·.computed)).map (·.name)
  /-- Every property has a role, and is counted once. -/
  all : (m.generatedKeys ++ m.explicitKeys ++ m.computedProperties ++ m.updateProperties).Perm
    m.properties
  disjoint : [m.generatedKeys, m.explicitKeys, m.computedProperties, m.updateProperties].Pairwise
    List.Disjoint
  distinct : (m.properties.map (·.name)).Nodup

section Partition

variable {properties : List ResolvedProperty}

/-- Lists by three marks and by none of them make up the whole, if no two marks go together: each
mark is split off from what the marks before it leave. -/
theorem perm_of_exclusive (h : ∀ p ∈ properties,
    (p.computed = true → p.key = false ∧ p.explicitKey = false) ∧
      (p.key = true → p.explicitKey = false)) :
    (properties.filter (·.key) ++ properties.filter (·.explicitKey) ++
      properties.filter (·.computed) ++
      properties.filter fun p ↦ !p.computed && !p.isAnyKey).Perm properties := by
  have hexplicit : properties.filter (·.explicitKey) =
      (properties.filter fun p ↦ !p.key).filter (·.explicitKey) := by
    rw [List.filter_filter]
    refine List.filter_congr fun p hp ↦ ?_
    have hp := (h p hp).2
    cases hkey : p.key with
    | true => simp [hp hkey]
    | false => simp
  have hcomputed : properties.filter (·.computed) =
      ((properties.filter fun p ↦ !p.key).filter fun p ↦ !p.explicitKey).filter (·.computed) := by
    rw [List.filter_filter, List.filter_filter]
    refine List.filter_congr fun p hp ↦ ?_
    have hp := (h p hp).1
    cases hmark : p.computed with
    | true => simp [hp hmark]
    | false => simp
  have hplain : (properties.filter fun p ↦ !p.computed && !p.isAnyKey) =
      ((properties.filter fun p ↦ !p.key).filter fun p ↦ !p.explicitKey).filter
        fun p ↦ !p.computed := by
    rw [List.filter_filter, List.filter_filter]
    refine List.filter_congr fun p _ ↦ ?_
    simp only [ResolvedProperty.isAnyKey, Bool.not_or, Bool.and_assoc, Bool.and_comm]
  rw [hexplicit, hcomputed, hplain, List.append_assoc, List.append_assoc]
  refine (List.Perm.append_left _ ?_).trans (List.filter_append_perm ResolvedProperty.key _)
  refine (List.Perm.append_left _ ?_).trans
    (List.filter_append_perm ResolvedProperty.explicitKey _)
  exact List.filter_append_perm ResolvedProperty.computed _

theorem disjoint_filter {first second : ResolvedProperty → Bool}
    (h : ∀ p ∈ properties, first p = true → second p = false) :
    List.Disjoint (properties.filter first) (properties.filter second) := by
  intro p hfirst hsecond
  rw [List.mem_filter] at hfirst hsecond
  rw [h p hfirst.1 hfirst.2] at hsecond
  exact Bool.false_ne_true hsecond.2

end Partition

/-- The roles of a resolved entity are as its declaration has them. -/
theorem hasRoles (h : resolve d names case = .ok m) : m.HasRoles d := by
  have hexclusive := exclusive_of_resolve h
  have hdistinct := nodup_names_of_resolve h
  obtain ⟨hfault, columns, heq⟩ := resolve_eq_ok h
  have hnodup := (nodup_of_firstFault? hfault).1
  have hgenerated : m.generatedKeys.map (·.name) =
      (d.properties.filter (generates d.properties)).map (·.name) := by
    unfold generatedKeys
    rw [heq]
    exact map_name_filter (fun _ ↦ rfl) fun p hp ↦ key_resolveProperty hnodup columns hp
  refine ⟨hgenerated, ?_, ?_, ?_, perm_of_exclusive hexclusive, ?_, hdistinct⟩
  · intro hnone
    have hlength := congrArg List.length hgenerated
    rw [List.length_map, List.length_map] at hlength
    have hany : d.properties.any (·.key) = false := by simpa using hnone
    have hconventional : generates d.properties = isConventionalKey := by
      funext p
      rw [generates, hany, if_neg Bool.false_ne_true]
    rw [hlength, hconventional]
    exact length_filter_isConventionalKey hnodup
  · unfold explicitKeys
    rw [heq]
    exact map_name_filter (fun _ ↦ rfl) fun p _ ↦ rfl
  · unfold computed
    rw [heq]
    exact map_name_filter (fun _ ↦ rfl) fun p _ ↦ rfl
  · simp only [List.pairwise_cons, List.mem_cons, List.not_mem_nil, or_false, forall_eq_or_imp,
      forall_eq, false_imp_iff, implies_true, List.Pairwise.nil, and_true]
    refine ⟨⟨?_, ?_, ?_⟩, ⟨?_, ?_⟩, ?_⟩
    · exact disjoint_filter fun p hp hkey ↦ (hexclusive p hp).2 hkey
    · refine disjoint_filter fun p hp hkey ↦ ?_
      cases hcomputed : p.computed with
      | true => exact absurd hkey (by simp [((hexclusive p hp).1 hcomputed).1])
      | false => rfl
    · exact disjoint_filter fun p _ hkey ↦ by simp [ResolvedProperty.isAnyKey, hkey]
    · refine disjoint_filter fun p hp hkey ↦ ?_
      cases hcomputed : p.computed with
      | true => exact absurd hkey (by simp [((hexclusive p hp).1 hcomputed).2])
      | false => rfl
    · exact disjoint_filter fun p _ hkey ↦ by simp [ResolvedProperty.isAnyKey, hkey]
    · exact disjoint_filter fun p _ hcomputed ↦ by simp [hcomputed]

end EntityMeta

end EntitySql
