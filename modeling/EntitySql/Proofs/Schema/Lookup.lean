import EntitySql.Proofs.Schema.Resolve
import EntitySql.Proofs.Text.LetterCase

/-!
# Properties found by name

A name fits at most one property of a resolved entity, in whatever case its ASCII letters are
written. Resolution tells names apart by their full lower case, which does not see the case of
ASCII letters, so the exact match that a lookup tries first never goes before another one.
-/

namespace EntitySql.EntityMeta

open Text

variable {d : EntityDescriptor} {names : Option AliasMap} {case : NameCase} {m : EntityMeta}
  {name : String} {p q : ResolvedProperty}

/-- No two properties have names that differ only in the case of ASCII letters. -/
def Apart (m : EntityMeta) : Prop := (m.properties.map fun p ↦ foldAscii p.name.toList).Nodup

theorem apart_of_resolve (h : resolve d names case = .ok m) : m.Apart := by
  obtain ⟨hfault, columns, heq⟩ := resolve_eq_ok h
  have hnodup := (nodup_of_firstFault? hfault).1
  refine List.Nodup.of_map lower ?_
  rw [heq, List.map_map, List.map_map]
  simpa only [Function.comp_def, lower_foldAscii, resolveProperty] using hnodup

theorem Apart.eq_of_same (h : m.Apart) (hp : p ∈ m.properties) (hq : q ∈ m.properties)
    (hsame : sameIgnoringCase p.name q.name = true) : p = q :=
  List.inj_on_of_nodup_map h hp hq (beq_iff_eq.1 hsame)

theorem Apart.length_filter_le (h : m.Apart) (name : String) :
    (m.properties.filter fun p ↦ sameIgnoringCase p.name name).length ≤ 1 := by
  refine length_filter_le_one (List.Nodup.of_map _ h) fun p hp q hq hpName hqName ↦ ?_
  rw [sameIgnoringCase_comm] at hqName
  exact h.eq_of_same hp hq (sameIgnoringCase_trans hpName hqName)

/-- The exact match and the match that ignores case are the same property. -/
theorem Apart.property?_eq_some_iff (h : m.Apart) :
    m.property? name = some p ↔ p ∈ m.properties ∧ sameIgnoringCase p.name name = true := by
  have hfound : ∀ {q}, m.property? name = some q →
      q ∈ m.properties ∧ sameIgnoringCase q.name name = true := by
    intro q hq
    rcases Option.or_eq_some_iff.1 hq with hexact | ⟨-, hcase⟩
    · have hname : q.name = name := by simpa using List.find?_some hexact
      exact ⟨List.mem_of_find?_eq_some hexact, hname ▸ sameIgnoringCase_self q.name⟩
    · have hname : sameIgnoringCase q.name name = true := by simpa using List.find?_some hcase
      exact ⟨List.mem_of_find?_eq_some hcase, hname⟩
  refine ⟨hfound, ?_⟩
  rintro ⟨hp, hname⟩
  cases hq : m.property? name with
  | none =>
    have hnone := List.find?_eq_none.1 (Option.or_eq_none_iff.1 hq).2 p hp
    exact absurd hname hnone
  | some q =>
    obtain ⟨hmem, hfits⟩ := hfound hq
    rw [sameIgnoringCase_comm] at hfits
    rw [h.eq_of_same hp hmem (sameIgnoringCase_trans hname hfits)]

theorem Apart.property?_eq_none_iff (h : m.Apart) :
    m.property? name = none ↔ ∀ p ∈ m.properties, sameIgnoringCase p.name name = false := by
  simp only [Option.eq_none_iff_forall_ne_some, ne_eq, h.property?_eq_some_iff, not_and,
    Bool.not_eq_true]

theorem column_eq_ok_iff {column : String} :
    m.column name = .ok column ↔ ∃ p, m.property? name = some p ∧ p.column = column := by
  unfold EntityMeta.column
  cases m.property? name <;> simp

theorem column_eq_error_iff {error : Error} : m.column name = .error error ↔
    m.property? name = none ∧ error = .schema (.noProperty m.name name) := by
  unfold EntityMeta.column
  cases m.property? name <;> simp [eq_comm]

/-- A name finds the one property that it fits, or none. -/
structure FindsOne (m : EntityMeta) (name : String) : Prop where
  unique : (m.properties.filter fun p ↦ sameIgnoringCase p.name name).length ≤ 1
  property : ∀ p, m.property? name = some p ↔
    p ∈ m.properties ∧ sameIgnoringCase p.name name = true
  column : ∀ column, m.column name = .ok column ↔
    ∃ p ∈ m.properties, sameIgnoringCase p.name name = true ∧ p.column = column
  unknown : ∀ error, m.column name = .error error ↔
    (∀ p ∈ m.properties, sameIgnoringCase p.name name = false) ∧
      error = .schema (.noProperty m.name name)
  recased : ∀ other, sameIgnoringCase other name = true →
    m.property? other = m.property? name ∧
      ∀ column, m.column other = .ok column ↔ m.column name = .ok column

/-- The case of the letters of a name does not matter to what it finds. -/
theorem Apart.property?_eq_of_same (h : m.Apart) {other : String}
    (hsame : sameIgnoringCase other name = true) : m.property? other = m.property? name := by
  apply Option.ext
  intro p
  have hfits : sameIgnoringCase p.name other = sameIgnoringCase p.name name := by
    unfold sameIgnoringCase at hsame ⊢
    rw [beq_iff_eq.1 hsame]
  rw [h.property?_eq_some_iff, h.property?_eq_some_iff, hfits]

/-- A name fits one property of a resolved entity or none, and a lookup finds it. -/
theorem lookup_unambiguous (h : resolve d names case = .ok m) (name : String) :
    m.FindsOne name := by
  have hapart := apart_of_resolve h
  refine ⟨hapart.length_filter_le name, fun p ↦ hapart.property?_eq_some_iff, ?_, ?_, ?_⟩
  · intro column
    simp only [column_eq_ok_iff, hapart.property?_eq_some_iff, and_assoc]
  · intro error
    rw [column_eq_error_iff, hapart.property?_eq_none_iff]
  · intro other hsame
    have hproperty := hapart.property?_eq_of_same hsame
    refine ⟨hproperty, fun column ↦ ?_⟩
    rw [column_eq_ok_iff, column_eq_ok_iff, hproperty]

/-- Names that differ in a final sigma; a name in another case, and one with a Kelvin sign. -/
theorem lookup_unambiguous_sigma :
    let d : EntityDescriptor := ⟨"Place", none, [⟨"ΟΔΟΣ", some "STREET", true, false, false⟩,
      ⟨"οδοσ", none, false, false, false⟩, ⟨"Kind", none, false, false, false⟩]⟩
    ∃ m, resolve d none .upper = .ok m ∧ m.FindsOne "kIND" ∧ m.FindsOne "\u212aind" := by
  intro d
  have hresolved : (resolve d none .upper).toBool = true := by decide +kernel
  cases h : resolve d none .upper with
  | error e =>
    rw [h] at hresolved
    cases hresolved
  | ok m =>
    exact ⟨m, rfl, lookup_unambiguous h "kIND", lookup_unambiguous h "\u212aind"⟩

end EntitySql.EntityMeta
