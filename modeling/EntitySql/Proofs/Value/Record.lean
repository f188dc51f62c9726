import EntitySql.Schema.Meta
import Mathlib.Data.List.Induction
import Mathlib.Data.List.Nodup

/-!
# Look-ups in a record

A record made of a list of fields gives for each name the last value that the list has for it, and
holds nothing but what is in the list. So a look-up that ignores case finds the one value that
fits, if only one does. None of this asks whether the record is sorted.
-/

namespace EntitySql.Record

variable {fields : List (String × Value)} {name : String} {v : Value}

theorem get?_cons (other : String) (value : Value) (r : Record) (name : String) :
    get? ((other, value) :: r) name = if name = other then some value else get? r name := by
  unfold get?
  rw [List.lookup_cons]
  by_cases h : name = other
  · simp [h]
  · simp [h, beq_eq_false_iff_ne.2 h]

/-- A field that is set has its value, and the others keep theirs. -/
theorem get?_insert (other : String) (value : Value) (r : Record) (name : String) :
    get? (insert other value r) name = if name = other then some value else get? r name := by
  induction r with
  | nil => exact get?_cons other value [] name
  | cons field rest ih =>
    obtain ⟨first, old⟩ := field
    unfold insert
    split
    · next hsame =>
      subst hsame
      rw [get?_cons, get?_cons]
      split <;> rfl
    · next hne =>
      split
      · exact get?_cons other value _ name
      · rw [get?_cons, get?_cons, ih]
        split
        · next hfirst => rw [if_neg (hfirst ▸ Ne.symm hne)]
        · rfl

theorem mem_insert {field : String × Value} {r : Record} (h : field ∈ insert name v r) :
    field = (name, v) ∨ field ∈ r := by
  induction r with
  | nil => exact .inl (List.mem_singleton.1 h)
  | cons first rest ih =>
    unfold insert at h
    split at h
    · exact (List.mem_cons.1 h).imp_right (List.mem_cons_of_mem _)
    · split at h
      · exact List.mem_cons.1 h
      · rcases List.mem_cons.1 h with rfl | hrest
        · exact .inr List.mem_cons_self
        · exact (ih hrest).imp_right (List.mem_cons_of_mem _)

theorem mem_of_get? {r : Record} (h : get? r name = some v) : (name, v) ∈ r := by
  obtain ⟨before, after, rfl, -⟩ := List.lookup_eq_some_iff.1 h
  exact List.mem_append_right _ List.mem_cons_self

theorem ofList_concat (fields : List (String × Value)) (field : String × Value) :
    ofList (fields ++ [field]) = insert field.1 field.2 (ofList fields) := by
  simp [ofList]

/-- The last of several values of a name is the one that stays. -/
theorem get?_ofList (fields : List (String × Value)) (name : String) :
    get? (ofList fields) name = fields.reverse.lookup name := by
  induction fields using List.reverseRecOn with
  | nil => rfl
  | append_singleton fields field ih =>
    rw [ofList_concat, get?_insert, List.reverse_concat, ← get?, get?_cons, ih]
    rfl

theorem mem_of_mem_ofList {field : String × Value} (h : field ∈ ofList fields) :
    field ∈ fields := by
  induction fields using List.reverseRecOn with
  | nil => exact h
  | append_singleton fields last ih =>
    rw [ofList_concat] at h
    rcases mem_insert h with rfl | hinit
    · exact List.mem_append_right _ (List.mem_singleton_self _)
    · exact List.mem_append_left _ (ih hinit)

theorem get?_ofList_eq_none (h : name ∉ fields.map (·.1)) : get? (ofList fields) name = none := by
  rw [Option.eq_none_iff_forall_ne_some]
  intro v hv
  exact h (List.mem_map_of_mem (mem_of_mem_ofList (mem_of_get? hv)))

theorem exists_get?_ofList (h : (name, v) ∈ fields) :
    ∃ v', get? (ofList fields) name = some v' := by
  rw [get?_ofList, ← Option.isSome_iff_exists, List.lookup_isSome_iff]
  exact ⟨(name, v), List.mem_reverse.2 h, beq_self_eq_true name⟩

/-- Where no name stands twice, every field has its own value. -/
theorem get?_ofList_of_mem (hnodup : (fields.map (·.1)).Nodup) (h : (name, v) ∈ fields) :
    get? (ofList fields) name = some v := by
  obtain ⟨v', hv'⟩ := exists_get?_ofList h
  have hmem : (name, v') ∈ fields := mem_of_mem_ofList (mem_of_get? hv')
  have hsame : (name, v') = (name, v) := List.inj_on_of_nodup_map hnodup hmem h rfl
  rw [hv', (Prod.mk.inj hsame).2]

/-- Where all fields whose name fits hold one value, that is what is found, under whichever case
the name is written. -/
theorem find?_ofList {field : String × Value} (hmem : field ∈ fields)
    (hname : Text.sameIgnoringCase field.1 name = true)
    (hunique : ∀ other ∈ fields, Text.sameIgnoringCase other.1 name = true → other.2 = field.2) :
    find? (ofList fields) name = some field.2 := by
  unfold find?
  cases hexact : get? (ofList fields) name with
  | some v =>
    have hv : v = field.2 :=
      hunique _ (mem_of_mem_ofList (mem_of_get? hexact)) (by simp [Text.sameIgnoringCase])
    rw [hv, Option.some_or]
  | none =>
    rw [Option.none_or]
    cases hfound : List.find? (fun other ↦ Text.sameIgnoringCase other.1 name) (ofList fields) with
    | some other =>
      have hsame : Text.sameIgnoringCase other.1 name = true := by
        simpa using List.find?_some hfound
      have hmem' := mem_of_mem_ofList (List.mem_of_find?_eq_some hfound)
      rw [Option.map_some, hunique other hmem' hsame]
    | none =>
      have hpair : (field.1, field.2) ∈ fields := hmem
      obtain ⟨v, hv⟩ := exists_get?_ofList hpair
      exact absurd hname (List.find?_eq_none.1 hfound (field.1, v) (mem_of_get? hv))

end EntitySql.Record
