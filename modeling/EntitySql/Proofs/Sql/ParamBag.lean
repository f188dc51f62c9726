import EntitySql.Sql.ParamBag

/-!
# Bags without a name bound twice

A value bound under a name that is new stands behind all that was bound before. A bag in which no
name stands twice gives back every value under its name.
-/

namespace EntitySql.ParamBag

def Distinct (bag : ParamBag) : Prop := bag.names.Nodup

variable {bag : ParamBag} {entries : List (String × Value)} {name : String} {value : Value}

/-- A new name goes to the end. -/
theorem bindIn_of_not_mem (h : name ∉ entries.map (·.1)) :
    bindIn name value entries = entries ++ [(name, value)] := by
  induction entries with
  | nil => rfl
  | cons entry entries ih =>
    simp only [List.map_cons, List.mem_cons, not_or] at h
    rw [bindIn, if_neg (Ne.symm h.1), ih h.2]
    rfl

theorem insert_entries (value : Value) (h : name ∉ bag.names) :
    (bag.insert name value).entries = bag.entries ++ [(name, value)] :=
  bindIn_of_not_mem h

/-- Entries with names of their own, none of them in the bag, go to the end in their order. -/
theorem insertAll_entries (entries : List (String × Value))
    (h : (bag.names ++ entries.map (·.1)).Nodup) :
    (bag.insertAll entries).entries = bag.entries ++ entries := by
  induction entries generalizing bag with
  | nil => simp [insertAll]
  | cons entry entries ih =>
    have hnew : entry.1 ∉ bag.names := by
      intro hmem
      exact (List.nodup_append.1 h).2.2 _ hmem _ (by simp) rfl
    have hentries := insert_entries entry.2 hnew
    have hnames : (bag.insert entry.1 entry.2).names = bag.names ++ [entry.1] := by
      simp [names, hentries]
    have hrest := @ih (bag.insert entry.1 entry.2) (by simpa [hnames] using h)
    rw [hentries, List.append_assoc] at hrest
    exact hrest

theorem ofList_entries (h : (entries.map (·.1)).Nodup) : (ofList entries).entries = entries :=
  insertAll_entries entries (by simpa [empty, names] using h)

/-- Bags that share no name are joined by putting the second behind the first. -/
theorem extend_entries (bag other : ParamBag) (h : (bag.names ++ other.names).Nodup) :
    (bag.extend other).entries = bag.entries ++ other.entries :=
  insertAll_entries other.entries h

theorem lookup_of_mem (h : (entries.map (·.1)).Nodup) (hmem : (name, value) ∈ entries) :
    entries.lookup name = some value := by
  induction entries with
  | nil => simp at hmem
  | cons entry entries ih =>
    obtain ⟨other, old⟩ := entry
    rw [List.map_cons, List.nodup_cons] at h
    rcases List.mem_cons.1 hmem with heq | htail
    · cases heq
      simp
    · have hne : name ≠ other := by
        rintro rfl
        exact h.1 (List.mem_map.2 ⟨(name, value), htail, rfl⟩)
      rw [List.lookup_cons, beq_false_of_ne hne]
      exact ih h.2 htail

/-- A bag in which no name stands twice gives each of its names its value. -/
theorem get?_of_mem (h : bag.Distinct) (hmem : (name, value) ∈ bag.entries) :
    bag.get? name = some value :=
  lookup_of_mem h hmem

end EntitySql.ParamBag
