import EntitySql.Proofs.Sql.ParamBag
import EntitySql.Proofs.Value.Equality
import EntitySql.Proofs.Value.Record
import Mathlib.Data.List.Perm.Subperm

/-!
# Bags of parameters as finite maps

However a bag comes about, it holds for each name the value that was bound last, and its names
stand in the order in which they were first bound. Two such bags are equal just where every name
has equal values in both, so that the order in which they were bound does not matter; a bag equals
itself unless a float that is not a number was bound.
-/

namespace EntitySql

/-! ## Names in the order of their first use -/

theorem eraseDups_concat (names : List String) (name : String) :
    (names ++ [name]).eraseDups =
      if name ∈ names then names.eraseDups else names.eraseDups ++ [name] := by
  rw [List.eraseDups_append]
  split
  · next h => simp [List.removeAll, h]
  · next h => simp [List.removeAll, h, List.eraseDups_cons]

theorem eraseDups_append_eq (names more : List String) :
    (names ++ more).eraseDups = names.eraseDups ++ more.eraseDups.filter (· ∉ names) := by
  induction more using List.reverseRecOn with
  | nil => simp
  | append_singleton more name ih =>
    rw [← List.append_assoc, eraseDups_concat, eraseDups_concat, ih]
    by_cases hmore : name ∈ more
    · simp [hmore]
    · by_cases hnames : name ∈ names <;> simp [hmore, hnames]

namespace ParamBag

section Bags

variable {bag a b c : ParamBag} {bound entries : List (String × Value)} {name : String}
  {value : Value}

/-! ## One binding -/

theorem map_fst_bindIn (name : String) (value : Value) (entries : List (String × Value)) :
    (bindIn name value entries).map (·.1) =
      if name ∈ entries.map (·.1) then entries.map (·.1) else entries.map (·.1) ++ [name] := by
  induction entries with
  | nil => simp [bindIn]
  | cons entry entries ih =>
    obtain ⟨other, old⟩ := entry
    unfold bindIn
    split
    · next h => simp [h]
    · next h =>
      rw [List.map_cons, ih]
      by_cases hmem : name ∈ entries.map (·.1)
      · simp [hmem]
      · simp [hmem, Ne.symm h]

theorem get?_bindIn (name : String) (value : Value) (entries : List (String × Value))
    (other : String) : Record.get? (bindIn name value entries) other =
      if other = name then some value else Record.get? entries other := by
  induction entries with
  | nil => exact Record.get?_cons name value [] other
  | cons entry entries ih =>
    obtain ⟨first, old⟩ := entry
    unfold bindIn
    split
    · next h =>
      subst h
      rw [Record.get?_cons, Record.get?_cons]
      split <;> rfl
    · next h =>
      rw [Record.get?_cons, Record.get?_cons, ih]
      split
      · next hfirst => rw [if_neg (hfirst ▸ h)]
      · rfl

/-- A name keeps its place when it is bound again. -/
theorem names_insert (bag : ParamBag) (name : String) (value : Value) :
    (bag.insert name value).names =
      if name ∈ bag.names then bag.names else bag.names ++ [name] :=
  map_fst_bindIn name value bag.entries

/-- Binding a name gives it its value and leaves the others theirs. -/
theorem get?_insert (bag : ParamBag) (name : String) (value : Value) (other : String) :
    (bag.insert name value).get? other = if other = name then some value else bag.get? other :=
  get?_bindIn name value bag.entries other

theorem Distinct.insert (h : bag.Distinct) (name : String) (value : Value) :
    (bag.insert name value).Distinct := by
  rw [Distinct, names_insert]
  split
  · exact h
  · next hnew =>
    rw [← List.concat_eq_append]
    exact h.concat hnew

/-! ## What a bag holds -/

/-- The bag holds what was bound, the earliest first: the last value of each name, and the names in
the order in which they came. -/
structure Holds (bag : ParamBag) (bound : List (String × Value)) : Prop where
  distinct : bag.Distinct
  names_eq : bag.names = (bound.map (·.1)).eraseDups
  get?_eq : ∀ name, bag.get? name = bound.reverse.lookup name

theorem holds_empty : empty.Holds [] where
  distinct := List.nodup_nil
  names_eq := rfl
  get?_eq _ := rfl

/-- A bag goes on holding what was bound, the last value of each name. -/
theorem Holds.insert (h : bag.Holds bound) (name : String) (value : Value) :
    (bag.insert name value).Holds (bound ++ [(name, value)]) where
  distinct := h.distinct.insert name value
  names_eq := by
    have hmem : name ∈ bag.names ↔ name ∈ bound.map (·.1) := by rw [h.names_eq, List.mem_eraseDups]
    rw [names_insert, List.map_append, List.map_singleton, eraseDups_concat, ← h.names_eq]
    simp only [hmem]
  get?_eq other := by
    rw [get?_insert, List.reverse_concat, h.get?_eq]
    exact (Record.get?_cons name value bound.reverse other).symm

theorem Holds.insertAll (h : bag.Holds bound) (entries : List (String × Value)) :
    (bag.insertAll entries).Holds (bound ++ entries) := by
  induction entries generalizing bag bound with
  | nil => simpa [insertAll] using h
  | cons entry entries ih => simpa [insertAll] using ih (h.insert entry.1 entry.2)

theorem holds_ofList (entries : List (String × Value)) : (ofList entries).Holds entries :=
  holds_empty.insertAll entries

/-- A bag in which no name stands twice may have been bound as it stands. -/
theorem Distinct.holds (h : bag.Distinct) : bag.Holds bag.entries := by
  have hbag : ofList bag.entries = bag := congrArg ParamBag.mk (ofList_entries h)
  simpa only [hbag] using holds_ofList bag.entries

/-- In a joined bag the second bag has the say. -/
theorem get?_extend (ha : a.Distinct) (hb : b.Distinct) (name : String) :
    (a.extend b).get? name = (b.get? name).or (a.get? name) := by
  rw [hb.holds.get?_eq, ha.holds.get?_eq, ← List.lookup_append, ← List.reverse_append]
  exact (ha.holds.insertAll b.entries).get?_eq name

/-- A joined bag has the names of the first in their order, and behind them those that are new. -/
theorem names_extend (ha : a.Distinct) (hb : b.Distinct) :
    (a.extend b).names = a.names ++ b.names.filter (· ∉ a.names) := by
  have hnames := (ha.holds.insertAll b.entries).names_eq
  rw [List.map_append, eraseDups_append_eq, ← hb.holds.names_eq, ← ha.holds.names_eq] at hnames
  exact hnames

theorem Holds.extend {more : List (String × Value)} (ha : a.Holds bound) (hb : b.Holds more) :
    (a.extend b).Holds (bound ++ more) where
  distinct := (ha.insertAll b.entries).distinct
  names_eq := by
    rw [names_extend ha.distinct hb.distinct, List.map_append, eraseDups_append_eq, ← hb.names_eq,
      ha.names_eq]
    simp only [List.mem_eraseDups]
  get?_eq name := by
    rw [get?_extend ha.distinct hb.distinct, hb.get?_eq, ha.get?_eq, ← List.lookup_append,
      ← List.reverse_append]

/-! ## Equality -/

/-- Both bags bind the same names, each to equal values. -/
structure Agrees (a b : ParamBag) : Prop where
  names : ∀ name, name ∈ a.names ↔ name ∈ b.names
  values : ∀ name v w, a.get? name = some v → b.get? name = some w → v.equals w = true

theorem mem_of_get? (h : bag.get? name = some value) : (name, value) ∈ bag.entries :=
  Record.mem_of_get? h

theorem mem_names_of_mem {entry : String × Value} (h : entry ∈ bag.entries) :
    entry.1 ∈ bag.names :=
  List.mem_map_of_mem h

theorem mem_names_iff : name ∈ bag.names ↔ ∃ v, bag.get? name = some v := by
  constructor
  · intro h
    obtain ⟨entry, hentry, rfl⟩ := List.mem_map.1 h
    rw [← Option.isSome_iff_exists, get?, List.lookup_isSome_iff]
    exact ⟨entry, hentry, beq_self_eq_true entry.1⟩
  · rintro ⟨v, hv⟩
    exact mem_names_of_mem (mem_of_get? hv)

theorem Agrees.trans (hab : a.Agrees b) (hbc : b.Agrees c) : a.Agrees c where
  names name := (hab.names name).trans (hbc.names name)
  values name v w hv hw := by
    obtain ⟨u, hu⟩ := mem_names_iff.1 ((hab.names name).1 (mem_names_iff.2 ⟨v, hv⟩))
    exact Value.equals_trans (hab.values name v u hv hu) (hbc.values name u w hu hw)

theorem Agrees.symm (h : a.Agrees b) : b.Agrees a where
  names name := (h.names name).symm
  values name v w hv hw := Value.equals_comm w v ▸ h.values name w v hw hv

/-- Equality asks for the number of names, and for an equal value under each name of the first
bag. -/
theorem equals_iff : a.equals b = true ↔ a.names.length = b.names.length ∧
    ∀ entry ∈ a.entries, ∃ w, b.get? entry.1 = some w ∧ w.equals entry.2 = true := by
  unfold equals
  rw [Bool.and_eq_true, beq_iff_eq, List.all_eq_true, names, names, List.length_map,
    List.length_map]
  refine and_congr_right' (forall₂_congr fun entry _ ↦ ?_)
  cases hget : b.get? entry.1 <;> simp [hget]

/-- It is enough to look at one of the bags: as many names without one twice, all of them in the
other bag, are all that it has. -/
theorem equals_iff_agrees (ha : a.Distinct) (hb : b.Distinct) :
    a.equals b = true ↔ a.Agrees b := by
  rw [equals_iff]
  constructor
  · rintro ⟨hlength, hvalues⟩
    have hsubset : a.names ⊆ b.names := by
      intro name hname
      obtain ⟨entry, hentry, rfl⟩ := List.mem_map.1 hname
      obtain ⟨w, hw, -⟩ := hvalues entry hentry
      exact mem_names_iff.2 ⟨w, hw⟩
    have hperm : a.names.Perm b.names :=
      (List.subperm_of_subset ha hsubset).perm_of_length_le (Nat.le_of_eq hlength.symm)
    refine ⟨fun name ↦ hperm.mem_iff, fun name v w hv hw ↦ ?_⟩
    obtain ⟨w', hw', hequal⟩ := hvalues _ (mem_of_get? hv)
    obtain rfl : w' = w := Option.some.inj (hw'.symm.trans hw)
    exact Value.equals_comm v w' ▸ hequal
  · intro h
    refine ⟨((List.perm_ext_iff_of_nodup ha hb).2 h.names).length_eq, fun entry hentry ↦ ?_⟩
    obtain ⟨w, hw⟩ := mem_names_iff.1 ((h.names entry.1).1 (mem_names_of_mem hentry))
    refine ⟨w, hw, ?_⟩
    exact Value.equals_comm entry.2 w ▸ h.values entry.1 entry.2 w (get?_of_mem ha hentry) hw

/-- A bag equals itself as long as it holds no NaN. -/
theorem equals_self_iff (h : bag.Distinct) :
    bag.equals bag = true ↔ ∀ entry ∈ bag.entries, entry.2.hasNaN = false := by
  rw [equals_iff, and_iff_right rfl]
  refine forall₂_congr fun entry hentry ↦ ?_
  simp [get?_of_mem h hentry, Value.equals_self]

end Bags

/-! ## Every bag -/

/-- A way in which a bag comes about: names are bound one by one, in place or in a chain, bags are
put together, and lists are collected. -/
inductive Building
  | empty
  | insert (b : Building) (name : String) (value : Value)
  | extend (b other : Building)
  | ofList (entries : List (String × Value))

namespace Building

def bag : Building → ParamBag
  | .empty => .empty
  | .insert b name value => b.bag.insert name value
  | .extend b other => b.bag.extend other.bag
  | .ofList entries => .ofList entries

def bound : Building → List (String × Value)
  | .empty => []
  | .insert b name value => b.bound ++ [(name, value)]
  | .extend b other => b.bound ++ other.bound
  | .ofList entries => entries

/-- A bag holds what was bound, however it was built. -/
theorem holds (b : Building) : b.bag.Holds b.bound := by
  induction b with
  | empty => exact holds_empty
  | insert b name value ih => exact ih.insert name value
  | extend b other ihb ihother => exact ihb.extend ihother
  | ofList entries => exact holds_ofList entries

end Building

/-- Bags are finite maps that keep the order in which their names came: they hold what was bound
last, the second of two bags put together has the last word, and equality is that of maps. -/
theorem bags_are_finite_maps :
    (∀ b : Building, b.bag.Holds b.bound) ∧
    (∀ a b : Building,
      (∀ name, (a.bag.extend b.bag).get? name = (b.bag.get? name).or (a.bag.get? name)) ∧
        (a.bag.extend b.bag).names = a.bag.names ++ b.bag.names.filter (· ∉ a.bag.names)) ∧
    (∀ a b : Building, a.bag.equals b.bag = b.bag.equals a.bag ∧
      (a.bag.equals b.bag = true ↔ a.bag.Agrees b.bag)) ∧
    (∀ a b c : Building, a.bag.equals b.bag = true → b.bag.equals c.bag = true →
      a.bag.equals c.bag = true) ∧
    ∀ a : Building,
      a.bag.equals a.bag = true ↔ ∀ entry ∈ a.bag.entries, entry.2.hasNaN = false := by
  have hequals (a b : Building) : a.bag.equals b.bag = true ↔ a.bag.Agrees b.bag :=
    equals_iff_agrees a.holds.distinct b.holds.distinct
  refine ⟨Building.holds, fun a b ↦ ?_, fun a b ↦ ⟨?_, hequals a b⟩, fun a b c hab hbc ↦ ?_,
    fun a ↦ equals_self_iff a.holds.distinct⟩
  · exact ⟨get?_extend a.holds.distinct b.holds.distinct,
      names_extend a.holds.distinct b.holds.distinct⟩
  · rw [Bool.eq_iff_iff, hequals, hequals]
    exact ⟨Agrees.symm, Agrees.symm⟩
  · rw [hequals] at *
    exact hab.trans hbc

example : ((ofList [("b", .int 1), ("a", .int 2)]).extend
    (ofList [("c", .int 3), ("b", .int 4)])).names = ["b", "a", "c"] := by decide

end ParamBag

end EntitySql
