import EntitySql.Proofs.Entity.ReadBack
import EntitySql.Proofs.Text.LetterCase

/-!
# Assigning properties

A property is assigned by its name in any case of ASCII letters, and still no other field than its
own is touched: the fields of a resolved entity type are told apart in lower case. Several
assignments stop at the first that does not fit, and those before it stand.
-/

namespace EntitySql

/-- A field that is given a value holds it as one of its type, and else what it held before. -/
def Field.Takes (f : Field) (a a' : f.type.Carrier) : Option Value → Prop
  | some v => f.type.read v = .ok a'
  | none => a' = a

/-- Each field takes what is given to it by its name. -/
def FieldValues.Takes (given : String → Option Value) :
    (fs : List Field) → FieldValues fs → FieldValues fs → Prop
  | [], _, _ => True
  | f :: fs, (a, rest), (a', rest') => f.Takes a a' (given f.name) ∧ Takes given fs rest rest'

def EntityType.Takes (t : EntityType) (given : String → Option Value) (e e' : t.Entity) : Prop :=
  FieldValues.Takes given t.fields e e'

def FieldValues.ChangesOnly (names : List String) :
    (fs : List Field) → FieldValues fs → FieldValues fs → Prop
  | [], _, _ => True
  | f :: fs, (a, rest), (a', rest') =>
    (f.name ∉ names → a' = a) ∧ ChangesOnly names fs rest rest'

def EntityType.ChangesOnly (t : EntityType) (names : List String) (e e' : t.Entity) : Prop :=
  FieldValues.ChangesOnly names t.fields e e'

/-! ## What is given -/

/-- Of two values that are given one after the other, the later stands. -/
theorem Field.Takes.trans {f : Field} {a b c : f.type.Carrier} {v w : Option Value}
    (h : f.Takes a b v) (h' : f.Takes b c w) : f.Takes a c (w.or v) := by
  cases w with
  | some w => exact h'
  | none =>
    obtain rfl : c = b := h'
    exact h

namespace FieldValues

variable {given : String → Option Value} {fs : List Field} {a b c : FieldValues fs}

/-- Where nothing is given to any field, everything is as it was. -/
theorem takes_self (h : ∀ f ∈ fs, given f.name = none) : Takes given fs a a := by
  induction fs with
  | nil => trivial
  | cons f fs ih =>
    refine ⟨?_, ih fun f' hf' ↦ h f' (List.mem_cons_of_mem _ hf')⟩
    rw [h f List.mem_cons_self]
    exact rfl

theorem Takes.congr {given' : String → Option Value} (h : Takes given fs a b)
    (heq : ∀ f ∈ fs, given f.name = given' f.name) : Takes given' fs a b := by
  induction fs with
  | nil => trivial
  | cons f fs ih =>
    obtain ⟨hhead, htail⟩ := h
    rw [heq f List.mem_cons_self] at hhead
    exact ⟨hhead, ih htail fun f' hf' ↦ heq f' (List.mem_cons_of_mem _ hf')⟩

/-- What is given later takes the place of what was given before. -/
theorem Takes.trans {given' : String → Option Value} (h : Takes given fs a b)
    (h' : Takes given' fs b c) : Takes (fun name ↦ (given' name).or (given name)) fs a c := by
  induction fs with
  | nil => trivial
  | cons f fs ih => exact ⟨h.1.trans h'.1, ih h.2 h'.2⟩

/-- A name that differs from that of no field in case alone reaches the field of that name. -/
theorem takes_of_set? {name : String} {v : Value}
    (hdistinct : (fs.map fun f ↦ Text.lower f.name.toList).Nodup) (hname : name ∈ fs.map (·.name))
    (h : set? name v fs a = some (.ok b)) :
    Takes (fun field ↦ if field = name then some v else none) fs a b := by
  induction fs with
  | nil => cases hname
  | cons f fs ih =>
    obtain ⟨x, rest⟩ := a
    rw [List.map_cons, List.nodup_cons] at hdistinct
    rw [set?] at h
    split at h
    · next hsame =>
      have hlower := Text.lower_eq_of_sameIgnoringCase hsame
      have hother : ∀ f' ∈ fs, f'.name ≠ name := by
        rintro f' hf' rfl
        exact hdistinct.1 (List.mem_map.2 ⟨f', hf', hlower⟩)
      have hself : name = f.name := by
        rcases List.mem_cons.1 hname with heq | hmem
        · exact heq
        · obtain ⟨f', hf', heq⟩ := List.mem_map.1 hmem
          exact absurd heq (hother f' hf')
      obtain ⟨x', hx', rfl⟩ := map_eq_ok.1 (Option.some.inj h)
      refine ⟨?_, takes_self fun f' hf' ↦ if_neg (hother f' hf')⟩
      dsimp only
      rw [if_pos hself.symm]
      exact hx'
    · next hdiffers =>
      have hne : f.name ≠ name := by
        rintro rfl
        exact hdiffers (beq_self_eq_true _)
      obtain ⟨result, hresult, heq⟩ := Option.map_eq_some_iff.1 h
      obtain ⟨rest', rfl, rfl⟩ := map_eq_ok.1 heq
      refine ⟨?_, ih hdistinct.2 ?_ hresult⟩
      · dsimp only
        rw [if_neg hne]
        exact rfl
      · exact (List.mem_cons.1 hname).resolve_left hne.symm

/-! ## What is left as it was -/

variable {names names' : List String}

theorem changesOnly_self : ChangesOnly names fs a a := by
  induction fs with
  | nil => trivial
  | cons f fs ih => exact ⟨fun _ ↦ rfl, ih⟩

theorem ChangesOnly.trans (h : ChangesOnly names fs a b) (h' : ChangesOnly names fs b c) :
    ChangesOnly names fs a c := by
  induction fs with
  | nil => trivial
  | cons f fs ih => exact ⟨fun hname ↦ (h'.1 hname).trans (h.1 hname), ih h.2 h'.2⟩

theorem ChangesOnly.mono (h : ChangesOnly names fs a b) (hsubset : names ⊆ names') :
    ChangesOnly names' fs a b := by
  induction fs with
  | nil => trivial
  | cons f fs ih => exact ⟨fun hname ↦ h.1 fun hmem ↦ hname (hsubset hmem), ih h.2⟩

/-- Fields that nothing is given to are not changed. -/
theorem Takes.changesOnly (h : Takes given fs a b)
    (hnames : ∀ field, field ∉ names → given field = none) : ChangesOnly names fs a b := by
  induction fs with
  | nil => trivial
  | cons f fs ih =>
    refine ⟨fun hname ↦ ?_, ih h.2⟩
    have hhead := h.1
    rw [hnames f.name hname] at hhead
    exact hhead

end FieldValues

/-! ## Assignments to an entity -/

namespace EntityType

variable {t : EntityType}

theorem nodup_lower_fields {names : Option AliasMap} {case : NameCase} {m : EntityMeta}
    (hm : EntityMeta.resolve t.descriptor names case = .ok m) :
    (t.fields.map fun f ↦ Text.lower f.name.toList).Nodup := by
  have hnodup := (EntityMeta.nodup_of_firstFault? (EntityMeta.resolve_eq_ok hm).1).1
  rw [descriptor, List.map_map] at hnodup
  exact hnodup

/-- The properties of an entity have the names of the fields of its type, in their order. -/
theorem map_name_properties {names : Option AliasMap} {case : NameCase} {m : EntityMeta}
    (hm : EntityMeta.resolve t.descriptor names case = .ok m) :
    m.properties.map (·.name) = t.fields.map (·.name) := by
  obtain ⟨-, columns, heq⟩ := EntityMeta.resolve_eq_ok hm
  rw [heq, descriptor, List.map_map, List.map_map]
  rfl

/-- Assigns properties one after the other, up to the first that does not fit. -/
def assignAll (t : EntityType) : List (String × Value) → t.Entity → Except Error Unit × t.Entity
  | [], e => (.ok (), e)
  | (name, v) :: rest, e =>
    match t.setProperty e name v with
    | .error error => (.error error, e)
    | .ok e => assignAll t rest e

theorem takes_of_setProperty {e e' : t.Entity} {name : String} {v : Value}
    (hdistinct : (t.fields.map fun f ↦ Text.lower f.name.toList).Nodup)
    (hname : name ∈ t.fields.map (·.name)) (h : t.setProperty e name v = .ok e') :
    t.Takes (fun field ↦ if field = name then some v else none) e e' := by
  unfold setProperty at h
  split at h
  · next hset =>
    rw [h] at hset
    exact FieldValues.takes_of_set? hdistinct hname hset
  · cases h

/-- Assignments to different fields that all fit leave each field with its own value. -/
theorem takes_of_assignAll {pairs : List (String × Value)} {e e' : t.Entity}
    (hdistinct : (t.fields.map fun f ↦ Text.lower f.name.toList).Nodup)
    (hnames : pairs.map (·.1) ⊆ t.fields.map (·.name)) (hnodup : (pairs.map (·.1)).Nodup)
    (h : t.assignAll pairs e = (.ok (), e')) : t.Takes (Record.get? pairs) e e' := by
  induction pairs generalizing e with
  | nil =>
    cases h
    exact FieldValues.takes_self fun _ _ ↦ rfl
  | cons pair rest ih =>
    obtain ⟨name, v⟩ := pair
    rw [List.map_cons, List.nodup_cons] at hnodup
    rw [List.map_cons, List.cons_subset] at hnames
    unfold assignAll at h
    split at h
    · cases h
    · next e₁ hset =>
      have hfirst := takes_of_setProperty hdistinct hnames.1 hset
      have hrest : Record.get? rest name = none := by
        rw [Option.eq_none_iff_forall_ne_some]
        intro w hw
        exact hnodup.1 (List.mem_map.2 ⟨(name, w), Record.mem_of_get? hw, rfl⟩)
      refine (hfirst.trans (ih hnames.2 hnodup.2 h)).congr fun f _ ↦ ?_
      rw [Record.get?_cons]
      by_cases hname : f.name = name
      · rw [if_pos hname, hname, hrest, Option.none_or, if_pos rfl]
      · rw [if_neg hname, if_neg hname, Option.or_none]

/-- Assignments change no field that none of them names, whether or not they all fit. -/
theorem changesOnly_of_assignAll {pairs : List (String × Value)} {e : t.Entity}
    (hdistinct : (t.fields.map fun f ↦ Text.lower f.name.toList).Nodup)
    (hnames : pairs.map (·.1) ⊆ t.fields.map (·.name)) :
    t.ChangesOnly (pairs.map (·.1)) e (t.assignAll pairs e).2 := by
  induction pairs generalizing e with
  | nil => exact FieldValues.changesOnly_self
  | cons pair rest ih =>
    obtain ⟨name, v⟩ := pair
    rw [List.map_cons, List.cons_subset] at hnames
    unfold assignAll
    split
    · exact FieldValues.changesOnly_self
    · next e₁ hset =>
      have hfirst : t.ChangesOnly [name] e e₁ :=
        (takes_of_setProperty hdistinct hnames.1 hset).changesOnly fun field hfield ↦
          if_neg (List.ne_of_not_mem_cons hfield)
      have hrest : t.ChangesOnly (rest.map (·.1)) e₁ (t.assignAll rest e₁).2 := ih hnames.2
      exact (hfirst.mono (List.cons_subset.2 ⟨List.mem_cons_self, List.nil_subset _⟩)).trans
        (hrest.mono (List.subset_cons_self _ _))

/-- Assignments that fail stopped at one of them, with those before it made. -/
theorem exists_of_assignAll_error {pairs : List (String × Value)} {e e' : t.Entity} {error : Error}
    (h : t.assignAll pairs e = (.error error, e')) :
    ∃ before name v after, pairs = before ++ (name, v) :: after ∧
      t.assignAll before e = (.ok (), e') ∧ t.setProperty e' name v = .error error := by
  induction pairs generalizing e with
  | nil => cases h
  | cons pair rest ih =>
    obtain ⟨name, v⟩ := pair
    unfold assignAll at h
    split at h
    · next hset =>
      cases h
      exact ⟨[], name, v, rest, rfl, rfl, hset⟩
    · next e₁ hset =>
      obtain ⟨before, name', v', after, rfl, hbefore, hfault⟩ := ih h
      refine ⟨(name, v) :: before, name', v', after, rfl, ?_, hfault⟩
      unfold assignAll
      rw [hset]
      exact hbefore

end EntityType

end EntitySql
