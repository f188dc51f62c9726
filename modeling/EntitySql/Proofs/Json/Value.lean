import EntitySql.Json.Value
import EntitySql.Proofs.Json.Text
import EntitySql.Proofs.Value.Record

/-!
# Values read back from their JSON

A value whose kinds all have a form of their own in JSON is what its JSON is read as: the integers
of 64 bits are literals, every string stays a string, and a record that is sorted by name is made
again from its fields. Floats are not covered, since reading may miss the nearest double, nor are
dates and times, which are written as strings and read as such.
-/

namespace EntitySql

/-! ## Nesting -/

namespace Json

mutual

def nesting : Json → Nat
  | .array items => nestingOfItems items + 1
  | .object fields => nestingOfFields fields + 1
  | _ => 0

def nestingOfItems : List Json → Nat
  | [] => 0
  | j :: js => max (nesting j) (nestingOfItems js)

def nestingOfFields : List (String × Json) → Nat
  | [] => 0
  | (_, j) :: fields => max (nesting j) (nestingOfFields fields)

end

/-- A tree tells a thing: that is what it is read as, wherever there is room for its nesting. -/
structure Tells {α : Type} (ofJson? : Nat → Json → Option α) (j : Json) (a : α) : Prop where
  regular : j.Regular
  read : ∀ depth, j.nesting ≤ depth → ofJson? depth j = some a

/-- Its compact text is read as the same thing, below the depth at which readers give up. -/
theorem Tells.read_text {α : Type} {ofJson? : Nat → Json → Option α} {j : Json} {a : α}
    (h : Tells ofJson? j a) (hdepth : j.nesting < 128) :
    (read? j.compact).bind (ofJson? depthLimit) = some a := by
  rw [h.regular.read?_compact]
  exact h.read depthLimit (Nat.le_of_lt_succ hdepth)

/-! ## Integers -/

theorem partsOf_toString (n : Int) :
    partsOf (toString n).toList = ⟨n < 0, Nat.toDigits 10 n.natAbs, [], false, none⟩ := by
  have hsign := numberSign_toString n []
  have hdigits := takeDigits_run (fun c ↦ Number.isDigit_of_mem_toDigits (n := n.natAbs))
    (Text.stops_nil _)
  have hnegative : (!(if n < 0 then ['-'] else []).isEmpty) = decide (n < 0) := by
    split <;> simp [*]
  rw [List.append_nil] at hsign
  unfold partsOf
  rw [hsign]
  dsimp only
  rw [hdigits, hnegative]

theorem amount?_toString {n : Int} (hlow : -2 ^ 63 ≤ n) (hhigh : n < 2 ^ 64) :
    amount? (toString n).toList = some (.integer n) := by
  have hsize : UInt64.size = 2 ^ 64 := rfl
  simp only [amount?, partsOf_toString, Number.ofDigits_toDigits, Option.isSome_none,
    Bool.or_false, Bool.false_eq_true, if_false, decide_eq_true_eq, Nat.pow_eq]
  rcases lt_or_ge n 0 with hneg | hpos
  · rw [if_pos hneg, if_neg (by omega), if_pos (by omega), Int.natCast_natAbs, abs_of_neg hneg,
      neg_neg]
  · rw [if_neg (not_lt.2 hpos), if_pos (by omega), Int.natCast_natAbs, abs_of_nonneg hpos]

end Json

/-! ## Sorted records -/

namespace Record

variable {r fields : Record} {name : String} {v : Value}

def IsSorted (r : Record) : Prop := r.Pairwise (·.1 < ·.1)

theorem IsSorted.insert (h : IsSorted r) (name : String) (v : Value) :
    IsSorted (insert name v r) := by
  induction r with
  | nil => exact List.pairwise_singleton _ _
  | cons field r ih =>
    obtain ⟨hfirst, hrest⟩ := List.pairwise_cons.1 h
    unfold Record.insert
    split
    · next hsame => exact List.pairwise_cons.2 ⟨hsame ▸ hfirst, hrest⟩
    · next hne =>
      split
      · next hless =>
        refine List.pairwise_cons.2 ⟨List.forall_mem_cons.2 ⟨hless, ?_⟩, h⟩
        exact fun other hother ↦ hless.trans (hfirst other hother)
      · next hnot =>
        refine List.pairwise_cons.2 ⟨fun other hother ↦ ?_, ih hrest⟩
        rcases mem_insert hother with rfl | hmem
        · exact lt_of_le_of_ne (not_lt.1 hnot) (Ne.symm hne)
        · exact hfirst other hmem

/-- A record is sorted by name, whatever it is made from. -/
theorem isSorted_ofList (fields : List (String × Value)) : IsSorted (ofList fields) := by
  induction fields using List.reverseRecOn with
  | nil => exact .nil
  | append_singleton fields field ih =>
    rw [ofList_concat]
    exact ih.insert _ _

theorem insert_of_lt (h : ∀ field ∈ r, field.1 < name) (v : Value) :
    insert name v r = r ++ [(name, v)] := by
  induction r with
  | nil => rfl
  | cons field r ih =>
    obtain ⟨hfirst, hrest⟩ := List.forall_mem_cons.1 h
    rw [Record.insert, if_neg hfirst.ne', if_neg hfirst.asymm, ih hrest]
    rfl

/-- Making a record of fields changes nothing just where they are sorted. -/
theorem ofList_eq_self_iff : ofList fields = fields ↔ IsSorted fields := by
  constructor
  · intro h
    rw [← h]
    exact isSorted_ofList fields
  · intro h
    induction fields using List.reverseRecOn with
    | nil => rfl
    | append_singleton fields field ih =>
      obtain ⟨hfields, -, hlast⟩ := List.pairwise_append.1 h
      rw [ofList_concat, ih hfields]
      exact insert_of_lt (fun other hother ↦ hlast other hother field (List.mem_singleton_self _)) _

end Record

/-! ## Values -/

namespace Value

variable {P : Value → Prop} {v : Value}

/-- A property of a value and of every value inside it. -/
inductive Throughout (P : Value → Prop) : Value → Prop
  | scalar {v : Value} (h : P v) (hkind : v.kind ≠ .record) : Throughout P v
  | record {fields : List (String × Value)} (h : P (.record fields))
      (hfields : ∀ field ∈ fields, Throughout P field.2) : Throughout P (.record fields)

/-- The kinds that JSON has a form of its own for. -/
def IsNative (v : Value) : Prop := v.kind ≠ .float ∧ v.kind ≠ .date ∧ v.kind ≠ .dateTime

/-- A record is kept sorted by name. -/
def IsSorted : Value → Prop
  | .record fields => Record.IsSorted fields
  | _ => True

theorem fieldsToJson_eq (fields : List (String × Value)) :
    fieldsToJson fields = fields.map fun (name, v) ↦ (name, v.toJson) := by
  induction fields with
  | nil => rfl
  | cons field fields ih => rw [fieldsToJson, ih, List.map_cons]

theorem fieldsOfJson?_eq {fields : List (String × Value)} {depth : Nat}
    (h : ∀ field ∈ fields, Json.Tells ofJson? field.2.toJson field.2)
    (hdepth : Json.nestingOfFields (fieldsToJson fields) ≤ depth) :
    fieldsOfJson? depth (fieldsToJson fields) = some fields := by
  induction fields with
  | nil => rw [fieldsToJson, fieldsOfJson?]
  | cons field fields ih =>
    obtain ⟨name, v⟩ := field
    obtain ⟨hv, hfields⟩ := List.forall_mem_cons.1 h
    rw [fieldsToJson, Json.nestingOfFields, max_le_iff] at hdepth
    rw [fieldsToJson, fieldsOfJson?, hv.read depth hdepth.1, ih hfields hdepth.2]

theorem tells_int (n : Int64) : Json.Tells ofJson? (.ofInt n.toInt) (.int n) := by
  refine ⟨.int n.toInt, fun depth _ ↦ ?_⟩
  have hlow := Int64.le_toInt n
  have hhigh := Int64.toInt_lt n
  rw [Json.ofInt, ofJson?, Json.amount?_toString (by omega) (by omega), Option.map_some, ofAmount,
    Number.int64?_eq_some.2 rfl]

/-- An object of sorted fields is read as their record. -/
theorem tells_record {fields : List (String × Value)} (hsorted : Record.IsSorted fields)
    (h : ∀ field ∈ fields, Json.Tells ofJson? field.2.toJson field.2) :
    Json.Tells ofJson? (.object (fieldsToJson fields)) (.record fields) := by
  constructor
  · rw [fieldsToJson_eq]
    exact .object (List.forall_mem_map.2 fun field hfield ↦ (h field hfield).regular)
  · rintro (_ | depth) hdepth
    · rw [Json.nesting] at hdepth
      omega
    · rw [Json.nesting] at hdepth
      rw [ofJson?, fieldsOfJson?_eq h (Nat.le_of_succ_le_succ hdepth), Option.map_some,
        Record.ofList_eq_self_iff.2 hsorted]

/-- The JSON of a value of native kinds tells the value. -/
theorem tells_toJson (h : v.Throughout fun v ↦ v.IsNative ∧ v.IsSorted) :
    Json.Tells ofJson? v.toJson v := by
  induction h with
  | @scalar v h hkind =>
    cases v with
    | null => exact ⟨.null, fun depth _ ↦ by rw [toJson, ofJson?]⟩
    | bool b => exact ⟨.bool b, fun depth _ ↦ by rw [toJson, ofJson?]⟩
    | int n => exact tells_int n
    | string s => exact ⟨.string s, fun depth _ ↦ by rw [toJson, ofJson?]⟩
    | float x => exact absurd rfl h.1.1
    | date d => exact absurd rfl h.1.2.1
    | dateTime t => exact absurd rfl h.1.2.2
    | record fields => exact absurd rfl hkind
  | @record fields h hfields ih =>
    rw [toJson]
    exact tells_record h.2 ih

end Value

end EntitySql
