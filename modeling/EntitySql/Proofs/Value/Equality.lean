import EntitySql.Proofs.Value.Order

/-!
# Equality of values

Equality of values is symmetric and transitive, through records to any depth. It is not the
equality of what is written: the two zeros are equal, and a float that is not a number differs from
itself. A value equals itself just where there is no such float in it.
-/

namespace EntitySql

section Floats

open Float.Model

theorem unpacked_compare_self {a : UnpackedFloat} (h : a ≠ .notANumber) :
    a.compare a = some .eq := by
  cases a with
  | notANumber => exact absurd rfl h
  | infinity s => cases s <;> rfl
  | zero s => rfl
  | finite s m e hm =>
    have hself : (compare e e).then (compare m m) = .eq := by
      rw [Std.compare_self, Std.compare_self]
      rfl
    cases s with
    | positive => exact congrArg some hself
    | negative => exact congrArg (fun o ↦ some o.swap) hself

theorem eq_of_unpacked_compare {a b : UnpackedFloat} (h : a.compare b = some .eq) :
    (a = b ∧ a ≠ .notANumber) ∨ ∃ s t, a = .zero s ∧ b = .zero t := by
  cases a with
  | notANumber => cases b <;> cases h
  | infinity s =>
    cases b with
    | infinity t => cases s <;> cases t <;> first | exact .inl ⟨rfl, nofun⟩ | cases h
    | _ => cases s <;> cases h
  | zero s =>
    cases b with
    | zero t => exact .inr ⟨s, t, rfl, rfl⟩
    | notANumber => cases h
    | _ t => cases t <;> cases h
  | finite s m e hm =>
    cases b with
    | finite t n f hn =>
      have hsame (hcompare : (compare e f).then (compare m n) = .eq) : e = f ∧ m = n := by
        obtain ⟨he, hm⟩ := Ordering.then_eq_eq.1 hcompare
        exact ⟨Int.compare_eq_eq.1 he, Nat.compare_eq_eq.1 hm⟩
      cases s with
      | positive =>
        cases t with
        | positive =>
          obtain ⟨rfl, rfl⟩ := hsame (Option.some.inj h)
          exact .inl ⟨rfl, nofun⟩
        | negative => cases h
      | negative =>
        cases t with
        | positive => cases h
        | negative =>
          obtain ⟨rfl, rfl⟩ := hsame (Ordering.swap_inj.1 (Option.some.inj h))
          exact .inl ⟨rfl, nofun⟩
    | infinity t => cases s <;> cases t <;> cases h
    | _ => cases s <;> cases h

/-- Equal floats are the same number, or both are zero. -/
theorem unpacked_compare_eq_iff (a b : UnpackedFloat) : a.compare b = some .eq ↔
    (a = b ∧ a ≠ .notANumber) ∨ ∃ s t, a = .zero s ∧ b = .zero t := by
  constructor
  · exact eq_of_unpacked_compare
  · rintro (⟨rfl, hnumber⟩ | ⟨s, t, rfl, rfl⟩)
    · exact unpacked_compare_self hnumber
    · rfl

theorem float_beq_comm (a b : Float) : (a == b) = (b == a) := by
  rw [Bool.eq_iff_iff, float_beq_iff, float_beq_iff, unpacked_compare_swap b.toModel.unpack]
  rcases b.toModel.unpack.compare a.toModel.unpack with _ | _ | _ | _ <;> simp

theorem float_beq_trans {a b c : Float} (hab : (a == b) = true) (hbc : (b == c) = true) :
    (a == c) = true := by
  rw [float_beq_iff, unpacked_compare_eq_iff] at *
  rcases hab with ⟨hsame, -⟩ | ⟨s, t, ha, hb⟩
  · rw [hsame]
    exact hbc
  · rcases hbc with ⟨hsame, -⟩ | ⟨t', u, -, hc⟩
    · exact .inr ⟨s, t, ha, hsame ▸ hb⟩
    · exact .inr ⟨s, u, ha, hc⟩

/-- Only NaN is not equal to itself. -/
theorem float_beq_self (a : Float) : (a == a) = !a.isNaN := by
  change (a == a) = !a.toModel.unpack.isNaN
  rw [Bool.eq_iff_iff, float_beq_iff, unpacked_compare_eq_iff]
  cases a.toModel.unpack with
  | notANumber =>
    refine iff_of_false ?_ nofun
    rintro (⟨-, h⟩ | ⟨_, _, ⟨⟩, -⟩)
    exact h rfl
  | _ => exact iff_of_true (.inl ⟨rfl, nofun⟩) rfl

end Floats

namespace Value

/-- Values that are equal and not the same are floats, or records of equal fields. -/
theorem equals_cases {a b : Value} (h : a.equals b = true) :
    a = b ∨ (∃ x y, a = .float x ∧ b = .float y ∧ (x == y) = true) ∨
      ∃ as bs, a = .record as ∧ b = .record bs ∧ equalFields as bs = true := by
  cases a <;> cases b <;> simp_all [equals]

mutual

/-- Equality of values goes either way. By structural induction, along with the fields of
records. -/
theorem equals_comm : ∀ a b : Value, a.equals b = b.equals a
  | .record as, b => by
    cases b with
    | record bs => simp only [equals, equalFields_comm as bs]
    | _ => rfl
  | .float x, b => by
    cases b with
    | float y => simp only [equals, float_beq_comm x y]
    | _ => rfl
  | .null, b => by cases b <;> rfl
  | .bool p, b => by cases b <;> simp [equals, BEq.comm]
  | .int m, b => by cases b <;> simp [equals, BEq.comm]
  | .string s, b => by cases b <;> simp [equals, BEq.comm]
  | .date d, b => by cases b <;> simp [equals, BEq.comm]
  | .dateTime t, b => by cases b <;> simp [equals, BEq.comm]

theorem equalFields_comm : ∀ as bs : List (String × Value), equalFields as bs = equalFields bs as
  | [], [] => rfl
  | [], _ :: _ => by simp [equalFields]
  | _ :: _, [] => by simp [equalFields]
  | (name, a) :: as, (name', b) :: bs => by
    simp only [equalFields, equals_comm a b, equalFields_comm as bs, BEq.comm (a := name)]

end

mutual

theorem equals_trans : ∀ {a b c : Value}, a.equals b = true → b.equals c = true →
    a.equals c = true
  | .record as, b, c, hab, hbc => by
    cases b with
    | record bs =>
      cases c with
      | record cs => exact equalFields_trans hab hbc
      | _ => cases hbc
    | _ => cases hab
  | .float x, b, c, hab, hbc => by
    cases b with
    | float y =>
      cases c with
      | float z => exact float_beq_trans hab hbc
      | _ => cases hbc
    | _ => cases hab
  | .null, b, c, hab, hbc
  | .bool _, b, c, hab, hbc
  | .int _, b, c, hab, hbc
  | .string _, b, c, hab, hbc
  | .date _, b, c, hab, hbc
  | .dateTime _, b, c, hab, hbc => by
    rcases equals_cases hab with rfl | ⟨x, y, h, -⟩ | ⟨as, bs, h, -⟩
    · exact hbc
    · cases h
    · cases h

theorem equalFields_trans : ∀ {as bs cs : List (String × Value)}, equalFields as bs = true →
    equalFields bs cs = true → equalFields as cs = true
  | [], bs, cs, hab, hbc => by
    cases bs with
    | nil => exact hbc
    | cons field bs => cases hab
  | (name, a) :: as, (name', b) :: bs, (name'', c) :: cs, hab, hbc => by
    simp only [equalFields, Bool.and_eq_true, beq_iff_eq] at hab hbc ⊢
    exact ⟨⟨hab.1.1.trans hbc.1.1, equals_trans hab.1.2 hbc.1.2⟩,
      equalFields_trans hab.2 hbc.2⟩

end

mutual

/-- Whether a value is a float that is not a number, or a record with such a float in it. -/
def hasNaN : Value → Bool
  | .float x => x.isNaN
  | .record fields => fieldsHaveNaN fields
  | _ => false

def fieldsHaveNaN : List (String × Value) → Bool
  | [] => false
  | (_, v) :: fields => v.hasNaN || fieldsHaveNaN fields

end

mutual

/-- A value equals itself unless NaN is somewhere in it. -/
theorem equals_self : ∀ v : Value, v.equals v = !v.hasNaN
  | .float x => by simp only [equals, hasNaN, float_beq_self x]
  | .record fields => by simp only [equals, hasNaN, equalFields_self fields]
  | .null | .bool _ | .int _ | .string _ | .date _ | .dateTime _ => by simp [equals, hasNaN]

theorem equalFields_self : ∀ fields : List (String × Value),
    equalFields fields fields = !fieldsHaveNaN fields
  | [] => rfl
  | (name, v) :: fields => by
    simp only [equalFields, fieldsHaveNaN, equals_self v, equalFields_self fields, beq_self_eq_true,
      Bool.true_and, Bool.not_or]

end

end Value

end EntitySql
