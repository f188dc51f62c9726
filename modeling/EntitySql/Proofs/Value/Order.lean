import EntitySql.Value

/-!
# The order of values

Comparing two values the other way round gives the opposite order, also where a value is a float
that is not a number and so has no order at all. Equality of values is therefore symmetric, which
is what lets an SQL comparison name its column first whichever side the column stood on.
-/

namespace EntitySql

section Floats

open Float.Model

/-- Floats taken apart compare the other way round when they are swapped. -/
theorem unpacked_compare_swap (a b : UnpackedFloat) :
    b.compare a = (a.compare b).map Ordering.swap := by
  cases a with
  | notANumber => cases b <;> rfl
  | infinity s =>
    cases b with
    | infinity t => cases s <;> cases t <;> rfl
    | notANumber => cases s <;> rfl
    | zero t => cases s <;> rfl
    | finite t m e h => cases s <;> rfl
  | zero s =>
    cases b with
    | infinity t => cases t <;> rfl
    | notANumber => rfl
    | zero t => rfl
    | finite t m e h => cases t <;> rfl
  | finite s m e h =>
    cases b with
    | infinity t => cases s <;> cases t <;> rfl
    | notANumber => cases s <;> rfl
    | zero t => cases s <;> rfl
    | finite t n f h' =>
      have hswap : (compare f e).then (compare n m) =
          ((compare e f).then (compare m n)).swap := by
        rw [Ordering.swap_then, ← Std.OrientedCmp.eq_swap, ← Std.OrientedCmp.eq_swap]
      cases s with
      | positive =>
        cases t with
        | positive => exact congrArg some hswap
        | negative => rfl
      | negative =>
        cases t with
        | positive => rfl
        | negative => exact congrArg (fun o ↦ some o.swap) hswap

theorem float_lt_iff (a b : Float) :
    a < b ↔ a.toModel.unpack.compare b.toModel.unpack = some .lt := by
  change Float.lt a b = true ↔ _
  rw [Float.lt, decide_eq_true_iff]
  change (a.toModel.unpack.compare b.toModel.unpack == some .lt) = true ↔ _
  exact beq_iff_eq

theorem float_beq_iff (a b : Float) :
    (a == b) = true ↔ a.toModel.unpack.compare b.toModel.unpack = some .eq := by
  change (a.toModel.unpack.compare b.toModel.unpack == some .eq) = true ↔ _
  exact beq_iff_eq

end Floats

namespace Value

/-- Comparing floats by less and equal is comparing what they are taken apart to. -/
theorem compareFloats_eq (a b : Float) :
    compareFloats a b = a.toModel.unpack.compare b.toModel.unpack := by
  have hswap := unpacked_compare_swap a.toModel.unpack b.toModel.unpack
  unfold compareFloats
  simp only [float_lt_iff, float_beq_iff, hswap]
  rcases a.toModel.unpack.compare b.toModel.unpack with _ | _ | _ | _ <;> rfl

/-- Swapping two floats turns their order round, where they have one. -/
theorem compareFloats_swap (a b : Float) :
    compareFloats b a = (compareFloats a b).map Ordering.swap := by
  rw [compareFloats_eq, compareFloats_eq, unpacked_compare_swap]

theorem date_compare_swap (a b : Date) : b.compare a = (a.compare b).swap := by
  simp [Date.compare, Ordering.swap_then, ← Std.OrientedCmp.eq_swap]

theorem time_compare_swap (a b : Time) : b.compare a = (a.compare b).swap := by
  simp [Time.compare, Ordering.swap_then, ← Std.OrientedCmp.eq_swap]

theorem dateTime_compare_swap (a b : DateTime) : b.compare a = (a.compare b).swap := by
  simp [DateTime.compare, Ordering.swap_then, date_compare_swap a.date, time_compare_swap a.time]

/-- Of two values, either neither order is known or each is the opposite of the other. -/
theorem compare_swap (a b : Value) : b.compare a = (a.compare b).map Ordering.swap := by
  cases a with
  | int m =>
    cases b with
    | int n => exact congrArg some Std.OrientedCmp.eq_swap
    | float y => exact compareFloats_swap _ _
    | _ => rfl
  | float x =>
    cases b with
    | int n => exact compareFloats_swap _ _
    | float y => exact compareFloats_swap _ _
    | _ => rfl
  | string s =>
    cases b with
    | string t => exact congrArg some Std.OrientedCmp.eq_swap
    | _ => rfl
  | bool p =>
    cases b with
    | bool q => exact congrArg some Std.OrientedCmp.eq_swap
    | _ => rfl
  | date d =>
    cases b with
    | date e => exact congrArg some (date_compare_swap d e)
    | _ => rfl
  | dateTime s =>
    cases b with
    | dateTime t => exact congrArg some (dateTime_compare_swap s t)
    | _ => rfl
  | null => cases b <;> rfl
  | record fields => cases b <;> rfl

end Value

end EntitySql
