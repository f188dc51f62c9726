import EntitySql.Proofs.Number.Double
import EntitySql.Proofs.Value.Order

/-!
# The exact value of a double

A finite double is a rational number, and finite doubles compare as these rationals do: of two
doubles in their own form the one with the greater exponent is the greater. Where the rational is
whole, it is the integer that the bits of the double give.
-/

open Float.Model Float.Model.UnpackedFloat

namespace EntitySql.Number

variable {m n : Nat} {e f : Int} {negative : Bool} {x y : Float} {p q : ℚ}

def withSign (negative : Bool) (q : ℚ) : ℚ := if negative then -q else q

@[simp] theorem withSign_zero (negative : Bool) : withSign negative 0 = 0 := by
  cases negative <;> simp [withSign]

/-- The rational number that a finite double is. -/
def Binary64.value? : Binary64 → Option ℚ
  | .finite negative m e => some (withSign negative (m * 2 ^ e))
  | _ => none

/-! ## Whole numbers -/

theorem Binary64.toInt?_finite (negative : Bool) (m : Nat) (e : Int) (i : Int) :
    (Binary64.finite negative m e).toInt? = some i ↔ withSign negative (m * 2 ^ e) = i := by
  have hsigned : ∀ k : Nat, (if negative then (-1 : Int) else 1) * (k : Nat) = i ↔
      withSign negative k = i := by
    intro k
    unfold withSign
    cases negative <;> norm_num <;> norm_cast
  unfold toInt?
  dsimp only
  rcases le_or_gt 0 e with he | he
  · obtain ⟨k, rfl⟩ := Int.eq_ofNat_of_zero_le he
    rw [if_pos he, Option.some_inj, hsigned]
    simp
  · obtain ⟨k, hk⟩ := Int.eq_ofNat_of_zero_le (a := -e) (by omega)
    obtain rfl : e = -k := by omega
    have hpow : (0 : ℚ) < 2 ^ k := by positivity
    have hvalue : (m : ℚ) * 2 ^ (-(k : Int)) = m / 2 ^ k := by
      rw [zpow_neg, zpow_natCast, div_eq_mul_inv]
    rw [if_neg (by omega), neg_neg, Int.toNat_natCast, hvalue]
    simp only [Nat.pow_eq]
    split
    · next hmod =>
      obtain ⟨l, rfl⟩ := Nat.dvd_of_mod_eq_zero hmod
      rw [Option.some_inj, hsigned, Nat.mul_div_cancel_left _ (by positivity)]
      push_cast
      rw [mul_div_cancel_left₀ _ hpow.ne']
    · next hmod =>
      refine iff_of_false nofun fun heq ↦ hmod ?_
      have hnat : m = i.natAbs * 2 ^ k := by
        have habs : (m : ℚ) / 2 ^ k = i.natAbs := by
          unfold withSign at heq
          have hnonneg : (0 : ℚ) ≤ m / 2 ^ k := by positivity
          rw [Nat.cast_natAbs, Int.cast_abs, ← heq]
          split
          · rw [abs_neg, abs_of_nonneg hnonneg]
          · rw [abs_of_nonneg hnonneg]
        rw [div_eq_iff hpow.ne'] at habs
        exact_mod_cast habs
      rw [hnat, Nat.mul_mod_left]

/-- A double is an integer exactly where its value is one. -/
theorem Binary64.toInt?_eq_some_iff (b : Binary64) (i : Int) :
    b.toInt? = some i ↔ b.value? = some (i : ℚ) := by
  cases b with
  | finite negative m e => rw [toInt?_finite, value?, Option.some_inj]
  | nan => exact iff_of_false nofun nofun
  | infinite negative => exact iff_of_false nofun nofun

/-! ## The order of doubles -/

def value? (x : Float) : Option ℚ := (Binary64.ofFloat x).value?

theorem value?_eq_some_iff : value? x = some q ↔
    ∃ negative m e, Binary64.ofFloat x = .finite negative m e ∧
      withSign negative (m * 2 ^ e) = q := by
  unfold value?
  cases Binary64.ofFloat x with
  | finite negative m e => simp [Binary64.value?, and_assoc]
  | nan => exact iff_of_false nofun nofun
  | infinite negative => exact iff_of_false nofun nofun

/-- What a finite double unpacks to: a zero, or a number in its own form with its sign. -/
inductive Unpacks : UnpackedFloat → ℚ → Prop
  | zero (sign : Sign) : Unpacks (.zero sign) 0
  | positive {m : Nat} {e : Int} (hc : Canonical m e) :
      Unpacks (.finite .positive m e hc.pos) (m * 2 ^ e)
  | negative {m : Nat} {e : Int} (hc : Canonical m e) :
      Unpacks (.finite .negative m e hc.pos) (-(m * 2 ^ e))

theorem unpacks_of_value? (h : value? x = some q) : Unpacks x.toModel.unpack q := by
  obtain ⟨negative, m, e, hx, rfl⟩ := value?_eq_some_iff.1 h
  rcases Nat.eq_zero_or_pos m with rfl | hm
  · rw [(unpack_of_ofFloat_zero hx).2]
    simpa using Unpacks.zero (signOf negative)
  · obtain ⟨hc, hunpack⟩ := unpack_of_ofFloat hm hx
    rw [hunpack]
    cases negative with
    | false => exact .positive hc
    | true => exact .negative hc

theorem Canonical.value_pos (hc : Canonical m e) : (0 : ℚ) < m * 2 ^ e := by
  have hm : (0 : ℚ) < m := by exact_mod_cast hc.pos
  positivity

/-- Of two canonical doubles, the one with the lower exponent is less. -/
theorem Canonical.lt_of_exponent_lt (hc : Canonical m e) (hd : Canonical n f) (h : e < f) :
    (m : ℚ) * 2 ^ e < n * 2 ^ f := by
  have hn : 2 ^ 52 ≤ n := hd.normal.resolve_left (by have := hc.low; omega)
  calc
    (m : ℚ) * 2 ^ e < 2 ^ 53 * 2 ^ e := by
      have hm : (m : ℚ) < 2 ^ 53 := by exact_mod_cast hc.lt
      gcongr
    _ = 2 ^ 52 * 2 ^ (e + 1) := by
      rw [zpow_add₀ (by norm_num)]
      ring
    _ ≤ n * 2 ^ f := by
      have hn' : (2 : ℚ) ^ 52 ≤ n := by exact_mod_cast hn
      gcongr
      · norm_num
      · omega

/-- Of two numbers in their own form the exponents decide, and then the significands. -/
theorem Canonical.compare_eq (hc : Canonical m e) (hd : Canonical n f) :
    (compare e f).then (compare m n) = compare ((m : ℚ) * 2 ^ e) (n * 2 ^ f) := by
  rcases lt_trichotomy e f with hlt | rfl | hgt
  · rw [compare_lt_iff_lt.2 hlt, compare_lt_iff_lt.2 (hc.lt_of_exponent_lt hd hlt)]
    rfl
  · have hunit : (0 : ℚ) < 2 ^ e := by positivity
    rw [compare_eq_iff_eq.2 rfl]
    rcases lt_trichotomy m n with hlt | rfl | hgt
    · rw [compare_lt_iff_lt.2 hlt, compare_lt_iff_lt.2]
      · rfl
      · gcongr
    · rw [compare_eq_iff_eq.2 rfl, compare_eq_iff_eq.2 rfl]
      rfl
    · rw [compare_gt_iff_gt.2 hgt, compare_gt_iff_gt.2]
      · rfl
      · gcongr
  · rw [compare_gt_iff_gt.2 hgt, compare_gt_iff_gt.2 (hd.lt_of_exponent_lt hc hgt)]
    rfl

theorem swap_compare (p q : ℚ) : (compare p q).swap = compare (-p) (-q) := by
  rcases lt_trichotomy p q with hlt | rfl | hgt
  · rw [compare_lt_iff_lt.2 hlt, compare_gt_iff_gt.2 (neg_lt_neg hlt)]
    rfl
  · rw [compare_eq_iff_eq.2 rfl, compare_eq_iff_eq.2 rfl]
    rfl
  · rw [compare_gt_iff_gt.2 hgt, compare_lt_iff_lt.2 (neg_lt_neg hgt)]
    rfl

/-- Doubles compare as their exact values do. -/
theorem Unpacks.compare_eq {a b : UnpackedFloat} (ha : Unpacks a p) (hb : Unpacks b q) :
    a.compare b = some (compare p q) := by
  cases ha with
  | zero s =>
    cases hb with
    | zero t => exact congrArg some (compare_eq_iff_eq.2 rfl).symm
    | positive hd => exact congrArg some (compare_lt_iff_lt.2 hd.value_pos).symm
    | negative hd =>
      exact congrArg some (compare_gt_iff_gt.2 (neg_lt_zero.2 hd.value_pos)).symm
  | positive hc =>
    cases hb with
    | zero t => exact congrArg some (compare_gt_iff_gt.2 hc.value_pos).symm
    | positive hd => exact congrArg some (hc.compare_eq hd)
    | negative hd =>
      have hlt := (neg_lt_zero.2 hd.value_pos).trans hc.value_pos
      exact congrArg some (compare_gt_iff_gt.2 hlt).symm
  | negative hc =>
    cases hb with
    | zero t => exact congrArg some (compare_lt_iff_lt.2 (neg_lt_zero.2 hc.value_pos)).symm
    | positive hd =>
      have hlt := (neg_lt_zero.2 hc.value_pos).trans hd.value_pos
      exact congrArg some (compare_lt_iff_lt.2 hlt).symm
    | negative hd =>
      exact congrArg some ((congrArg Ordering.swap (hc.compare_eq hd)).trans (swap_compare _ _))

/-- Finite doubles compare as the rationals they are. -/
theorem compareFloats_of_value? (hx : value? x = some p) (hy : value? y = some q) :
    Value.compareFloats x y = some (compare p q) := by
  rw [Value.compareFloats_eq]
  exact (unpacks_of_value? hx).compare_eq (unpacks_of_value? hy)

end EntitySql.Number
