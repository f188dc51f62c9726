import EntitySql.Proofs.Number.Nearest

/-!
# The shortest decimal of a double rounds to it

The search for the shortest decimal tests exactly whether a number on the grid rounds to the double.
Seventeen digits make a grid that is finer than the interval of any double, so that it finds one.
Where a double is no whole number, every decimal that rounds to it has a fraction.
-/

namespace EntitySql.Number.Decimal

variable {m d k n : Nat} {e i : Int} {tie : Tie} {q : ℚ}

def value (d : Decimal) : ℚ := d.digits * 10 ^ d.exponent

/-! ## The grid -/

theorem natCast_zpow (b : Nat) (hb : 0 < b) (i : Int) :
    (b : ℚ) ^ i = (b ^ i.toNat : Nat) / (b ^ (-i).toNat : Nat) := by
  have hb' : (b : ℚ) ≠ 0 := by exact_mod_cast hb.ne'
  have hi : i = i.toNat - ((-i).toNat : Int) := by omega
  conv_lhs => rw [hi, zpow_sub₀ hb', zpow_natCast, zpow_natCast]
  push_cast
  rfl

theorem grid_pos (e k : Int) : 0 < grid e k := by
  rw [grid, Nat.pow_eq, Nat.pow_eq]
  positivity

/-- The unit stands to the grid as the power of two to the power of ten. -/
theorem exists_scale (e k : Int) :
    ∃ s : ℚ, 0 < s ∧ (unit e k : ℚ) = 2 ^ e * s ∧ (grid e k : ℚ) = 10 ^ k * s := by
  have hten := natCast_zpow 10 (by decide) k
  have htwo := natCast_zpow 2 (by decide) e
  have hgrid : (0 : ℚ) < grid e k := by exact_mod_cast grid_pos e k
  push_cast at hten htwo
  refine ⟨grid e k / 10 ^ k, by positivity, ?_, by field_simp⟩
  rw [hten, htwo, unit, grid, Nat.pow_eq, Nat.pow_eq, Nat.pow_eq, Nat.pow_eq]
  push_cast
  field_simp

/-- So many units are compared with so many of the grid as the numbers are. -/
theorem units_le_iff (a b : Nat) (e k : Int) :
    a * unit e k ≤ b * grid e k ↔ (a : ℚ) * 2 ^ e ≤ b * 10 ^ k := by
  obtain ⟨s, hs, hunit, hgrid⟩ := exists_scale e k
  rw [← Nat.cast_le (α := ℚ), Nat.cast_mul, Nat.cast_mul, hunit, hgrid, ← mul_assoc, ← mul_assoc,
    mul_le_mul_iff_left₀ hs]

theorem le_units_iff (a b : Nat) (e k : Int) :
    b * grid e k ≤ a * unit e k ↔ (b : ℚ) * 10 ^ k ≤ a * 2 ^ e := by
  obtain ⟨s, hs, hunit, hgrid⟩ := exists_scale e k
  rw [← Nat.cast_le (α := ℚ), Nat.cast_mul, Nat.cast_mul, hunit, hgrid, ← mul_assoc, ← mul_assoc,
    mul_le_mul_iff_left₀ hs]

/-- The test of a number on the grid says whether it rounds to the double. -/
theorem readsBack_iff (hm : 0 < m) (d : Nat) (k : Int) :
    (if m % 2 = 0 then
        decide ((4 * m - quartersBelow m e) * unit e k ≤ 4 * d * grid e k) &&
          decide (4 * d * grid e k ≤ (4 * m + 2) * unit e k)
      else
        decide ((4 * m - quartersBelow m e) * unit e k < 4 * d * grid e k) &&
          decide (4 * d * grid e k < (4 * m + 2) * unit e k)) = true ↔
      RoundsTo (d * 10 ^ k) m e := by
  have hcast : ((4 * m - quartersBelow m e : Nat) : ℚ) = 4 * m - quartersBelow m e := by
    have hquarters := quartersBelow_le m e
    push_cast [Nat.cast_sub (show quartersBelow m e ≤ 4 * m by omega)]
    rfl
  have hpoint : ((4 * d : Nat) : ℚ) * 10 ^ k = 4 * (d * 10 ^ k) := by
    push_cast
    ring
  have hhigh : ((4 * m + 2 : Nat) : ℚ) * 2 ^ e = (4 * m + 2) * 2 ^ e := by
    push_cast
    rfl
  have hle := units_le_iff (4 * m - quartersBelow m e) (4 * d) e k
  have hge := le_units_iff (4 * m + 2) (4 * d) e k
  have hlt := not_congr (le_units_iff (4 * m - quartersBelow m e) (4 * d) e k)
  have hgt := not_congr (units_le_iff (4 * m + 2) (4 * d) e k)
  rw [not_le, not_le] at hlt hgt
  rw [hcast, hpoint] at hle hlt
  rw [hhigh, hpoint] at hge hgt
  split
  · next heven =>
    rw [Bool.and_eq_true, decide_eq_true_iff, decide_eq_true_iff, hle, hge]
    exact ⟨fun h ↦ ⟨h.1, h.2, by omega⟩, fun h ↦ ⟨h.low, h.high⟩⟩
  · next hodd =>
    rw [Bool.and_eq_true, decide_eq_true_iff, decide_eq_true_iff, hlt, hgt]
    exact ⟨fun h ↦ ⟨h.1.le, h.2.le, fun _ ↦ h⟩, fun h ↦ h.odd (by omega)⟩

/-- What is found on a grid rounds to the double. -/
theorem roundsTo_of_onGrid? (hm : 0 < m) (h : onGrid? tie m e i = some d) :
    RoundsTo (d * 10 ^ i) m e := by
  unfold onGrid? at h
  dsimp only at h
  split at h
  · cases h
  · next hbelow _ =>
    cases h
    exact (readsBack_iff hm _ _).1 hbelow
  · next _ habove =>
    cases h
    exact (readsBack_iff hm _ _).1 habove
  · next hbelow habove =>
    have hd : d = m * unit e i / grid e i ∨ d = m * unit e i / grid e i + 1 := by
      split at h <;> cases h
      · exact .inl rfl
      · exact .inr rfl
      · split
        · exact .inl rfl
        · exact .inr rfl
      · exact .inr rfl
    rcases hd with rfl | rfl
    · exact (readsBack_iff hm _ _).1 hbelow
    · exact (readsBack_iff hm _ _).1 habove

/-- Where nothing is found on a grid, neither neighbour of the double rounds to it. -/
theorem not_roundsTo_of_onGrid? (hm : 0 < m) (h : onGrid? tie m e i = none) :
    ¬ RoundsTo ((m * unit e i / grid e i : Nat) * 10 ^ i) m e ∧
      ¬ RoundsTo ((m * unit e i / grid e i + 1 : Nat) * 10 ^ i) m e := by
  unfold onGrid? at h
  dsimp only at h
  split at h
  · next hbelow habove =>
    rw [← readsBack_iff hm, ← readsBack_iff hm]
    exact ⟨Bool.eq_false_iff.1 hbelow, Bool.eq_false_iff.1 habove⟩
  · cases h
  · cases h
  · split at h <;> cases h

/-! ## A grid that is fine enough -/

/-- Of two numbers around a double that are closer to each other than its interval is wide, one
rounds to it. -/
theorem roundsTo_or {x y : ℚ} (hx : x ≤ m * 2 ^ e) (hy : m * 2 ^ e < y)
    (h : 4 * (y - x) < (quartersBelow m e + 2) * 2 ^ e) : RoundsTo x m e ∨ RoundsTo y m e := by
  have hunit : (0 : ℚ) < 2 ^ e := by positivity
  have hquarters : (1 : ℚ) ≤ quartersBelow m e := by exact_mod_cast one_le_quartersBelow m e
  have hpart : (2 : ℚ) ^ e ≤ quartersBelow m e * 2 ^ e := le_mul_of_one_le_left hunit.le hquarters
  rw [add_mul] at h
  rcases lt_or_ge (((4 : ℚ) * m - quartersBelow m e) * 2 ^ e) (4 * x) with hlow | hlow
  · left
    have hhigh : 4 * x < (4 * m + 2) * 2 ^ e := by linarith
    exact ⟨hlow.le, hhigh.le, fun _ ↦ ⟨hlow, hhigh⟩⟩
  · right
    have hlow' : (4 * m - quartersBelow m e) * 2 ^ e < 4 * y := by linarith
    have hhigh : 4 * y < (4 * m + 2) * 2 ^ e := by linarith
    exact ⟨hlow'.le, hhigh.le, fun _ ↦ ⟨hlow', hhigh⟩⟩

theorem neighbours (m : Nat) (e k : Int) :
    ((m * unit e k / grid e k : Nat) : ℚ) * 10 ^ k ≤ m * 2 ^ e ∧
      (m : ℚ) * 2 ^ e < (m * unit e k / grid e k + 1 : Nat) * 10 ^ k := by
  rw [← le_units_iff, ← not_le, ← le_units_iff, not_le]
  exact ⟨Nat.div_mul_le_self _ _, (Nat.lt_mul_div_succ _ (grid_pos e k)).trans_eq (mul_comm _ _)⟩

theorem onGrid?_ne_none (hm : 0 < m) {k : Int}
    (h : 4 * (10 : ℚ) ^ k < (quartersBelow m e + 2) * 2 ^ e) : onGrid? tie m e k ≠ none := by
  intro hnone
  obtain ⟨hlow, hhigh⟩ := neighbours m e k
  have hbelow := not_roundsTo_of_onGrid? hm hnone
  have hgap : 4 * (((m * unit e k / grid e k + 1 : Nat) : ℚ) * 10 ^ k -
      (m * unit e k / grid e k : Nat) * 10 ^ k) < (quartersBelow m e + 2) * 2 ^ e := by
    rw [← sub_mul]
    push_cast
    rwa [add_sub_cancel_left, one_mul]
  exact (roundsTo_or hlow hhigh hgap).elim hbelow.1 hbelow.2

theorem zpow_digitCount_le {n : Nat} (hn : 0 < n) : (10 : ℚ) ^ ((digitCount n : Int) - 1) ≤ n := by
  have hpos : 0 < digitCount n := Nat.length_toDigits_pos
  have hexponent : (digitCount n : Int) - 1 = (digitCount n - 1 : Nat) := by omega
  rw [hexponent, zpow_natCast]
  exact_mod_cast pow_digitCount_le hn

/-- The leading digit of a double stands where it is looked for. -/
theorem pow_leadingExponent_le (hm : 0 < m) (e : Int) :
    (10 : ℚ) ^ leadingExponent m e ≤ m * 2 ^ e := by
  unfold leadingExponent
  rw [Nat.pow_eq, Nat.pow_eq]
  split
  · next he =>
    have hvalue : ((m * 2 ^ e.toNat : Nat) : ℚ) = m * 2 ^ e := by
      push_cast
      rw [← zpow_natCast, Int.toNat_of_nonneg he]
    rw [← hvalue]
    exact zpow_digitCount_le (by positivity)
  · next he =>
    obtain ⟨j, rfl⟩ : ∃ j : Nat, e = -j := ⟨(-e).toNat, by omega⟩
    rw [neg_neg, Int.toNat_natCast, zpow_add₀ (by norm_num)]
    calc
      (10 : ℚ) ^ ((digitCount (m * 5 ^ j) : Int) - 1) * 10 ^ (-j : Int) ≤
          (m * 5 ^ j : Nat) * 10 ^ (-j : Int) := by
        gcongr
        exact zpow_digitCount_le (by positivity)
      _ = m * 2 ^ (-j : Int) := by
        have hten : (10 : ℚ) ^ j = 5 ^ j * 2 ^ j := by
          rw [← mul_pow]
          norm_num
        rw [zpow_neg, zpow_neg, zpow_natCast, zpow_natCast, hten]
        push_cast
        field_simp

/-- Seventeen digits are enough. -/
theorem onGrid?_seventeen (hc : Canonical m e) :
    onGrid? tie m e (leadingExponent m e - 16) ≠ none := by
  apply onGrid?_ne_none hc.pos
  have hleading := pow_leadingExponent_le hc.pos e
  have hunit : (0 : ℚ) < 2 ^ e := by positivity
  have hscale : (10 : ℚ) ^ leadingExponent m e = 10 ^ 16 * 10 ^ (leadingExponent m e - 16) := by
    rw [zpow_sub₀ (by norm_num)]
    field_simp
  rw [hscale] at hleading
  have hbound : 4 * (m : ℚ) < 10 ^ 16 * (quartersBelow m e + 2) := by
    unfold quartersBelow
    split
    · next h =>
      rw [h.1, Nat.pow_eq]
      norm_num
    · have hlt : (m : ℚ) < 2 ^ 53 := by exact_mod_cast hc.lt
      norm_num
      linarith
  have hproduct := mul_lt_mul_of_pos_right hbound hunit
  linarith

/-! ## The search -/

theorem roundsTo_search (hm : 0 < m) (h : ∃ j < n, onGrid? tie m e (i - j) ≠ none) :
    RoundsTo (search tie m e n i).value m e := by
  induction n generalizing i with
  | zero =>
    obtain ⟨j, hj, -⟩ := h
    omega
  | succ n ih =>
    rw [search]
    split
    · next d hd => exact roundsTo_of_onGrid? hm hd
    · next hnone =>
      apply ih
      obtain ⟨j, hj, hfound⟩ := h
      cases j with
      | zero =>
        rw [Nat.cast_zero, sub_zero] at hfound
        exact absurd hnone hfound
      | succ j =>
        refine ⟨j, by omega, ?_⟩
        rwa [sub_sub, add_comm 1, ← Nat.cast_succ]

theorem value_stripZeros (n : Nat) (d : Decimal) : (stripZeros n d).value = d.value := by
  induction n generalizing d with
  | zero => rfl
  | succ n ih =>
    rw [stripZeros]
    split
    · next h =>
      rw [ih, value, value, zpow_add_one₀ (by norm_num), ← mul_assoc, mul_right_comm]
      congr 1
      have hdigits : d.digits / 10 * 10 = d.digits :=
        Nat.div_mul_cancel (Nat.dvd_of_mod_eq_zero h.2)
      exact_mod_cast hdigits
    · rfl

/-- The shortest decimal of a double rounds to it. -/
theorem roundsTo_shortest (hc : Canonical m e) (tie : Tie) :
    RoundsTo (shortest tie m e).value m e := by
  rw [shortest, value_stripZeros]
  exact roundsTo_search hc.pos ⟨16, by decide, onGrid?_seventeen hc⟩

/-! ## Doubles that are no whole numbers -/

/-- A whole number that rounds to a double with bits behind the point is that double. -/
theorem eq_of_roundsTo {n j : Nat} (h : RoundsTo n m (-j)) : n * 2 ^ j = m := by
  have hvalue : (n : ℚ) / 2 ^ (-j : Int) = (n * 2 ^ j : Nat) := by
    rw [zpow_neg, zpow_natCast, div_inv_eq_mul]
    push_cast
    rfl
  have hlow := h.nearest.low
  have hhigh := h.nearest.high
  rw [hvalue] at hlow hhigh
  have h1 : ((n * 2 ^ j : Nat) : ℚ) < m + 1 := by linarith
  have h2 : (m : ℚ) < (n * 2 ^ j : Nat) + 1 := by linarith
  norm_cast at h1 h2
  omega

/-- The decimals that round to a double which is no whole number have a fraction. -/
theorem exponent_neg {d : Decimal} {negative : Bool} (h : RoundsTo d.value m e)
    (hwhole : (Binary64.finite negative m e).toInt? = none) : d.exponent < 0 := by
  by_contra hexponent
  obtain ⟨k, hk⟩ : ∃ k : Nat, d.exponent = k := ⟨d.exponent.toNat, by omega⟩
  have hvalue : d.value = (d.digits * 10 ^ k : Nat) := by
    rw [value, hk, zpow_natCast]
    push_cast
    rfl
  unfold Binary64.toInt? at hwhole
  dsimp only at hwhole
  split at hwhole
  · cases hwhole
  · next he =>
    obtain ⟨j, rfl⟩ : ∃ j : Nat, e = -j := ⟨(-e).toNat, by omega⟩
    rw [hvalue] at h
    rw [neg_neg, Int.toNat_natCast, Nat.pow_eq, if_pos] at hwhole
    · cases hwhole
    · rw [← eq_of_roundsTo h]
      exact Nat.mul_mod_left _ _

end EntitySql.Number.Decimal
