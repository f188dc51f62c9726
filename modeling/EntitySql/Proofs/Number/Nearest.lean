import EntitySql.Number.Reading
import EntitySql.Proofs.Number.Double

/-!
# Decimals are read as the nearest double

A decimal fraction is read as the double that it rounds to. Short ones are divided by an exact
power of ten, which rounds once, and long ones are divided as the rationals they are. The exponents
that are settled by the place of the leading digit alone are none of a finite double.
-/

open Float.Model Float.Model.UnpackedFloat

namespace EntitySql.Number

variable {q : ℚ} {m : Nat} {e : Int}

/-! ## Decimals -/

/-- The powers of ten in the table are exact. -/
theorem ofFloat_powerOfTen : ∀ j : Fin 23,
    Binary64.ofFloat Float.exactlyRepresentablePowersOfTen[j] =
    .finite false (5 ^ j.val * 2 ^ (52 - (5 ^ j.val).log2)) ((5 ^ j.val).log2 - 52 + j) := by
  decide +kernel

theorem scaled_of_nat {n : Nat} (hlog : n.log2 ≤ 52) (j : Nat) :
    ((n * 2 ^ (52 - n.log2) : Nat) : ℚ) * 2 ^ ((n.log2 : Int) - 52 + j) = n * 2 ^ j := by
  have hexponent : (n.log2 : Int) - 52 + j = j - (52 - n.log2 : Nat) := by omega
  rw [hexponent, zpow_sub₀ (by norm_num), zpow_natCast, zpow_natCast]
  push_cast
  field_simp

theorem unpack_powerOfTen {j : Nat} (hj : j < 23) :
    ∃ (p : Nat) (t : Int) (hp : 0 < p),
      Float.exactlyRepresentablePowersOfTen[j].toModel.unpack = .finite .positive p t hp ∧
        (p : ℚ) * 2 ^ t = 10 ^ j := by
  have hlt : 5 ^ j < 2 ^ 53 := calc
    5 ^ j ≤ 5 ^ 22 := Nat.pow_le_pow_right (by decide) (by omega)
    _ < 2 ^ 53 := by norm_num
  have hlog : (5 ^ j).log2 < 53 := (Nat.log2_lt (by positivity)).2 hlt
  have hpos : 0 < 5 ^ j * 2 ^ (52 - (5 ^ j).log2) := by positivity
  refine ⟨_, _, hpos, (unpack_of_ofFloat hpos (ofFloat_powerOfTen ⟨j, hj⟩)).2, ?_⟩
  rw [scaled_of_nat (by omega)]
  push_cast
  rw [← mul_pow]
  norm_num

theorem unpack_ofNat {n : Nat} (hn : 0 < n) (hlt : n < 2 ^ 53) :
    ∃ (p : Nat) (t : Int) (hc : Canonical p t),
      n.toUInt64.toFloat.toModel.unpack = .finite .positive p t hc.pos ∧ (p : ℚ) * 2 ^ t = n := by
  have hc := canonical_of_nat hn hlt
  have hlog : n.log2 < 53 := (Nat.log2_lt hn.ne').2 hlt
  have htoNat : n.toUInt64.toNat = n := by
    rw [Nat.toUInt64, UInt64.toNat_ofNat']
    omega
  refine ⟨_, (n.log2 : Int) - 52, hc, ?_, ?_⟩
  · change UnpackedFloat.unpack .binary64 (UnpackedFloat.pack .binary64
      (UnpackedFloat.ofNat .binary64 n.toUInt64.toNat)) = _
    rw [htoNat, ofNat_eq hn hlt, unpack_pack hc]
  · have h := scaled_of_nat (n := n) (by omega) 0
    simpa using h

/-- A number that rounds to a double other than zero is at least half of the least of them. -/
theorem RoundsTo.least_le (h : RoundsTo q m e) (hc : Canonical m e) : 1 / 2 ^ 1075 ≤ q := by
  have hnear := h.nearest.low
  have hunit : (0 : ℚ) < 2 ^ e := by positivity
  have hm : (1 : ℚ) ≤ m := by exact_mod_cast hc.pos
  have hleast : (1 : ℚ) / 2 ^ 1074 ≤ 2 ^ e := calc
    (1 : ℚ) / 2 ^ 1074 = 2 ^ (-1074 : Int) := by rw [one_div, zpow_neg, zpow_ofNat]
    _ ≤ 2 ^ e := zpow_le_zpow_right₀ (by norm_num) hc.low
  rw [le_div_iff₀ hunit] at hnear
  calc
    (1 : ℚ) / 2 ^ 1075 = 1 / 2 * (1 / 2 ^ 1074) := by rw [one_div_mul_one_div, ← pow_succ']
    _ ≤ ((m : ℚ) - 1 / 2) * 2 ^ e := by
      apply mul_le_mul (by linarith) hleast (by positivity) (by linarith)
    _ ≤ q := hnear

/-- A decimal fraction that is not too small has no more places than that leaves to it. -/
theorem places_lt {d j k : Nat} (h : (1 : ℚ) / 2 ^ k ≤ d / 10 ^ j) : j < d.log2 + 1 + k := by
  by_contra hle
  rw [div_le_div_iff₀ (by positivity) (by positivity), one_mul] at h
  norm_cast at h
  have hless : 10 ^ j < 10 ^ j := calc
    10 ^ j ≤ d * 2 ^ k := h
    _ < 2 ^ (d.log2 + 1) * 2 ^ k := by
      have hlog := Nat.lt_log2_self (n := d)
      gcongr
    _ = 2 ^ (d.log2 + 1 + k) := (pow_add 2 _ _).symm
    _ ≤ 2 ^ j := Nat.pow_le_pow_right (by decide) (not_lt.1 hle)
    _ ≤ 10 ^ j := Nat.pow_le_pow_left (by decide) j
  exact lt_irrefl _ hless

theorem RoundsTo.digits_pos {d j : Nat} (h : RoundsTo (d / 10 ^ j) m e) (hc : Canonical m e) :
    0 < d := by
  have hpos := h.pos hc.pos
  rcases Nat.eq_zero_or_pos d with rfl | hd
  · simp at hpos
  · exact hd

theorem unpack_ofScientific (hc : Canonical m e) {d j : Nat} (hj : 0 < j)
    (h : RoundsTo (d / 10 ^ j) m e) :
    (Float.ofScientific d true j).toModel.unpack = .finite .positive m e hc.pos := by
  have hd := h.digits_pos hc
  unfold Float.ofScientific
  split
  · next hsmall =>
    have hsize : j < Float.exactlyRepresentablePowersOfTen.size := Nat.lt_succ_of_le hsmall.2
    obtain ⟨p₁, t₁, hc₁, hunpack₁, hvalue₁⟩ := unpack_ofNat hd hsmall.1
    obtain ⟨p₂, t₂, h₂, hunpack₂, hvalue₂⟩ := unpack_powerOfTen hsize
    change UnpackedFloat.unpack .binary64 (UnpackedFloat.pack .binary64
      (UnpackedFloat.div .binary64 d.toUInt64.toFloat.toModel.unpack
        Float.exactlyRepresentablePowersOfTen[j].toModel.unpack)) = _
    rw [hunpack₁, hunpack₂, div_eq hc₁.pos h₂ hc (by rwa [hvalue₁, hvalue₂])]
    exact unpack_pack hc
  · have hvalue : ((d : ℚ) * 2 ^ (0 : Int)) / ((10 ^ j : Nat) * 2 ^ (0 : Int)) = d / 10 ^ j := by
      simp
    have hrange := places_lt (h.least_le hc)
    have hnegative : Int.negOfNat j = -(j : Int) := Int.negOfNat_eq
    have htoNat : (-(-(j : Int))).toNat = j := by omega
    change UnpackedFloat.unpack .binary64 (UnpackedFloat.pack .binary64
      (UnpackedFloat.ofScientific .binary64 d (Int.negOfNat j))) = _
    rw [hnegative, UnpackedFloat.ofScientific, dif_neg hd.ne', if_neg, if_neg, if_neg (by omega)]
    · simp only [htoNat]
      rw [div_eq hd _ hc (by rwa [hvalue])]
      exact unpack_pack hc
    · change ¬ -(j : Int) < -(2 ^ 11 + d.log2)
      omega
    · change ¬ -(j : Int) > 2 ^ 11
      omega

/-! ## Reading -/

theorem lt_pow_digitCount (n : Nat) : n < 10 ^ Decimal.digitCount n :=
  (Nat.length_toDigits_le_iff (by decide) Nat.length_toDigits_pos).1 le_rfl

theorem pow_digitCount_le {n : Nat} (hn : 0 < n) : 10 ^ (Decimal.digitCount n - 1) ≤ n := by
  by_contra hlt
  rcases Nat.eq_zero_or_pos (Decimal.digitCount n - 1) with hzero | hpos
  · rw [hzero] at hlt
    omega
  · have hle := (Nat.length_toDigits_le_iff (by decide) hpos).2 (not_le.1 hlt)
    change Decimal.digitCount n ≤ _ at hle
    omega

/-- Ninety-three bits hold no more than 28 digits do. -/
theorem two_pow_le_ten_pow {a b k l n : Nat} (ha : a = 93 * k + l) (hl : 2 ^ l ≤ 10 ^ n)
    (hb : 28 * k + n ≤ b) : (2 : ℚ) ^ a ≤ 10 ^ b := by
  have hbits : (2 : ℚ) ^ 93 ≤ 10 ^ 28 := by norm_num
  have hrest : (2 : ℚ) ^ l ≤ 10 ^ n := by exact_mod_cast hl
  calc
    (2 : ℚ) ^ a = (2 ^ 93) ^ k * 2 ^ l := by rw [ha, pow_add, pow_mul]
    _ ≤ (10 ^ 28) ^ k * 10 ^ n := by gcongr
    _ = 10 ^ (28 * k + n) := by rw [pow_add, pow_mul]
    _ ≤ 10 ^ b := pow_le_pow_right₀ (by norm_num) hb

/-- What rounds to a finite double has its leading digit in the places that are looked at. -/
theorem RoundsTo.digitCount_bounds {d j : Nat} (h : RoundsTo (d / 10 ^ j) m e)
    (hc : Canonical m e) :
    j ≤ Decimal.digitCount d + 330 ∧ Decimal.digitCount d ≤ j + 310 := by
  constructor
  · have hleast := h.least_le hc
    rw [div_le_div_iff₀ (by positivity) (by positivity), one_mul] at hleast
    have hless : (10 : ℚ) ^ j < 10 ^ (Decimal.digitCount d + 331) := calc
      (10 : ℚ) ^ j ≤ d * 2 ^ 1075 := hleast
      _ < 10 ^ Decimal.digitCount d * 2 ^ 1075 := by
        have hlt : (d : ℚ) < 10 ^ Decimal.digitCount d := by exact_mod_cast lt_pow_digitCount d
        gcongr
      _ ≤ 10 ^ Decimal.digitCount d * 10 ^ 331 := by
        have hpow : (2 : ℚ) ^ 1075 ≤ 10 ^ 331 :=
          two_pow_le_ten_pow (k := 11) (l := 52) (n := 16) rfl (by norm_num) (by norm_num)
        gcongr
      _ = 10 ^ (Decimal.digitCount d + 331) := (pow_add 10 _ _).symm
    rw [pow_lt_pow_iff_right₀ (by norm_num)] at hless
    omega
  · have hgreatest : (d : ℚ) / 10 ^ j < 2 ^ 1024 := calc
      (d : ℚ) / 10 ^ j < 2 ^ (e + 53) := h.lt hc.lt
      _ ≤ 2 ^ (1024 : Int) := by
        have hhigh := hc.high
        exact zpow_le_zpow_right₀ (by norm_num) (by omega)
      _ = 2 ^ 1024 := zpow_natCast 2 1024
    rw [div_lt_iff₀ (by positivity)] at hgreatest
    have hless : (10 : ℚ) ^ (Decimal.digitCount d - 1) < 10 ^ (310 + j) := calc
      (10 : ℚ) ^ (Decimal.digitCount d - 1) ≤ d := by
        exact_mod_cast pow_digitCount_le (h.digits_pos hc)
      _ < 2 ^ 1024 * 10 ^ j := hgreatest
      _ ≤ 10 ^ 310 * 10 ^ j := by
        have hpow : (2 : ℚ) ^ 1024 ≤ 10 ^ 310 :=
          two_pow_le_ten_pow (k := 11) (l := 1) (n := 1) rfl (by norm_num) (by norm_num)
        gcongr
      _ = 10 ^ (310 + j) := (pow_add 10 _ _).symm
    rw [pow_lt_pow_iff_right₀ (by norm_num)] at hless
    omega

/-- A decimal with a fraction is read as the double that it rounds to. -/
theorem nearest_eq {x : Float} {negative : Bool} (hm : 0 < m)
    (hx : Binary64.ofFloat x = .finite negative m e) {d j : Nat} (hj : 0 < j)
    (h : RoundsTo (d / 10 ^ j) m e) : nearest negative d (-j) = x := by
  obtain ⟨hc, hunpack⟩ := unpack_of_ofFloat hm hx
  have hsize := unpack_ofScientific hc hj h
  have hd := h.digits_pos hc
  obtain ⟨hlow, hhigh⟩ := h.digitCount_bounds hc
  have hplace : ¬ -(j : Int) + Decimal.digitCount d < -330 := by omega
  have hplace' : ¬ 310 < -(j : Int) + Decimal.digitCount d := by omega
  have hneg : decide (-(j : Int) < 0) = true := decide_eq_true (by omega)
  apply unpack_injective
  rw [hunpack]
  unfold nearest
  dsimp only
  rw [if_neg (not_or.2 ⟨hd.ne', hplace⟩), if_neg hplace', Int.natAbs_neg, Int.natAbs_natCast,
    hneg]
  cases negative with
  | false => exact hsize
  | true =>
    change UnpackedFloat.unpack .binary64 (UnpackedFloat.pack .binary64
      (Float.ofScientific d true j).toModel.unpack.neg) = _
    rw [hsize]
    exact unpack_pack hc

end EntitySql.Number
