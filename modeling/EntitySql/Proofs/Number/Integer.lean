import EntitySql.Proofs.Number.Exact
import EntitySql.Proofs.Number.Nearest

/-!
# Integers as doubles

An integer is turned into the double that it rounds to. That is itself where it has no more than 53
bits. For any other number the middle between two doubles decides: what rounds to one of them is not
beyond the middle to the other.
-/

open Float.Model Float.Model.UnpackedFloat

namespace EntitySql.Number

variable {m n : Nat} {e f : Int} {x y : Float} {p q r : ℚ}

/-! ## The nearest double -/

/-- Every number has a nearest natural, the even one of two. -/
theorem exists_nearest (hr : 0 ≤ r) : ∃ n, Nearest n r := by
  have hlow := Nat.floor_le hr
  have hhigh := Nat.lt_floor_add_one r
  generalize ⌊r⌋₊ = k at *
  rcases lt_trichotomy r (k + 1 / 2) with hlt | heq | hgt
  · exact ⟨k, by linarith, by linarith, fun _ ↦ ⟨by linarith, by linarith⟩⟩
  · rcases Nat.mod_two_eq_zero_or_one k with heven | hodd
    · exact ⟨k, by linarith, by linarith, fun hone ↦ by omega⟩
    · refine ⟨k + 1, ?_, ?_, fun hone ↦ by omega⟩
      · push_cast
        linarith
      · push_cast
        linarith
  · refine ⟨k + 1, ?_, ?_, fun _ ↦ ⟨?_, ?_⟩⟩
    all_goals
      push_cast
      linarith

theorem Nearest.le_of_lt {k : Nat} (h : Nearest n r) (hk : r < k) : n ≤ k := by
  have hlt : (n : ℚ) < k + 1 := by linarith [h.low]
  norm_cast at hlt
  omega

/-- What is nearest to a significand rounds to its double, down to the doubles of the next smaller
exponent. -/
theorem Nearest.roundsTo (h : Nearest n (q / 2 ^ e)) (hbits : 2 ^ 52 ≤ q / 2 ^ e) :
    RoundsTo q n e := by
  have hunit : (0 : ℚ) < 2 ^ e := by positivity
  have hlow := h.low
  have hhigh := h.high
  have hodd := h.odd
  have hvalue : q = q / 2 ^ e * 2 ^ e := by field_simp
  generalize q / 2 ^ e = r at *
  subst hvalue
  have hbelow : (4 * n - Decimal.quartersBelow n e : ℚ) ≤ 4 * r := by
    unfold Decimal.quartersBelow
    split
    · next hsmall =>
      rw [hsmall.1]
      push_cast
      linarith
    · push_cast
      linarith
  refine ⟨?_, ?_, fun hone ↦ ?_⟩
  · rw [← mul_assoc]
    gcongr
  · rw [← mul_assoc]
    gcongr
    linarith
  · have hquarters : Decimal.quartersBelow n e = 2 := if_neg fun hsmall ↦ by
      rw [hsmall.1] at hone
      norm_num at hone
    obtain ⟨hless, hmore⟩ := hodd hone
    rw [hquarters, ← mul_assoc]
    push_cast
    constructor
    · gcongr
      linarith
    · gcongr
      linarith

/-- The nearest multiple of the unit of its binade, or the first number of the next binade, where
rounding carries into it. -/
theorem exists_roundsTo (hn : 0 < n) (hlt : n < 2 ^ 64) :
    ∃ m e, Canonical m e ∧ RoundsTo n m e := by
  have hlog : n.log2 < 64 := (Nat.log2_lt hn.ne').2 hlt
  have hlow : 2 ^ 52 ≤ (n : ℚ) / 2 ^ ((n.log2 : Int) - 52) := by
    rw [le_div_iff₀ (by positivity)]
    calc
      (2 : ℚ) ^ 52 * 2 ^ ((n.log2 : Int) - 52) = 2 ^ n.log2 := by
        rw [zpow_sub₀ (by norm_num), zpow_natCast, zpow_ofNat]
        field_simp
      _ ≤ n := by exact_mod_cast Nat.log2_self_le hn.ne'
  have hhigh : (n : ℚ) / 2 ^ ((n.log2 : Int) - 52) < 2 ^ 53 := by
    rw [div_lt_iff₀ (by positivity)]
    calc
      (n : ℚ) < 2 ^ (n.log2 + 1) := by exact_mod_cast Nat.lt_log2_self
      _ = 2 ^ 53 * 2 ^ ((n.log2 : Int) - 52) := by
        rw [zpow_sub₀ (by norm_num), zpow_natCast, zpow_ofNat]
        ring
  generalize he : (n.log2 : Int) - 52 = e at *
  obtain ⟨k, hk⟩ := exists_nearest (r := (n : ℚ) / 2 ^ e) (by positivity)
  have hkLow : 2 ^ 52 ≤ k := hk.le_of_le (by exact_mod_cast hlow)
  have hkHigh : k ≤ 2 ^ 53 := hk.le_of_lt (by exact_mod_cast hhigh)
  rcases hkHigh.lt_or_eq with hless | rfl
  · exact ⟨k, e, ⟨by omega, hless, .inr hkLow, by omega, by omega⟩, hk.roundsTo hlow⟩
  · have hunit : (0 : ℚ) < 2 ^ e := by positivity
    have hdouble : (2 : ℚ) ^ (e + 1) = 2 * 2 ^ e := by
      rw [zpow_add₀ (by norm_num), zpow_one, mul_comm]
    have hquarters : Decimal.quartersBelow (2 ^ 52) (e + 1) = 1 := if_pos ⟨rfl, by omega⟩
    have hnear := hk.low
    rw [le_div_iff₀ hunit] at hnear
    rw [div_lt_iff₀ hunit] at hhigh
    refine ⟨2 ^ 52, e + 1, ⟨by norm_num, by norm_num, .inr le_rfl, by omega, by omega⟩, ?_, ?_,
      fun hone ↦ by norm_num at hone⟩
    · rw [hquarters, hdouble]
      push_cast at hnear ⊢
      linarith
    · rw [hdouble]
      push_cast
      linarith

/-! ## The double of an integer -/

theorem Canonical.normal_of_one_le (hc : Canonical m e) (h : 1 ≤ (m : ℚ) * 2 ^ e) :
    2 ^ 52 ≤ m := by
  refine hc.normal.resolve_left ?_
  rintro rfl
  have hlt : (m : ℚ) * 2 ^ (-1074 : Int) < 1 := calc
    (m : ℚ) * 2 ^ (-1074 : Int) < 2 ^ 53 * 2 ^ (-1074 : Int) := by
      have hm : (m : ℚ) < 2 ^ 53 := by exact_mod_cast hc.lt
      gcongr
    _ = 2 ^ (-1021 : Int) := by
      rw [← zpow_ofNat, ← zpow_add₀ (by norm_num)]
      norm_num
    _ ≤ 1 := zpow_le_one_of_nonpos₀ (by norm_num) (by norm_num)
  linarith

theorem mul_eq {m₁ m₂ : Nat} {e₁ e₂ : Int} {s₁ s₂ : Sign} (h₁ : 0 < m₁) (h₂ : 0 < m₂)
    (hc : Canonical m e) (hfine : 2 ^ 52 ≤ m₁ * m₂)
    (h : RoundsTo ((m₁ * 2 ^ e₁) * (m₂ * 2 ^ e₂)) m e) :
    UnpackedFloat.mul .binary64 (.finite s₁ m₁ e₁ h₁) (.finite s₂ m₂ e₂ h₂) =
      .finite (s₁ * s₂) m e hc.pos := by
  have hvalue : ((m₁ * m₂ : Nat) : ℚ) * 2 ^ (e₁ + e₂) = (m₁ * 2 ^ e₁) * (m₂ * 2 ^ e₂) := by
    rw [zpow_add₀ (by norm_num)]
    push_cast
    ring
  exact roundWithAccuracy_eq hc (keeps_exact _) (.inr (by exact_mod_cast hfine)) (hvalue ▸ h)

/-- A natural is converted to the double that it rounds to. -/
theorem unpack_float_ofNat (hn : 0 < n) (hc : Canonical m e) (h : RoundsTo n m e) :
    (Float.ofNat n).toModel.unpack = .finite .positive m e hc.pos := by
  change (Float.ofScientific n false 0).toModel.unpack = _
  unfold Float.ofScientific
  split
  · next hsmall =>
    have hsize : 0 < Float.exactlyRepresentablePowersOfTen.size := Nat.succ_pos 22
    obtain ⟨p₁, t₁, hc₁, hunpack₁, hvalue₁⟩ := unpack_ofNat hn hsmall.1
    obtain ⟨p₂, t₂, h₂, hunpack₂, hvalue₂⟩ : ∃ (p : Nat) (t : Int) (hp : 0 < p),
        (getElem Float.exactlyRepresentablePowersOfTen 0 hsize).toModel.unpack =
          .finite .positive p t hp ∧ (p : ℚ) * 2 ^ t = 10 ^ 0 := unpack_powerOfTen (by decide)
    change UnpackedFloat.unpack .binary64 (UnpackedFloat.pack .binary64
      (UnpackedFloat.mul .binary64 n.toUInt64.toFloat.toModel.unpack
        (getElem Float.exactlyRepresentablePowersOfTen 0 hsize).toModel.unpack)) = _
    rw [hunpack₁, hunpack₂, mul_eq hc₁.pos h₂ hc]
    · exact unpack_pack hc
    · exact (hc₁.normal_of_one_le (by rw [hvalue₁]; exact_mod_cast hn)).trans
        (Nat.le_mul_of_pos_right p₁ h₂)
    · rwa [hvalue₁, hvalue₂, pow_zero, mul_one]
  · change UnpackedFloat.unpack .binary64 (UnpackedFloat.pack .binary64
      (UnpackedFloat.ofScientific .binary64 n 0)) = _
    have hlong : 2 ^ 53 ≤ n <<< 53 := by
      rw [Nat.shiftLeft_eq]
      exact Nat.le_mul_of_pos_left _ hn
    have hvalue : ((n <<< 53 : Nat) : ℚ) * 2 ^ (-(53 : Nat) : Int) *
        ((10 ^ 0 : Nat) * 2 ^ (0 : Int)) = n := by
      rw [Nat.shiftLeft_eq, zpow_neg, zpow_natCast]
      push_cast
      field_simp
      norm_num
    have hproduct : UnpackedFloat.mul .binary64
        (.finite .positive (n <<< 53) (-(53 : Nat) : Int) (by omega))
        (.finite .positive (10 ^ 0) 0 (by decide)) = .finite .positive m e hc.pos := by
      rw [mul_eq _ _ hc (by omega)]
      · rfl
      · rwa [hvalue]
    rw [UnpackedFloat.ofScientific, dif_neg hn.ne', if_neg (by decide), if_neg, if_pos le_rfl]
    · exact (congrArg (fun u ↦ UnpackedFloat.unpack .binary64 (UnpackedFloat.pack .binary64 u))
        hproduct).trans (unpack_pack hc)
    · change ¬ (0 : Int) < -(2 ^ 11 + n.log2)
      omega

theorem ofInt_neg (hn : 0 < n) : Float.ofInt (-n) = Float.neg (Float.ofNat n) := by
  obtain ⟨k, rfl⟩ := Nat.exists_eq_succ_of_ne_zero hn.ne'
  rfl

theorem unpack_ofInt (negative : Bool) (hn : 0 < n) (hc : Canonical m e) (h : RoundsTo n m e) :
    (Float.ofInt (if negative then -n else n)).toModel.unpack =
      .finite (signOf negative) m e hc.pos := by
  have hsize := unpack_float_ofNat hn hc h
  cases negative with
  | false => exact hsize
  | true =>
    have hunpack : (Float.neg (Float.ofNat n)).toModel.unpack = UnpackedFloat.unpack .binary64
      (UnpackedFloat.pack .binary64 (Float.ofNat n).toModel.unpack.neg) := rfl
    rw [if_pos rfl, ofInt_neg hn, hunpack, hsize]
    exact unpack_pack hc

/-! ## Rounding with a sign -/

/-- The numbers `m * 2 ^ e` that are doubles, zero included. -/
structure Placed (m : Nat) (e : Int) : Prop where
  lt : m < 2 ^ 53
  normal : e = -1074 ∨ 2 ^ 52 ≤ m
  low : -1074 ≤ e
  high : e ≤ 971

theorem Canonical.placed (hc : Canonical m e) : Placed m e := ⟨hc.lt, hc.normal, hc.low, hc.high⟩

theorem Placed.canonical (h : Placed m e) (hm : 0 < m) : Canonical m e :=
  ⟨hm, h.lt, h.normal, h.low, h.high⟩

theorem placed_zero : Placed 0 (-1074) := ⟨by norm_num, .inl rfl, le_rfl, by norm_num⟩

theorem Placed.eq_of_zero (h : Placed 0 e) : e = -1074 := h.normal.resolve_right (by norm_num)

def IsDouble (q : ℚ) : Prop := ∃ negative m e, Placed m e ∧ q = withSign negative (m * 2 ^ e)

/-- A number rounds to a double: to the nearest one, and of two that are equally near to the one
with the even significand. -/
def Rounds (q r : ℚ) : Prop :=
  ∃ negative m e, Placed m e ∧ r = withSign negative (m * 2 ^ e) ∧
    RoundsTo (withSign negative q) m e

theorem isDouble_of_value? (h : value? x = some q) : IsDouble q := by
  obtain ⟨negative, m, e, hx, rfl⟩ := value?_eq_some_iff.1 h
  refine ⟨negative, m, e, ?_, rfl⟩
  rcases Nat.eq_zero_or_pos m with rfl | hm
  · rw [(unpack_of_ofFloat_zero hx).1]
    exact placed_zero
  · exact (unpack_of_ofFloat hm hx).1.placed

theorem Rounds.self (h : IsDouble q) : Rounds q q := by
  obtain ⟨negative, m, e, hplaced, rfl⟩ := h
  refine ⟨negative, m, e, hplaced, rfl, .self m e ?_⟩
  cases negative <;> simp [withSign]

/-- What a number rounds to is a double. -/
theorem Rounds.isDouble (h : Rounds q r) : IsDouble r := by
  obtain ⟨negative, m, e, hplaced, heq, -⟩ := h
  exact ⟨negative, m, e, hplaced, heq⟩

/-! ## The middle between two doubles -/

theorem Placed.exponent_le (hm : Placed m e) (hn : Placed n f)
    (h : (m : ℚ) * 2 ^ e < n * 2 ^ f) : e ≤ f := by
  by_contra hgt
  have hbits : 2 ^ 52 ≤ m := hm.normal.resolve_left (by have := hn.low; omega)
  have hpos : (0 : ℚ) ≤ m * 2 ^ e := by positivity
  have hn' : n ≠ 0 := by
    rintro rfl
    norm_num at h
    linarith
  exact lt_asymm h ((hn.canonical (Nat.pos_of_ne_zero hn')).lt_of_exponent_lt
    (hm.canonical (by omega)) (not_le.1 hgt))

/-- No double lies between one and the next multiple of its unit. -/
theorem Placed.next_le (hm : Placed m e) (hn : Placed n f) (h : (m : ℚ) * 2 ^ e < n * 2 ^ f) :
    ((m : ℚ) + 1) * 2 ^ e ≤ n * 2 ^ f := by
  have hunit : (0 : ℚ) < 2 ^ e := by positivity
  rcases (hm.exponent_le hn h).lt_or_eq with hlt | rfl
  · have hbits : (2 : ℚ) ^ 52 ≤ n := by
      exact_mod_cast hn.normal.resolve_left (by have := hm.low; omega)
    have hless : (m : ℚ) + 1 ≤ 2 ^ 53 := by exact_mod_cast hm.lt
    calc
      ((m : ℚ) + 1) * 2 ^ e ≤ 2 ^ 53 * 2 ^ e := by gcongr
      _ = 2 ^ 52 * 2 ^ (e + 1) := by
        rw [zpow_add₀ (by norm_num)]
        ring
      _ ≤ n * 2 ^ f := by
        gcongr
        · norm_num
        · omega
  · have hless : m < n := by exact_mod_cast lt_of_mul_lt_mul_right h hunit.le
    gcongr
    exact_mod_cast hless

/-- The double before one is at least twice as far below it as the numbers that round to it go. -/
theorem Placed.le_previous (hm : Placed m e) (hn : Placed n f)
    (h : (n : ℚ) * 2 ^ f < m * 2 ^ e) :
    2 * (n * 2 ^ f) ≤ (2 * m - Decimal.quartersBelow m e) * (2 : ℚ) ^ e := by
  have hunit : (0 : ℚ) < 2 ^ e := by positivity
  have hquarters : (Decimal.quartersBelow m e : ℚ) ≤ 2 := by exact_mod_cast quartersBelow_le m e
  rcases (hn.exponent_le hm h).lt_or_eq with hlt | rfl
  · have hbits : 2 ^ 52 ≤ m := hm.normal.resolve_left (by have := hn.low; omega)
    have hless : (n : ℚ) + 1 ≤ 2 ^ 53 := by exact_mod_cast hn.lt
    have hpredecessor : (2 : ℚ) ^ 53 - 1 ≤ 2 * m - Decimal.quartersBelow m e := by
      rcases hbits.eq_or_lt with rfl | hmore
      · rw [Decimal.quartersBelow, if_pos ⟨rfl, by have := hn.low; omega⟩]
        norm_num
      · have hm' : (2 : ℚ) ^ 52 + 1 ≤ m := by exact_mod_cast hmore
        linarith
    calc
      2 * ((n : ℚ) * 2 ^ f) ≤ 2 * ((2 ^ 53 - 1) * 2 ^ (e - 1)) := by
        gcongr
        · linarith
        · norm_num
        · omega
      _ = (2 ^ 53 - 1) * 2 ^ e := by
        rw [zpow_sub₀ (by norm_num)]
        ring
      _ ≤ (2 * m - Decimal.quartersBelow m e) * 2 ^ e := by gcongr
  · have hless : (n : ℚ) + 1 ≤ m := by
      exact_mod_cast Nat.succ_le_of_lt (by exact_mod_cast lt_of_mul_lt_mul_right h hunit.le)
    rw [← mul_assoc]
    gcongr
    linarith

section Middle

variable (h : RoundsTo q m e) (hm : Placed m e) (hn : Placed n f)

include h hm hn

/-- A number that rounds to the lower of two doubles is not above their middle. -/
theorem RoundsTo.le_middle (hlt : (m : ℚ) * 2 ^ e < n * 2 ^ f) :
    2 * q ≤ m * 2 ^ e + n * 2 ^ f := by
  have hhigh := h.high
  have hnext := hm.next_le hn hlt
  linarith

theorem RoundsTo.middle_le (hlt : (n : ℚ) * 2 ^ f < m * 2 ^ e) :
    n * 2 ^ f + m * 2 ^ e ≤ 2 * q := by
  have hlow := h.low
  have hprevious := hm.le_previous hn hlt
  linarith

/-- Also a double of the other sign is on its own side of the middle. -/
theorem RoundsTo.opposite_middle_le (hlt : -((n : ℚ) * 2 ^ f) < m * 2 ^ e) :
    -(n * 2 ^ f) + m * 2 ^ e ≤ 2 * q := by
  have hvalue : (0 : ℚ) ≤ n * 2 ^ f := by positivity
  rcases Nat.eq_zero_or_pos m with rfl | hpos
  · have hunit : (0 : ℚ) < 2 ^ e := by positivity
    have hquarters : (Decimal.quartersBelow 0 e : ℚ) ≤ 2 := by
      exact_mod_cast quartersBelow_le 0 e
    have hstep := mul_le_mul_of_nonneg_right hquarters hunit.le
    have hlow := h.low
    have hnext := hm.next_le hn (by push_cast at hlt ⊢; linarith)
    push_cast at hlow hnext ⊢
    linarith
  · have hmiddle := h.middle_le hm placed_zero (by
      rw [Nat.cast_zero, zero_mul]
      exact (hm.canonical hpos).value_pos)
    rw [Nat.cast_zero, zero_mul] at hmiddle
    linarith

end Middle

/-- What rounds to a double is not beyond the middle between it and any other one. -/
theorem Rounds.middle (h : Rounds q r) (hp : IsDouble p) :
    (p < r → p + r ≤ 2 * q) ∧ (r < p → 2 * q ≤ p + r) := by
  obtain ⟨negative, m, e, hm, rfl, hrounds⟩ := h
  obtain ⟨negative', n, f, hn, rfl⟩ := hp
  have hmValue : (0 : ℚ) ≤ m * 2 ^ e := by positivity
  have hnValue : (0 : ℚ) ≤ n * 2 ^ f := by positivity
  cases negative with
  | false =>
    change RoundsTo q m e at hrounds
    cases negative' with
    | false =>
      change ((n : ℚ) * 2 ^ f < m * 2 ^ e → _) ∧
        ((m : ℚ) * 2 ^ e < n * 2 ^ f → 2 * q ≤ n * 2 ^ f + m * 2 ^ e)
      refine ⟨hrounds.middle_le hm hn, fun hlt ↦ ?_⟩
      linarith [hrounds.le_middle hm hn hlt]
    | true =>
      change (-((n : ℚ) * 2 ^ f) < m * 2 ^ e → _) ∧ ((m : ℚ) * 2 ^ e < -(n * 2 ^ f) → _)
      exact ⟨hrounds.opposite_middle_le hm hn, fun hlt ↦ by linarith⟩
  | true =>
    change RoundsTo (-q) m e at hrounds
    cases negative' with
    | false =>
      change ((n : ℚ) * 2 ^ f < -(m * 2 ^ e) → _) ∧
        (-((m : ℚ) * 2 ^ e) < n * 2 ^ f → 2 * q ≤ n * 2 ^ f + -(m * 2 ^ e))
      refine ⟨fun hlt ↦ by linarith, fun hlt ↦ ?_⟩
      linarith [hrounds.opposite_middle_le hm hn (by linarith)]
    | true =>
      change (-((n : ℚ) * 2 ^ f) < -(m * 2 ^ e) → -(n * 2 ^ f) + -(m * 2 ^ e) ≤ 2 * q) ∧
        (-((m : ℚ) * 2 ^ e) < -(n * 2 ^ f) → 2 * q ≤ -(n * 2 ^ f) + -(m * 2 ^ e))
      constructor
      · intro hlt
        linarith [hrounds.le_middle hm hn (neg_lt_neg_iff.1 hlt)]
      · intro hlt
        linarith [hrounds.middle_le hm hn (neg_lt_neg_iff.1 hlt)]

theorem Rounds.lt_of_lt (h : Rounds q r) (hp : IsDouble p) (hlt : p < r) : p < q := by
  linarith [(h.middle hp).1 hlt]

theorem Rounds.gt_of_gt (h : Rounds q r) (hp : IsDouble p) (hlt : r < p) : q < p := by
  linarith [(h.middle hp).2 hlt]

/-- A double rounds to itself only. -/
theorem Rounds.eq_of_isDouble (h : Rounds q r) (hq : IsDouble q) : q = r := by
  rcases lt_trichotomy q r with hlt | heq | hgt
  · exact absurd (h.lt_of_lt hq hlt) (lt_irrefl q)
  · exact heq
  · exact absurd (h.gt_of_gt hq hgt) (lt_irrefl q)

/-- Rounding keeps the order of two different numbers, or makes them equal. -/
theorem Rounds.le_of_lt {q' r' : ℚ} (h : Rounds q r) (h' : Rounds q' r') (hlt : q < q') :
    r ≤ r' := by
  by_contra hgt
  have hless := not_le.1 hgt
  linarith [(h.middle h'.isDouble).1 hless, (h'.middle h.isDouble).2 hless]

/-! ## Integers -/

/-- Only numbers below one round to zero. -/
theorem RoundsTo.pos_of_large (h : RoundsTo q m e) (hm : Placed m e) (hlarge : 1 ≤ |q|) :
    0 < m := by
  by_contra hzero
  obtain rfl := Nat.eq_zero_of_not_pos hzero
  obtain rfl := hm.eq_of_zero
  have hunit : (0 : ℚ) < 2 ^ (-1074 : Int) := by positivity
  have hless : (2 : ℚ) ^ (-1074 : Int) ≤ 1 := zpow_le_one_of_nonpos₀ (by norm_num) (by norm_num)
  have hlow := h.nearest.low
  have hhigh := h.nearest.high
  generalize (2 : ℚ) ^ (-1074 : Int) = unit at *
  rw [Nat.cast_zero, zero_sub, le_div_iff₀ hunit] at hlow
  rw [Nat.cast_zero, zero_add, div_le_iff₀ hunit] at hhigh
  have habs : |q| ≤ 1 / 2 := abs_le.2 ⟨by linarith, by linarith⟩
  linarith

theorem value?_ofInt_zero : value? (Float.ofInt 0) = some 0 := by
  have hx : Binary64.ofFloat (Float.ofInt 0) = .finite false 0 (-1074) := rfl
  exact value?_eq_some_iff.2 ⟨_, _, _, hx, by simp⟩

theorem withSign_withSign (negative : Bool) (q : ℚ) :
    withSign negative (withSign negative q) = q := by
  cases negative <;> simp [withSign]

theorem withSign_eq_natAbs (a : Int) : withSign (decide (a < 0)) (a : ℚ) = a.natAbs := by
  rw [withSign, Nat.cast_natAbs, Int.cast_abs]
  rcases lt_or_ge a 0 with hneg | hpos
  · have hlt : (a : ℚ) < 0 := by exact_mod_cast hneg
    rw [if_pos (by simpa using hneg), abs_of_neg hlt]
  · have hle : (0 : ℚ) ≤ a := by exact_mod_cast hpos
    rw [if_neg (by simpa using hpos), abs_of_nonneg hle]

theorem value?_ofInt_of_pos {a : Int} {negative : Bool} (hn : 0 < n)
    (ha : withSign negative (a : ℚ) = n) (hc : Canonical m e) (h : RoundsTo n m e) :
    value? (Float.ofInt a) = some (withSign negative (m * 2 ^ e)) := by
  obtain rfl : a = if negative then -(n : Int) else n := by
    cases negative with
    | false => exact Int.cast_injective (α := ℚ) (by simpa [withSign] using ha)
    | true =>
      have hneg : -(a : ℚ) = n := ha
      rw [if_pos rfl]
      have hcast : -a = n := by exact_mod_cast hneg
      omega
  obtain ⟨negative', hsign, hx⟩ := ofFloat_of_unpack (unpack_ofInt negative hn hc h)
  obtain rfl : negative' = negative := by
    cases negative' <;> cases negative <;> first | rfl | cases hsign
  exact value?_eq_some_iff.2 ⟨_, _, _, hx, rfl⟩

/-- An integer is turned into the double that it rounds to. -/
theorem Rounds.value?_ofInt {a : Int} (h : Rounds a r) : value? (Float.ofInt a) = some r := by
  obtain ⟨negative, m, e, hm, rfl, hrounds⟩ := h
  rcases eq_or_ne a 0 with rfl | ha
  · obtain rfl : m = 0 := by
      by_contra hpos
      have hq := hrounds.pos (Nat.pos_of_ne_zero hpos)
      simp at hq
    simpa using value?_ofInt_zero
  · have habs : |withSign negative (a : ℚ)| = a.natAbs := by
      cases negative <;> simp [withSign]
    have hlarge : (1 : ℚ) ≤ a.natAbs := by
      exact_mod_cast Nat.one_le_iff_ne_zero.2 (Int.natAbs_ne_zero.2 ha)
    have hpos := hrounds.pos_of_large hm (habs ▸ hlarge)
    have hsize : withSign negative (a : ℚ) = a.natAbs := by
      rw [← habs, abs_of_pos (hrounds.pos hpos)]
    exact value?_ofInt_of_pos (Int.natAbs_pos.2 ha) hsize (hm.canonical hpos) (hsize ▸ hrounds)

theorem exists_rounds {a : Int} (ha : a.natAbs < 2 ^ 64) : ∃ r, Rounds a r := by
  rcases Nat.eq_zero_or_pos a.natAbs with hzero | hpos
  · obtain rfl := Int.natAbs_eq_zero.1 hzero
    exact ⟨0, .self ⟨false, 0, -1074, placed_zero, by simp⟩⟩
  · obtain ⟨m, e, hc, hrounds⟩ := exists_roundsTo hpos ha
    exact ⟨_, decide (a < 0), m, e, hc.placed, rfl, (withSign_eq_natAbs a).symm ▸ hrounds⟩

theorem exists_placed (hn : n ≤ 2 ^ 53) : ∃ m e, Placed m e ∧ (n : ℚ) = m * 2 ^ e := by
  rcases Nat.eq_zero_or_pos n with rfl | hpos
  · exact ⟨0, -1074, placed_zero, by simp⟩
  rcases hn.lt_or_eq with hlt | rfl
  · have hlog : n.log2 < 53 := (Nat.log2_lt hpos.ne').2 hlt
    have hvalue := scaled_of_nat (n := n) (by omega) 0
    exact ⟨_, _, (canonical_of_nat hpos hlt).placed, by simpa using hvalue.symm⟩
  · exact ⟨2 ^ 52, 1, ⟨by norm_num, .inr le_rfl, by norm_num, by norm_num⟩, by norm_num⟩

/-- An integer is a double at least as far as 53 bits go. -/
theorem isDouble_of_natAbs_le {a : Int} (ha : a.natAbs ≤ 2 ^ 53) : IsDouble a := by
  obtain ⟨m, e, hm, hvalue⟩ := exists_placed ha
  refine ⟨decide (a < 0), m, e, hm, ?_⟩
  rw [← hvalue, ← withSign_eq_natAbs, withSign_withSign]

end EntitySql.Number
