import EntitySql.Number.Shortest
import Mathlib

/-!
# Rounding to a double

Of a number that is not a double only its leading bits are kept, and two more that say how the
rest compares to half of the last one. This is enough to round to the nearest double, ties to an
even significand: the number is shifted to the last place that a double has for it, and to the next
one where rounding carries. What is proved is stated over exact rationals, for every number in the
interval that rounds to a given double, and used for quotients.
-/

open Float.Model Float.Model.UnpackedFloat

namespace EntitySql.Number

/-! ## Kept bits -/

/-- The bits that are kept of a number: its whole part, whether the rest is at least a half, and
whether it is neither nothing nor a half. -/
structure Keeps (x : ExtendedMantissa) (r : ℚ) : Prop where
  floor_le : (x.mantissa : ℚ) ≤ r
  lt_succ : r < x.mantissa + 1
  half : x.roundBit = true ↔ x.mantissa + 1 / 2 ≤ r
  rest : x.stickyBit = true ↔ r ≠ x.mantissa ∧ r ≠ x.mantissa + 1 / 2

variable {x : ExtendedMantissa} {q r : ℚ}

/-- All that is left of the whole part is in the two bits. -/
theorem Keeps.or_bits (h : Keeps x r) : (x.roundBit || x.stickyBit) = true ↔ r ≠ x.mantissa := by
  rw [Bool.or_eq_true, h.half, h.rest]
  constructor
  · rintro (hhalf | ⟨hne, -⟩)
    · exact (lt_of_lt_of_le (by linarith) hhalf).ne'
    · exact hne
  · intro hne
    by_cases hhalf : r = x.mantissa + 1 / 2
    · exact .inl hhalf.ge
    · exact .inr ⟨hne, hhalf⟩

theorem Keeps.shiftRightOne (h : Keeps x r) : Keeps x.shiftRightOne (r / 2) := by
  have hlow := h.floor_le
  have hhigh := h.lt_succ
  have hbits := h.or_bits
  unfold ExtendedMantissa.shiftRightOne
  obtain ⟨m, round, sticky⟩ := x
  obtain ⟨k, rfl | rfl⟩ := Nat.even_or_odd' m
  · have hhalf : 2 * k / 2 = k := by omega
    have hbit : (2 * k % 2 != 0) = false := by
      rw [Nat.mul_mod_right]
      rfl
    dsimp only at hlow hhigh hbits ⊢
    rw [hhalf, hbit]
    push_cast at hlow hhigh hbits
    refine ⟨by linarith, by linarith, iff_of_false (by simp) (by linarith), ?_⟩
    rw [hbits]
    constructor
    · exact fun hne ↦ ⟨fun h ↦ hne (by linarith), by linarith⟩
    · exact fun hne h ↦ hne.1 (by linarith)
  · have hhalf : (2 * k + 1) / 2 = k := by omega
    have hbit : ((2 * k + 1) % 2 != 0) = true := by
      rw [Nat.mul_add_mod]
      rfl
    dsimp only at hlow hhigh hbits ⊢
    rw [hhalf, hbit]
    push_cast at hlow hhigh hbits
    refine ⟨by linarith, by linarith, iff_of_true rfl (by linarith), ?_⟩
    rw [hbits]
    constructor
    · exact fun hne ↦ ⟨by linarith, fun h ↦ hne (by linarith)⟩
    · exact fun hne h ↦ hne.2 (by linarith)

theorem Keeps.shiftRight (h : Keeps x r) (n : Nat) : Keeps (x >>> n) (r / 2 ^ n) := by
  induction n with
  | zero => simpa [HShiftRight.hShiftRight, Nat.repeat] using h
  | succ n ih =>
    rw [pow_succ, ← div_div]
    exact ih.shiftRightOne

/-- The whole number nearest to another, where an odd one has to be nearer than half a unit. -/
structure Nearest (n : Nat) (r : ℚ) : Prop where
  low : n - 1 / 2 ≤ r
  high : r ≤ n + 1 / 2
  odd : n % 2 = 1 → n - 1 / 2 < r ∧ r < n + 1 / 2

theorem Keeps.roundedMantissa_eq (h : Keeps x r) {n : Nat} (hn : Nearest n r) :
    x.roundedMantissa = n := by
  have hlow := h.floor_le
  have hhigh := h.lt_succ
  have hhalf := h.half
  have hrest := h.rest
  have hnlow := hn.low
  have hnhigh := hn.high
  have hodd := hn.odd
  obtain ⟨m, round, sticky⟩ := x
  dsimp only at hlow hhigh hhalf hrest
  have hcases : n = m ∨ n = m + 1 := by
    have h1 : (m : ℚ) < n + 1 := by linarith
    have h2 : (n : ℚ) < m + 2 := by linarith
    norm_cast at h1 h2
    omega
  cases round with
  | false =>
    have hm : n = m := by
      rcases hcases with rfl | rfl
      · rfl
      · push_cast at hnlow
        exact absurd (hhalf.2 (by linarith)) (by decide)
    cases sticky <;> exact hm.symm
  | true =>
    have hle := hhalf.1 rfl
    cases sticky with
    | false =>
      have heq : r = m + 1 / 2 := by
        by_contra hne
        exact absurd (hrest.2 ⟨by linarith, hne⟩) (by decide)
      change m + m % 2 = n
      rcases hcases with rfl | rfl
      · have hstrict : n % 2 ≠ 1 := fun hone ↦ by linarith [(hodd hone).2]
        omega
      · have hstrict : (m + 1) % 2 ≠ 1 := fun hone ↦ by
          have hlt := (hodd hone).1
          push_cast at hlt
          linarith
        omega
    | true =>
      have hne := (hrest.1 rfl).2
      rcases hcases with rfl | rfl
      · exact absurd (le_antisymm hnhigh hle) hne
      · rfl

/-! ## The place of the last bit -/

/-- The exponent of the last bit that a double keeps of a number. -/
def lastPlace (q : ℚ) : Int := max (Int.log 2 q - 52) (-1074)

theorem targetExponent_eq (total : Int) :
    Format.binary64.targetExponent total = max (total - 53) (-1074) := rfl

theorem log_mul_zpow (hr : 0 < r) (t : Int) : Int.log 2 (r * 2 ^ t) = Int.log 2 r + t := by
  have hpos : 0 < r * 2 ^ t := by positivity
  apply le_antisymm
  · rw [← Int.lt_add_one_iff, ← Int.lt_zpow_iff_log_lt (by decide) hpos]
    have h := Int.lt_zpow_succ_log_self (b := 2) (by decide) r
    have h2 : (0 : ℚ) < 2 ^ t := by positivity
    calc
      r * 2 ^ t < (2 : ℕ) ^ (Int.log 2 r + 1) * 2 ^ t := mul_lt_mul_of_pos_right h h2
      _ = (2 : ℕ) ^ (Int.log 2 r + t + 1) := by
        rw [Nat.cast_ofNat, ← zpow_add₀ (by norm_num)]
        ring_nf
  · rw [← Int.zpow_le_iff_le_log (by decide) hpos]
    have h := Int.zpow_log_le_self (b := 2) (by decide) hr
    calc
      ((2 : ℕ) : ℚ) ^ (Int.log 2 r + t) = (2 : ℕ) ^ Int.log 2 r * 2 ^ t := by
        rw [Nat.cast_ofNat, zpow_add₀ (by norm_num)]
      _ ≤ r * 2 ^ t := by gcongr

theorem Keeps.log2_eq (h : Keeps x r) (hr : 1 ≤ r) : (x.mantissa.log2 : Int) = Int.log 2 r := by
  have hfloor : ⌊r⌋₊ = x.mantissa := by
    rw [Nat.floor_eq_iff (by linarith)]
    exact ⟨h.floor_le, h.lt_succ⟩
  rw [Int.log_of_one_le_right 2 hr, hfloor, Nat.log2_eq_log_two]

theorem mantissa_ofMantissaAndAccuracy (m : Nat) (accuracy : Accuracy) :
    (ExtendedMantissa.ofMantissaAndAccuracy m accuracy).mantissa = m := by
  cases accuracy with
  | exact => rfl
  | inexact order => cases order <;> rfl

/-- The exponent to which the bits of a number are shifted, where enough of them are kept. -/
theorem Keeps.targetExponent_eq {t : Int} (h : Keeps x r) (hr : 0 < r)
    (hfine : t ≤ -1074 ∨ 2 ^ 52 ≤ r) :
    Format.binary64.targetExponent (totalExponent x.mantissa t) = lastPlace (r * 2 ^ t) := by
  rw [EntitySql.Number.targetExponent_eq, totalExponent, lastPlace, log_mul_zpow hr]
  rcases le_or_gt 1 r with hone | hone
  · rw [h.log2_eq hone]
    omega
  · have hlog : Int.log 2 r < 0 :=
      (Int.lt_zpow_iff_log_lt (b := 2) (by decide) hr).1 (by simpa using hone)
    have hzero : x.mantissa = 0 := by
      have hlt := h.floor_le.trans_lt hone
      norm_cast at hlt
      omega
    have ht : t ≤ -1074 := hfine.resolve_right (by linarith)
    rw [hzero, Nat.log2_zero]
    omega

theorem le_lastPlace {t : Int} (hr : 0 < r) (hfine : t ≤ -1074 ∨ 2 ^ 52 ≤ r) :
    t ≤ lastPlace (r * 2 ^ t) := by
  rw [lastPlace, log_mul_zpow hr]
  rcases hfine with ht | hbits
  · omega
  · have hlog : 52 ≤ Int.log 2 r :=
      (Int.zpow_le_iff_le_log (b := 2) (by decide) hr).1 (by exact_mod_cast hbits)
    omega

/-- A number of which enough bits are kept is shifted to the last place of a double. -/
theorem shiftToTargetExponent_eq {m : Nat} {t : Int} {accuracy : Accuracy}
    (h : Keeps (.ofMantissaAndAccuracy m accuracy) r) (hr : 0 < r)
    (hfine : t ≤ -1074 ∨ 2 ^ 52 ≤ r) :
    ∃ y, shiftToTargetExponent .binary64 m t accuracy = (y, lastPlace (r * 2 ^ t)) ∧
      Keeps y (r * 2 ^ t / 2 ^ lastPlace (r * 2 ^ t)) := by
  have htarget := h.targetExponent_eq hr hfine
  have hle := le_lastPlace hr hfine
  rw [mantissa_ofMantissaAndAccuracy] at htarget
  obtain ⟨n, hn⟩ := Int.le.dest hle
  refine ⟨ExtendedMantissa.ofMantissaAndAccuracy m accuracy >>> n, ?_, ?_⟩
  · rw [shiftToTargetExponent, htarget, shiftToExponent, ← hn]
    simp only [add_sub_cancel_left, Int.toNat_natCast]
  · have hvalue : r * 2 ^ t / 2 ^ lastPlace (r * 2 ^ t) = r / 2 ^ n := by
      rw [← hn, zpow_add₀ (by norm_num), zpow_natCast]
      field_simp
    rw [hvalue]
    exact h.shiftRight n

/-! ## Doubles -/

/-- The numbers `m * 2 ^ e` that are finite doubles, each in its own form. -/
structure Canonical (m : Nat) (e : Int) : Prop where
  pos : 0 < m
  lt : m < 2 ^ 53
  normal : e = -1074 ∨ 2 ^ 52 ≤ m
  low : -1074 ≤ e
  high : e ≤ 971

/-- The numbers that round to `m * 2 ^ e`: down to its lower neighbour and up to its upper one as
far as half the way, and not quite so far where `m` is odd. -/
structure RoundsTo (q : ℚ) (m : Nat) (e : Int) : Prop where
  low : (4 * m - Decimal.quartersBelow m e) * 2 ^ e ≤ 4 * q
  high : 4 * q ≤ (4 * m + 2) * 2 ^ e
  odd : m % 2 = 1 →
    (4 * m - Decimal.quartersBelow m e) * 2 ^ e < 4 * q ∧ 4 * q < (4 * m + 2) * 2 ^ e

variable {m : Nat} {e : Int}

theorem lastPlace_of_le (hlow : (2 : ℚ) ^ (e + 52) ≤ q) (hhigh : q < 2 ^ (e + 53))
    (he : -1074 ≤ e) : lastPlace q = e := by
  have hq : 0 < q := lt_of_lt_of_le (by positivity) hlow
  have h1 := (Int.zpow_le_iff_le_log (b := 2) (by decide) hq).1 (by exact_mod_cast hlow)
  have h2 := (Int.lt_zpow_iff_log_lt (b := 2) (by decide) hq).1 (by exact_mod_cast hhigh)
  rw [lastPlace]
  omega

theorem lastPlace_of_lt (hq : 0 < q) (hhigh : q < 2 ^ (-1021 : Int)) : lastPlace q = -1074 := by
  have h2 := (Int.lt_zpow_iff_log_lt (b := 2) (by decide) hq).1 (by exact_mod_cast hhigh)
  rw [lastPlace]
  omega

theorem quartersBelow_le (m : Nat) (e : Int) : Decimal.quartersBelow m e ≤ 2 := by
  unfold Decimal.quartersBelow
  split <;> omega

theorem one_le_quartersBelow (m : Nat) (e : Int) : 1 ≤ Decimal.quartersBelow m e := by
  unfold Decimal.quartersBelow
  split <;> omega

/-- A double rounds to itself. -/
theorem RoundsTo.self (m : Nat) (e : Int) (hq : q = m * 2 ^ e) : RoundsTo q m e := by
  have hunit : (0 : ℚ) < 2 ^ e := by positivity
  have hquarters : (1 : ℚ) ≤ Decimal.quartersBelow m e := by
    exact_mod_cast one_le_quartersBelow m e
  subst hq
  have hlow : (4 * m - Decimal.quartersBelow m e) * (2 : ℚ) ^ e < 4 * (m * 2 ^ e) := by
    rw [← mul_assoc]
    gcongr
    linarith
  have hhigh : 4 * (m * (2 : ℚ) ^ e) < (4 * m + 2) * 2 ^ e := by
    rw [← mul_assoc]
    gcongr
    linarith
  exact ⟨hlow.le, hhigh.le, fun _ ↦ ⟨hlow, hhigh⟩⟩

theorem RoundsTo.pos (h : RoundsTo q m e) (hm : 0 < m) : 0 < q := by
  have hlow := h.low
  have hquarters : (Decimal.quartersBelow m e : ℚ) ≤ 2 := by exact_mod_cast quartersBelow_le m e
  have hm' : (1 : ℚ) ≤ m := by exact_mod_cast hm
  have hunit : (0 : ℚ) < 2 ^ e := by positivity
  have hleft : 0 < (4 * m - Decimal.quartersBelow m e) * (2 : ℚ) ^ e :=
    mul_pos (by linarith) hunit
  linarith

/-- Counted in units of the last place of a double, a number that rounds to it is nearest to its
significand. -/
theorem RoundsTo.nearest (h : RoundsTo q m e) : Nearest m (q / 2 ^ e) := by
  have hunit : (0 : ℚ) < 2 ^ e := by positivity
  have hquarters : (Decimal.quartersBelow m e : ℚ) ≤ 2 := by exact_mod_cast quartersBelow_le m e
  have hlow := h.low
  have hhigh := h.high
  have hodd := h.odd
  have hvalue : q = q / 2 ^ e * 2 ^ e := by field_simp
  generalize q / 2 ^ e = r at *
  rw [hvalue, ← mul_assoc, mul_le_mul_iff_left₀ hunit] at hlow hhigh
  rw [hvalue, ← mul_assoc, mul_lt_mul_iff_left₀ hunit, mul_lt_mul_iff_left₀ hunit] at hodd
  refine ⟨by linarith, by linarith, fun hone ↦ ⟨?_, ?_⟩⟩
  · linarith [(hodd hone).1]
  · linarith [(hodd hone).2]

theorem RoundsTo.lt (h : RoundsTo q m e) (hm : m < 2 ^ 53) : q < 2 ^ (e + 53) := by
  have hhigh := h.nearest.high
  have hunit : (0 : ℚ) < 2 ^ e := by positivity
  have hm' : (m : ℚ) + 1 ≤ 2 ^ 53 := by exact_mod_cast hm
  rw [div_le_iff₀ hunit] at hhigh
  calc
    q ≤ (m + 1 / 2) * 2 ^ e := hhigh
    _ < 2 ^ 53 * 2 ^ e := by
      apply mul_lt_mul_of_pos_right _ hunit
      linarith
    _ = 2 ^ (e + 53) := by
      rw [zpow_add₀ (by norm_num), mul_comm]
      norm_num

/-- Below a power of two the doubles lie closer together, so that a number there which rounds up
to it is nearest to it also in units of half the size. -/
theorem RoundsTo.nearest_below (h : RoundsTo q m e) (hc : Canonical m e) (he : -1074 < e)
    (hq : q < 2 ^ (e + 52)) : m = 2 ^ 52 ∧ Nearest (2 ^ 53) (q / 2 ^ (e - 1)) := by
  have hunit : (0 : ℚ) < 2 ^ e := by positivity
  have hpow : (2 : ℚ) ^ (e + 52) = 2 ^ 52 * 2 ^ e := by
    rw [zpow_add₀ (by norm_num), mul_comm]
    norm_num
  have hhalf : (2 : ℚ) ^ (e - 1) = 2 ^ e / 2 := by
    rw [zpow_sub₀ (by norm_num), zpow_one]
  have hm : m = 2 ^ 52 := by
    have hnear := h.nearest.low
    rw [le_div_iff₀ hunit] at hnear
    have hlt : (m - 1 / 2 : ℚ) < 2 ^ 52 :=
      lt_of_mul_lt_mul_right (hnear.trans_lt (hpow ▸ hq)) hunit.le
    have hlt' : (m : ℚ) < 2 ^ 52 + 1 := by linarith
    have hle : 2 ^ 52 ≤ m := hc.normal.resolve_left (by omega)
    norm_cast at hlt'
    omega
  subst hm
  have hquarter : Decimal.quartersBelow (2 ^ 52) e = 1 := if_pos ⟨rfl, he⟩
  have hlow := h.low
  rw [hquarter] at hlow
  push_cast at hlow
  refine ⟨rfl, ?_, ?_, fun hone ↦ absurd hone (by norm_num)⟩
  · rw [hhalf, le_div_iff₀ (by positivity)]
    push_cast
    linarith
  · rw [hhalf, div_le_iff₀ (by positivity)]
    rw [hpow] at hq
    push_cast
    linarith

/-- Counted in units of the last place that is kept of it, a number that rounds to a double is
nearest to a whole number, which is the same double. -/
theorem RoundsTo.nearest_lastPlace (h : RoundsTo q m e) (hc : Canonical m e) :
    ∃ n : Nat, Nearest n (q / 2 ^ lastPlace q) ∧ (n : ℚ) * 2 ^ lastPlace q = m * 2 ^ e := by
  have hlt := h.lt hc.lt
  rcases hc.normal with rfl | hm
  · rw [lastPlace_of_lt (h.pos hc.pos) (by simpa using hlt)]
    exact ⟨m, h.nearest, rfl⟩
  rcases le_or_gt (2 ^ (e + 52)) q with hle | hgt
  · rw [lastPlace_of_le hle hlt hc.low]
    exact ⟨m, h.nearest, rfl⟩
  rcases hc.low.eq_or_lt with rfl | he
  · rw [lastPlace_of_lt (h.pos hc.pos) (by simpa using hlt)]
    exact ⟨m, h.nearest, rfl⟩
  obtain ⟨rfl, hnearest⟩ := h.nearest_below hc he hgt
  have hhalf : (2 : ℚ) ^ e = 2 * 2 ^ (e - 1) := by
    rw [zpow_sub₀ (by norm_num), zpow_one]
    ring
  have hlow := hnearest.low
  rw [le_div_iff₀ (by positivity)] at hlow
  have hplace : lastPlace q = e - 1 := by
    apply lastPlace_of_le _ _ (by omega)
    · have hpow : (2 : ℚ) ^ (e - 1 + 52) = 2 ^ 52 * 2 ^ (e - 1) := by
        rw [zpow_add₀ (by norm_num), mul_comm]
        norm_num
      have hunit : (0 : ℚ) < 2 ^ (e - 1) := by positivity
      rw [hpow]
      push_cast at hlow
      linarith
    · rw [sub_add]
      norm_num
      exact hgt
  rw [hplace]
  refine ⟨2 ^ 53, hnearest, ?_⟩
  rw [hhalf]
  push_cast
  ring

theorem Canonical.lastPlace_eq (hc : Canonical m e) : lastPlace (m * 2 ^ e) = e := by
  have hunit : (0 : ℚ) < 2 ^ e := by positivity
  have hm : (0 : ℚ) < m := by exact_mod_cast hc.pos
  have hlt : (m : ℚ) * 2 ^ e < 2 ^ (e + 53) := by
    rw [zpow_add₀ (by norm_num), mul_comm]
    gcongr
    exact_mod_cast hc.lt
  rcases hc.normal with rfl | hle
  · exact lastPlace_of_lt (by positivity) (by simpa using hlt)
  · apply lastPlace_of_le _ hlt hc.low
    rw [zpow_add₀ (by norm_num), mul_comm]
    gcongr
    exact_mod_cast hle

theorem lastPlace_fine (hq : 0 < q) : lastPlace q ≤ -1074 ∨ 2 ^ 52 ≤ q / 2 ^ lastPlace q := by
  rw [lastPlace]
  rcases le_or_gt (Int.log 2 q - 52) (-1074) with hle | hgt
  · exact .inl (max_le hle le_rfl)
  · right
    rw [max_eq_left hgt.le, le_div_iff₀ (by positivity)]
    have hlog := Int.zpow_log_le_self (b := 2) (by decide) hq
    calc
      (2 : ℚ) ^ 52 * 2 ^ (Int.log 2 q - 52) = ((2 : ℕ) : ℚ) ^ Int.log 2 q := by
        rw [zpow_sub₀ (by norm_num)]
        norm_num
        ring
      _ ≤ q := hlog

theorem Nearest.le_of_le {n k : Nat} (h : Nearest n r) (hk : (k : ℚ) ≤ r) : k ≤ n := by
  have hlt : (k : ℚ) < n + 1 := by linarith [h.high]
  norm_cast at hlt
  omega

theorem keeps_exact (n : Nat) : Keeps (.ofMantissaAndAccuracy n .exact) n := by
  refine ⟨le_rfl, by simp [ExtendedMantissa.ofMantissaAndAccuracy], ?_, ?_⟩
  · simp [ExtendedMantissa.ofMantissaAndAccuracy]
  · simp [ExtendedMantissa.ofMantissaAndAccuracy]

theorem Keeps.mantissa_eq {n : Nat} (h : Keeps x n) : x.mantissa = n := by
  have hlow := h.floor_le
  have hhigh := h.lt_succ
  norm_cast at hlow hhigh
  omega

/-- Rounding a number of which enough bits are kept gives the double that it rounds to. -/
theorem roundWithAccuracy_eq {t : Int} {n : Nat} {accuracy : Accuracy} {sign : Sign}
    (hc : Canonical m e) (hkeeps : Keeps (.ofMantissaAndAccuracy n accuracy) r)
    (hfine : t ≤ -1074 ∨ 2 ^ 52 ≤ r) (h : RoundsTo (r * 2 ^ t) m e) :
    roundWithAccuracy .binary64 sign n t accuracy = .finite sign m e hc.pos := by
  have hq := h.pos hc.pos
  have hr : 0 < r := pos_of_mul_pos_left hq (by positivity)
  obtain ⟨y, hy, hkeepsY⟩ := shiftToTargetExponent_eq hkeeps hr hfine
  obtain ⟨k, hk, hvalue⟩ := h.nearest_lastPlace hc
  have hrounded := hkeepsY.roundedMantissa_eq hk
  generalize r * 2 ^ t = q at *
  have hkpos : (0 : ℚ) < k := by
    have hm : (0 : ℚ) < m := by exact_mod_cast hc.pos
    have hpos : (0 : ℚ) < k * 2 ^ lastPlace q := by
      rw [hvalue]
      positivity
    exact pos_of_mul_pos_left hpos (by positivity)
  have hkfine : lastPlace q ≤ -1074 ∨ 2 ^ 52 ≤ (k : ℚ) :=
    (lastPlace_fine hq).imp_right fun hle ↦ by
      exact_mod_cast hk.le_of_le (k := 2 ^ 52) (by exact_mod_cast hle)
  obtain ⟨z, hz, hkeepsZ⟩ := shiftToTargetExponent_eq (keeps_exact k) hkpos hkfine
  rw [hvalue, hc.lastPlace_eq] at hz hkeepsZ
  rw [mul_div_cancel_right₀ _ (by positivity)] at hkeepsZ
  have hmantissa := hkeepsZ.mantissa_eq
  obtain ⟨zm, zr, zs⟩ := z
  dsimp only at hmantissa
  subst hmantissa
  rw [roundWithAccuracy, hy]
  dsimp only
  rw [hrounded, hz]
  exact dif_neg hc.pos.ne'

/-! ## Quotients -/

/-- The whole part of a quotient with how the remainder compares to half the divisor. -/
theorem keeps_quotient (a : Nat) {b : Nat} (hb : 0 < b) :
    Keeps (.ofMantissaAndAccuracy (a / b) (accuracyOfFraction (a % b) b)) (a / b) := by
  have hsplit : (a : ℚ) = b * (a / b : Nat) + (a % b : Nat) := by
    exact_mod_cast (Nat.div_add_mod a b).symm
  have hb' : (0 : ℚ) < b := by exact_mod_cast hb
  have hmod : ((a % b : Nat) : ℚ) < b := by exact_mod_cast Nat.mod_lt a hb
  have hvalue : (a : ℚ) / b = (a / b : Nat) + (a % b : Nat) / b := by
    rw [hsplit]
    field_simp
  rw [hvalue]
  generalize a / b = n at *
  generalize a % b = k at *
  unfold accuracyOfFraction
  split
  · next hk =>
    rw [hk, Nat.cast_zero, zero_div, add_zero]
    exact keeps_exact n
  · next hk =>
    have hpos : (0 : ℚ) < k / b := by
      have hk' : (0 : ℚ) < k := by exact_mod_cast Nat.pos_of_ne_zero hk
      positivity
    have hlt : (k : ℚ) / b < 1 := (div_lt_one hb').2 hmod
    have hhalf : (k : ℚ) / b < 1 / 2 ↔ 2 * k < b := by
      rw [div_lt_div_iff₀ hb' (by norm_num)]
      norm_cast
      omega
    have heq : (k : ℚ) / b = 1 / 2 ↔ 2 * k = b := by
      rw [div_eq_div_iff hb'.ne' (by norm_num)]
      norm_cast
      omega
    have hfloor : (n : ℚ) ≤ n + k / b ∧ n + (k : ℚ) / b < n + 1 := ⟨by linarith, by linarith⟩
    cases horder : compare (2 * k) b with
    | lt =>
      have hless := hhalf.2 (Nat.compare_eq_lt.1 horder)
      refine ⟨hfloor.1, hfloor.2, iff_of_false Bool.false_ne_true ?_,
        iff_of_true rfl ⟨?_, ?_⟩⟩
      all_goals dsimp only [ExtendedMantissa.ofMantissaAndAccuracy]; linarith
    | eq =>
      have hsame := heq.2 (Nat.compare_eq_eq.1 horder)
      refine ⟨hfloor.1, hfloor.2, iff_of_true rfl ?_,
        iff_of_false Bool.false_ne_true ?_⟩
      · rw [hsame]
        exact le_rfl
      · rw [hsame]
        exact fun hne ↦ hne.2 rfl
    | gt =>
      have hmore : (1 : ℚ) / 2 < k / b := by
        have hgt := Nat.compare_eq_gt.1 horder
        apply lt_of_le_of_ne
        · rw [← not_lt, hhalf]
          omega
        · intro hsame
          have := heq.1 hsame.symm
          omega
      refine ⟨hfloor.1, hfloor.2, iff_of_true rfl ?_, iff_of_true rfl ⟨?_, ?_⟩⟩
      all_goals dsimp only [ExtendedMantissa.ofMantissaAndAccuracy]; linarith

/-- Shifted by as much as its divisor is longer, and by 53 bits, a dividend has a quotient of as
many bits as a double keeps. -/
theorem shift_dividend {m₁ k : Nat} (h₁ : 0 < m₁) (m₂ : Nat)
    (hk : m₂.log2 + 53 ≤ m₁.log2 + k) : 2 ^ 52 * m₂ ≤ m₁ <<< k := by
  rw [Nat.shiftLeft_eq]
  calc
    2 ^ 52 * m₂ ≤ 2 ^ 52 * 2 ^ (m₂.log2 + 1) := by
      have hlt := Nat.lt_log2_self (n := m₂)
      gcongr
    _ = 2 ^ (m₂.log2 + 53) := by
      rw [← pow_add]
      congr 1
      omega
    _ ≤ 2 ^ (m₁.log2 + k) := Nat.pow_le_pow_right (by decide) hk
    _ = 2 ^ m₁.log2 * 2 ^ k := pow_add 2 _ _
    _ ≤ m₁ * 2 ^ k := by
      have hle := Nat.log2_self_le h₁.ne'
      gcongr

/-- A quotient is divided finely enough to be rounded. -/
theorem divCore_keeps {m₁ m₂ : Nat} {e₁ e₂ : Int} (h₁ : 0 < m₁) (h₂ : 0 < m₂) {n : Nat} {t : Int}
    {accuracy : Accuracy} (h : divCore .binary64 m₁ e₁ m₂ e₂ = (n, t, accuracy)) :
    ∃ r : ℚ, Keeps (.ofMantissaAndAccuracy n accuracy) r ∧ (t ≤ -1074 ∨ 2 ^ 52 ≤ r) ∧
      r * 2 ^ t = (m₁ * 2 ^ e₁) / (m₂ * 2 ^ e₂) := by
  unfold divCore at h
  rw [targetExponent_eq, totalExponent, totalExponent] at h
  generalize ht : min (e₁ - e₂) (max (m₁.log2 + 1 + e₁ - (m₂.log2 + 1 + e₂) - 53) (-1074)) =
    target at h
  cases h
  have hle : t ≤ e₁ - e₂ := ht ▸ min_le_left _ _
  obtain ⟨k, hk⟩ := Int.le.dest hle
  have hshift : (e₁ - e₂ - t).toNat = k := by omega
  have hm₂ : (0 : ℚ) < m₂ := by exact_mod_cast h₂
  rw [hshift]
  refine ⟨_, keeps_quotient (m₁ <<< k) h₂, ?_, ?_⟩
  · rcases le_or_gt t (-1074) with hmin | hmin
    · exact .inl hmin
    · right
      have hbits := shift_dividend (k := k) h₁ m₂ (by omega)
      rw [le_div_iff₀ hm₂]
      exact_mod_cast hbits
  · have he₁ : e₁ = t + k + e₂ := by omega
    rw [he₁, Nat.shiftLeft_eq, zpow_add₀ (by norm_num), zpow_add₀ (by norm_num), zpow_natCast]
    push_cast
    field_simp

/-- A quotient is the double that it rounds to. -/
theorem div_eq {m₁ m₂ : Nat} {e₁ e₂ : Int} {s₁ s₂ : Sign} (h₁ : 0 < m₁) (h₂ : 0 < m₂)
    (hc : Canonical m e) (h : RoundsTo ((m₁ * 2 ^ e₁) / (m₂ * 2 ^ e₂)) m e) :
    UnpackedFloat.div .binary64 (.finite s₁ m₁ e₁ h₁) (.finite s₂ m₂ e₂ h₂) =
      .finite (s₁ / s₂) m e hc.pos := by
  rw [UnpackedFloat.div]
  cases hdiv : divCore .binary64 m₁ e₁ m₂ e₂ with
  | mk n rest =>
    obtain ⟨t, accuracy⟩ := rest
    obtain ⟨r, hkeeps, hfine, hvalue⟩ := divCore_keeps h₁ h₂ hdiv
    exact roundWithAccuracy_eq hc hkeeps hfine (hvalue ▸ h)

end EntitySql.Number
