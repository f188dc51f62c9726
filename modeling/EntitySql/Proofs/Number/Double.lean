import EntitySql.Proofs.Number.Rounding

/-!
# Doubles and their bits

A finite double other than zero has one significand and one exponent, with the significand as long
as it can be. These are read back from its bits, and two doubles with the same reading are the same.
Whole numbers of up to 53 bits are doubles.
-/

open Float.Model Float.Model.UnpackedFloat

namespace EntitySql.Number

variable {m : Nat} {e : Int}

/-! ## Bits -/

theorem toNat_one_append (v : BitVec 52) : (1#1 ++ v).toNat = 2 ^ 52 + v.toNat := by
  rw [BitVec.toNat_append, ← Nat.shiftLeft_add_eq_or_of_lt v.isLt, Nat.shiftLeft_eq]
  rfl

theorem pack_finite (sign : Sign) (m : Nat) (e : Int) (hm : 0 < m) :
    UnpackedFloat.pack .binary64 (.finite sign m e hm) =
      if 2 ^ 11 ≤ (e + 1023 + 52).toNat + 1 then packedInfinity .binary64 sign
      else if m.log2 + 1 = 53 then
        packComponents .binary64 sign (.ofNat 11 (e + 1023 + 52).toNat) (.ofNat 52 m)
      else packComponents .binary64 sign (0#11) (.ofNat 52 m) := rfl

theorem unpack_normal (sign : Sign) {exponent : BitVec 11} (hzero : exponent ≠ 0#11)
    (hones : exponent ≠ -1#11) (fraction : BitVec 52) (hm : 2 ^ 52 + fraction.toNat = m)
    (he : (exponent.toNat : Int) - 1075 = e) (hpos : 0 < m) :
    UnpackedFloat.unpack .binary64 (packComponents .binary64 sign exponent fraction) =
      .finite sign m e hpos := by
  subst he
  rw [← toNat_one_append] at hm
  subst hm
  unfold UnpackedFloat.unpack
  simp only [unpackExponent_packComponents, unpackMantissa_packComponents,
    unpackSign_packComponents, Sign.ofBitVec_toBitVec]
  rw [if_neg hones, if_neg hzero]
  rfl

theorem unpack_subnormal (sign : Sign) {fraction : BitVec 52} (hm : fraction.toNat = m)
    (hpos : 0 < m) :
    UnpackedFloat.unpack .binary64 (packComponents .binary64 sign (0#11) fraction) =
      .finite sign m (-1074) hpos := by
  subst hm
  have hne : fraction ≠ 0#52 := by
    rintro rfl
    exact absurd hpos (by decide)
  unfold UnpackedFloat.unpack
  simp only [unpackExponent_packComponents, unpackMantissa_packComponents,
    unpackSign_packComponents, Sign.ofBitVec_toBitVec]
  rw [if_neg (by decide), if_pos trivial, dif_neg hne]
  rfl

/-- A double is read back from its bits. -/
theorem unpack_pack {sign : Sign} (hc : Canonical m e) :
    UnpackedFloat.unpack .binary64 (UnpackedFloat.pack .binary64 (.finite sign m e hc.pos)) =
      .finite sign m e hc.pos := by
  have hlow := hc.low
  have hhigh := hc.high
  have hm := hc.lt
  rw [pack_finite, if_neg (by omega)]
  rcases Nat.lt_or_ge m (2 ^ 52) with hlt | hge
  · have hlog : ¬ m.log2 + 1 = 53 := by
      have := (Nat.log2_lt hc.pos.ne').2 hlt
      omega
    obtain rfl : e = -1074 := hc.normal.resolve_right (by omega)
    rw [if_neg hlog]
    apply unpack_subnormal
    rw [BitVec.toNat_ofNat, Nat.mod_eq_of_lt hlt]
  · have hlog : m.log2 + 1 = 53 := by
      rw [(Nat.log2_eq_iff hc.pos.ne').2 ⟨hge, hm⟩]
    have hexponent : (BitVec.ofNat 11 (e + 1023 + 52).toNat).toNat = (e + 1075).toNat := by
      rw [BitVec.toNat_ofNat]
      omega
    rw [if_pos hlog]
    apply unpack_normal
    · intro hzero
      have := congrArg BitVec.toNat hzero
      rw [hexponent] at this
      have hzero' : (0#11).toNat = 0 := rfl
      omega
    · intro hones
      have := congrArg BitVec.toNat hones
      rw [hexponent] at this
      have hones' : (-1#11).toNat = 2047 := rfl
      omega
    · rw [BitVec.toNat_ofNat]
      omega
    · rw [hexponent]
      omega

theorem unpack_injective {x y : Float} (h : x.toModel.unpack = y.toModel.unpack) : x = y := by
  obtain ⟨⟨⟨x⟩, hx⟩⟩ := x
  obtain ⟨⟨⟨y⟩, hy⟩⟩ := y
  have hbits : x = y := (unpack_inj_of_valid hx hy).1 h
  subst hbits
  rfl

def signOf (negative : Bool) : Sign := if negative then .negative else .positive

section Fields

variable (b : BitVec 64)

theorem toNat_unpackExponent :
    (@unpackExponent .binary64 b).toNat = b.toNat / 2 ^ 52 % 2 ^ 11 := by
  rw [unpackExponent_def]
  simp only [BitVec.extractLsb'_toNat, Nat.shiftRight_eq_div_pow]

theorem toNat_unpackMantissa :
    (@unpackMantissa .binary64 b).toNat = b.toNat % 2 ^ 52 := by
  rw [unpackMantissa_def]
  simp only [BitVec.extractLsb'_toNat, Nat.shiftRight_zero]

theorem ofBitVec_unpackSign :
    Sign.ofBitVec (@unpackSign .binary64 b) = signOf (b.toNat / 2 ^ 63 == 1) := by
  have hbit : (@unpackSign .binary64 b).toNat = b.toNat / 2 ^ 63 % 2 := by
    rw [unpackSign_def]
    simp only [BitVec.extractLsb'_toNat, Nat.shiftRight_eq_div_pow]
  have hlt := b.isLt
  unfold Sign.ofBitVec signOf
  have hzero : @unpackSign .binary64 b = 0#1 ↔ ¬ (b.toNat / 2 ^ 63 == 1) = true := by
    rw [← BitVec.toNat_inj, hbit, beq_iff_eq]
    change b.toNat / 2 ^ 63 % 2 = 0 ↔ _
    omega
  by_cases h : (b.toNat / 2 ^ 63 == 1) = true
  · rw [if_neg (mt hzero.1 (not_not.2 h)), if_pos h]
  · rw [if_pos (hzero.2 h), if_neg h]

end Fields

/-- The fields of a double, as they are unpacked and as its exact value is read from them. -/
theorem exists_fields (x : Float) :
    ∃ (negative : Bool) (exponent : BitVec 11) (fraction : BitVec 52),
      x.toModel.unpack = UnpackedFloat.unpack .binary64
        (packComponents .binary64 (signOf negative) exponent fraction) ∧
      Binary64.ofFloat x =
        if exponent.toNat = 2047 then
          if fraction.toNat = 0 then .infinite negative else .nan
        else if exponent.toNat = 0 then .finite negative fraction.toNat (-1074)
        else .finite negative (2 ^ 52 + fraction.toNat) ((exponent.toNat : Int) - 1075) := by
  let bits := x.toModel.toBits.toBitVec
  have hparts := @packComponents_unpackSign_unpackExponent_unpackMantissa .binary64 bits
  rw [ofBitVec_unpackSign] at hparts
  refine ⟨bits.toNat / 2 ^ 63 == 1, @unpackExponent .binary64 bits,
    @unpackMantissa .binary64 bits, ?_, ?_⟩
  · rw [hparts]
    rfl
  · rw [toNat_unpackExponent, toNat_unpackMantissa]
    rfl

section Unpacked

variable {x : Float} {negative : Bool}

/-- The exact value of a double, other than zero, is what its bits unpack to. -/
theorem unpack_of_ofFloat (hm : 0 < m) (h : Binary64.ofFloat x = .finite negative m e) :
    Canonical m e ∧ x.toModel.unpack = .finite (signOf negative) m e hm := by
  obtain ⟨sign, exponent, fraction, hunpack, hvalue⟩ := exists_fields x
  rw [hvalue] at h
  rw [hunpack]
  have hexponentLt := exponent.isLt
  have hfractionLt := fraction.isLt
  split at h
  · split at h <;> cases h
  · next hfinite =>
    split at h
    · next hzero =>
      cases h
      have hexponentZero : exponent = 0#11 := BitVec.toNat_inj.1 hzero
      rw [hexponentZero]
      exact ⟨⟨hm, by omega, .inl rfl, le_rfl, by norm_num⟩, unpack_subnormal _ rfl hm⟩
    · next hnormal =>
      cases h
      refine ⟨⟨hm, by omega, .inr (by omega), by omega, by omega⟩, ?_⟩
      apply unpack_normal _ _ _ _ rfl rfl
      · rintro rfl
        exact hnormal rfl
      · rintro rfl
        exact hfinite rfl

theorem unpack_of_ofFloat_zero (h : Binary64.ofFloat x = .finite negative 0 e) :
    e = -1074 ∧ x.toModel.unpack = .zero (signOf negative) := by
  obtain ⟨sign, exponent, fraction, hunpack, hvalue⟩ := exists_fields x
  rw [hvalue] at h
  rw [hunpack]
  split at h
  · split at h <;> cases h
  · split at h
    · next hzero =>
      obtain ⟨rfl, hfraction, rfl⟩ := Binary64.finite.inj h
      obtain rfl : exponent = 0#11 := BitVec.toNat_inj.1 hzero
      obtain rfl : fraction = 0#52 := BitVec.toNat_inj.1 hfraction
      refine ⟨rfl, ?_⟩
      unfold UnpackedFloat.unpack
      simp only [unpackExponent_packComponents, unpackMantissa_packComponents,
        unpackSign_packComponents, Sign.ofBitVec_toBitVec]
      rfl
    · have := (Binary64.finite.inj h).2.1
      omega

/-- A double that is not finite unpacks to no finite number. -/
theorem unpack_ne_finite (h : ∀ negative m e, Binary64.ofFloat x ≠ .finite negative m e)
    (sign : Sign) (hm : 0 < m) : x.toModel.unpack ≠ .finite sign m e hm := by
  obtain ⟨negative, exponent, fraction, hunpack, hvalue⟩ := exists_fields x
  rw [hunpack]
  split at hvalue
  · next hones =>
    obtain rfl : exponent = -1#11 := BitVec.toNat_inj.1 hones
    unfold UnpackedFloat.unpack
    simp only [unpackExponent_packComponents, unpackMantissa_packComponents,
      unpackSign_packComponents, Sign.ofBitVec_toBitVec]
    rw [if_pos trivial]
    split <;> exact nofun
  · split at hvalue
    · exact absurd hvalue (h _ _ _)
    · exact absurd hvalue (h _ _ _)

/-- A finite double is read from its bits as what it unpacks to. -/
theorem ofFloat_of_unpack {sign : Sign} {hm : 0 < m}
    (h : x.toModel.unpack = .finite sign m e hm) :
    ∃ negative, signOf negative = sign ∧ Binary64.ofFloat x = .finite negative m e := by
  by_cases hfinite : ∃ negative m' e', Binary64.ofFloat x = .finite negative m' e'
  · obtain ⟨negative, m', e', hx⟩ := hfinite
    rcases Nat.eq_zero_or_pos m' with rfl | hm'
    · cases h.symm.trans (unpack_of_ofFloat_zero hx).2
    · cases h.symm.trans (unpack_of_ofFloat hm' hx).2
      exact ⟨negative, rfl, hx⟩
  · simp only [not_exists] at hfinite
    exact absurd h (unpack_ne_finite hfinite sign hm)

end Unpacked

/-! ## Whole numbers -/

theorem canonical_of_nat {n : Nat} (hn : 0 < n) (hlt : n < 2 ^ 53) :
    Canonical (n * 2 ^ (52 - n.log2)) (n.log2 - 52) := by
  have hlog : n.log2 < 53 := (Nat.log2_lt hn.ne').2 hlt
  have hlow := Nat.log2_self_le hn.ne'
  have hhigh := Nat.lt_log2_self (n := n)
  refine ⟨by positivity, ?_, .inr ?_, by omega, by omega⟩
  · calc
      n * 2 ^ (52 - n.log2) < 2 ^ (n.log2 + 1) * 2 ^ (52 - n.log2) := by gcongr
      _ = 2 ^ 53 := by
        rw [← pow_add]
        congr 1
        omega
  · calc
      2 ^ 52 = 2 ^ n.log2 * 2 ^ (52 - n.log2) := by
        rw [← pow_add]
        congr 1
        omega
      _ ≤ n * 2 ^ (52 - n.log2) := by gcongr

theorem ofNat_eq {n : Nat} (hn : 0 < n) (hlt : n < 2 ^ 53) :
    UnpackedFloat.ofNat .binary64 n =
      .finite .positive (n * 2 ^ (52 - n.log2)) (n.log2 - 52) (canonical_of_nat hn hlt).pos := by
  have hc := canonical_of_nat hn hlt
  have hlog : n.log2 < 53 := (Nat.log2_lt hn.ne').2 hlt
  have hcompare : compare (n : Int) 0 = .gt := Int.compare_eq_gt.2 (by omega)
  have htarget : Format.binary64.targetExponent (totalExponent n 0) = n.log2 - 52 := by
    rw [targetExponent_eq, totalExponent]
    omega
  have hshift : (0 - ((n.log2 : Int) - 52)).toNat = 52 - n.log2 := by omega
  have hexponent : (0 : Int) - (52 - n.log2 : Nat) = n.log2 - 52 := by omega
  have hbits : 2 ^ 52 ≤ n * 2 ^ (52 - n.log2) := hc.normal.resolve_left (by omega)
  rw [UnpackedFloat.ofNat, UnpackedFloat.ofInt, UnpackedFloat.normalize, hcompare]
  dsimp only
  rw [Int.toNat_natCast, UnpackedFloat.round, htarget, decreaseExponent, hshift, hexponent,
    Nat.shiftLeft_eq]
  exact roundWithAccuracy_eq hc (keeps_exact _) (.inr (by exact_mod_cast hbits)) (.self _ _ rfl)

end EntitySql.Number
