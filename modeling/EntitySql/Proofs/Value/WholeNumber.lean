import EntitySql.Proofs.Number.Exact
import EntitySql.Proofs.Number.Reading
import EntitySql.Proofs.Outcome
import EntitySql.Value.Reading

/-!
# Numbers read as integers

An integer or a float is read as a 32-bit integer just where its value is one. Read as a 64-bit
integer it keeps its value as well, and is refused where it has none or one with a fraction, as far
as the value lies between the ends of the 64-bit integers. A float beyond them is not refused: it is
read as the nearer end.
-/

namespace EntitySql

namespace Number

variable {x : Float} {q : ℚ} {i : Int}

/-! ## The range of 64-bit integers -/

theorem toInt_clampInt64 (hlow : -2 ^ 63 ≤ i) (hhigh : i < 2 ^ 63) : (clampInt64 i).toInt = i := by
  have hmin : Int64.minValue.toInt = -2 ^ 63 := rfl
  have hmax : Int64.maxValue.toInt = 2 ^ 63 - 1 := rfl
  rw [clampInt64, if_neg (by omega), if_neg (by omega)]
  exact Int64.toInt_ofInt_of_le (by omega) (by omega)

theorem clampInt64_of_le (h : 2 ^ 63 ≤ i) : clampInt64 i = Int64.maxValue := by
  have hmin : Int64.minValue.toInt = -2 ^ 63 := rfl
  have hmax : Int64.maxValue.toInt = 2 ^ 63 - 1 := rfl
  rw [clampInt64, if_neg (by omega), if_pos (by omega)]

theorem clampInt64_of_lt (h : i < -2 ^ 63) : clampInt64 i = Int64.minValue := by
  have hmin : Int64.minValue.toInt = -2 ^ 63 := rfl
  rw [clampInt64, if_pos (by omega)]

/-- A double of 54 bits or more has no fraction. -/
theorem exists_int_of_value? (h : value? x = some q) (hlarge : 2 ^ 53 ≤ |q|) :
    ∃ i : Int, q = i := by
  obtain ⟨negative, m, e, hx, rfl⟩ := value?_eq_some_iff.1 h
  have habs : |withSign negative ((m : ℚ) * 2 ^ e)| = m * 2 ^ e := by
    have hnonneg : (0 : ℚ) ≤ m * 2 ^ e := by positivity
    unfold withSign
    split
    · rw [abs_neg, abs_of_nonneg hnonneg]
    · exact abs_of_nonneg hnonneg
  rcases le_or_gt 0 e with he | he
  · obtain ⟨k, rfl⟩ := Int.eq_ofNat_of_zero_le he
    refine ⟨if negative then -(m * 2 ^ k : Nat) else (m * 2 ^ k : Nat), ?_⟩
    unfold withSign
    split <;> push_cast <;> rw [zpow_natCast]
  · exfalso
    have hm : m ≠ 0 := by
      rintro rfl
      norm_num at hlarge
    have hc := (unpack_of_ofFloat (Nat.pos_of_ne_zero hm) hx).1
    have hm' : (m : ℚ) < 2 ^ 53 := by exact_mod_cast hc.lt
    have hunit : (2 : ℚ) ^ e ≤ 1 := zpow_le_one_of_nonpos₀ (by norm_num) he.le
    rw [habs] at hlarge
    have hle : (m : ℚ) * 2 ^ e ≤ m := mul_le_of_le_one_right (Nat.cast_nonneg m) hunit
    linarith

end Number

namespace Value

open Number

def number? : Value → Option ℚ
  | .int n => some n.toInt
  | .float x => Number.value? x
  | _ => none

variable {v : Value} {x : Float} {q : ℚ}

theorem readInt64_float_eq_ok (x : Float) (n : Int64) :
    (Value.float x).readInt64 = .ok n ↔
      ∃ i : Int, Number.value? x = some (i : ℚ) ∧ clampInt64 i = n := by
  unfold readInt64
  dsimp only
  cases hx : (Binary64.ofFloat x).toInt? with
  | some i =>
    have hi := (Binary64.toInt?_eq_some_iff _ _).1 hx
    constructor
    · intro h
      exact ⟨i, hi, Except.ok.inj h⟩
    · rintro ⟨j, hj, rfl⟩
      have hsame : (i : ℚ) = j := Option.some.inj (hi.symm.trans hj)
      rw [Int.cast_injective hsame]
  | none =>
    refine iff_of_false nofun ?_
    rintro ⟨j, hj, -⟩
    rw [(Binary64.toInt?_eq_some_iff _ _).2 hj] at hx
    cases hx

/-- Within the 64-bit integers a number is read as the integer it is, or refused. -/
theorem readInt64_of_range (hv : v.kind = .int ∨ v.kind = .float)
    (hrange : ∀ q, v.number? = some q → -2 ^ 63 ≤ q ∧ q < 2 ^ 63) (n : Int64) :
    v.readInt64 = .ok n ↔ v.number? = some (n.toInt : ℚ) := by
  cases v with
  | int m =>
    rw [readInt64, number?, Except.ok.injEq, Option.some_inj, Int.cast_inj, Int64.toInt_inj]
  | float x =>
    rw [readInt64_float_eq_ok]
    constructor
    · rintro ⟨i, hi, rfl⟩
      have hbounds := hrange i hi
      norm_cast at hbounds
      rw [toInt_clampInt64 hbounds.1 hbounds.2]
      exact hi
    · intro h
      refine ⟨n.toInt, h, Int64.toInt_inj.1 ?_⟩
      exact toInt_clampInt64 (Int64.minValue_le_toInt n) (Int64.toInt_lt n)
  | _ => rcases hv with hv | hv <;> cases hv

/-- Only a float lies beyond the 64-bit integers. -/
theorem readInt64_of_number? (h : v.number? = some q) (hlarge : q < -2 ^ 63 ∨ 2 ^ 63 ≤ q) :
    ∃ i : Int, q = i ∧ v.readInt64 = .ok (clampInt64 i) := by
  cases v with
  | int m =>
    cases h
    have hlow := Int64.minValue_le_toInt m
    have hhigh := Int64.toInt_lt m
    norm_cast at hlarge
    have hmin : Int64.minValue.toInt = -2 ^ 63 := rfl
    omega
  | float x =>
    have habs : 2 ^ 53 ≤ |q| := by
      rcases hlarge with hlow | hhigh
      · rw [le_abs]
        right
        linarith
      · rw [le_abs]
        left
        linarith
    obtain ⟨i, rfl⟩ := exists_int_of_value? h habs
    exact ⟨i, rfl, (readInt64_float_eq_ok x _).2 ⟨i, h, rfl⟩⟩
  | _ => cases h

/-- Beyond the greatest 64-bit integer a whole float is read as the greatest. -/
theorem readInt64_of_large (h : v.number? = some q) (hlarge : 2 ^ 63 ≤ q) :
    v.readInt64 = .ok Int64.maxValue := by
  obtain ⟨i, rfl, hread⟩ := readInt64_of_number? h (.inr hlarge)
  rw [hread, clampInt64_of_le (by exact_mod_cast hlarge)]

theorem readInt64_of_small (h : v.number? = some q) (hsmall : q < -2 ^ 63) :
    v.readInt64 = .ok Int64.minValue := by
  obtain ⟨i, rfl, hread⟩ := readInt64_of_number? h (.inl hsmall)
  rw [hread, clampInt64_of_lt (by exact_mod_cast hsmall)]

theorem readInt32_eq_ok (v : Value) (n : Int32) :
    v.readInt32 = .ok n ↔ ∃ m, v.readInt64 = .ok m ∧ m.toInt = n.toInt := by
  rw [readInt32, bind_eq_ok]
  refine exists_congr fun m ↦ and_congr_right fun _ ↦ ?_
  have hsame : m.toInt = n.toInt ↔ int32? m.toInt = some n := by rw [int32?_eq_some, eq_comm]
  rw [hsame]
  cases int32? m.toInt <;> simp

theorem readInt32_iff (hv : v.kind = .int ∨ v.kind = .float) (n : Int32) :
    v.readInt32 = .ok n ↔ v.number? = some (n.toInt : ℚ) := by
  have hlow := Int32.minValue_le_toInt n
  have hhigh := Int32.toInt_lt n
  have hmin : Int32.minValue.toInt = -2 ^ 31 := rfl
  rw [readInt32_eq_ok]
  by_cases hrange : ∀ q, v.number? = some q → -2 ^ 63 ≤ q ∧ q < 2 ^ 63
  · simp only [readInt64_of_range hv hrange]
    constructor
    · rintro ⟨m, hm, hsame⟩
      rw [hm, hsame]
    · intro h
      refine ⟨n.toInt64, ?_, Int32.toInt_toInt64 n⟩
      rw [h, Int32.toInt_toInt64]
  · obtain ⟨q, hq, hbeyond⟩ : ∃ q, v.number? = some q ∧ (q < -2 ^ 63 ∨ 2 ^ 63 ≤ q) := by
      simp only [not_forall, not_and_or, not_le, not_lt] at hrange
      obtain ⟨q, hq, hbeyond⟩ := hrange
      exact ⟨q, hq, hbeyond⟩
    refine iff_of_false ?_ ?_
    · rintro ⟨m, hm, hsame⟩
      rcases hbeyond with hsmall | hlarge
      · rw [readInt64_of_small hq hsmall] at hm
        cases hm
        have hend : Int64.minValue.toInt = -2 ^ 63 := rfl
        omega
      · rw [readInt64_of_large hq hlarge] at hm
        cases hm
        have hend : Int64.maxValue.toInt = 2 ^ 63 - 1 := rfl
        omega
    · intro h
      obtain rfl : (n.toInt : ℚ) = q := Option.some.inj (h.symm.trans hq)
      norm_cast at hbeyond
      omega

/-- Read as a 32-bit integer a number is what it is or refused, and so it is as a 64-bit integer
unless it lies beyond them. Those that do are read as the nearer end of the range. -/
theorem numbers_read_exactly {v : Value} (hv : v.kind = .int ∨ v.kind = .float) :
    (∀ n, v.readInt32 = .ok n ↔ v.number? = some (n.toInt : ℚ)) ∧
    ((∀ q, v.number? = some q → -2 ^ 63 ≤ q ∧ q < 2 ^ 63) →
      ∀ n, v.readInt64 = .ok n ↔ v.number? = some (n.toInt : ℚ)) ∧
    (∀ q, v.number? = some q → 2 ^ 63 ≤ q → v.readInt64 = .ok Int64.maxValue) ∧
    (∀ q, v.number? = some q → q < -2 ^ 63 → v.readInt64 = .ok Int64.minValue) :=
  ⟨readInt32_iff hv, readInt64_of_range hv, fun _ ↦ readInt64_of_large, fun _ ↦ readInt64_of_small⟩

/-- A float beyond the 32-bit integers, and not beyond the 64-bit ones. -/
theorem numbers_read_exactly_two_pow_32 :
    let v : Value := .float 4294967296.0
    v.kind = .float ∧ v.number? = some 4294967296 ∧
      (∀ q, v.number? = some q → -2 ^ 63 ≤ q ∧ q < 2 ^ 63) ∧
      v.readInt64 = .ok 4294967296 ∧ ∀ n, v.readInt32 ≠ .ok n := by
  intro v
  have hx : Binary64.ofFloat 4294967296.0 = .finite false (2 ^ 52) (-20) := rfl
  have hnumber : v.number? = some 4294967296 := by
    refine value?_eq_some_iff.2 ⟨_, _, _, hx, ?_⟩
    norm_num [withSign]
  have hrange : ∀ q, v.number? = some q → -2 ^ 63 ≤ q ∧ q < 2 ^ 63 := by
    intro q hq
    obtain rfl : 4294967296 = q := Option.some.inj (hnumber.symm.trans hq)
    norm_num
  obtain ⟨hint32, hint64, -⟩ := numbers_read_exactly (v := v) (.inr rfl)
  refine ⟨rfl, hnumber, hrange, (hint64 hrange _).2 hnumber, fun n hn ↦ ?_⟩
  have hvalue : n.toInt = 4294967296 := by
    exact_mod_cast Option.some.inj (((hint32 n).1 hn).symm.trans hnumber)
  have hle := Int32.toInt_le n
  rw [hvalue] at hle
  exact absurd hle (by decide)

/-- The least float that is too large is read as another number, and nothing tells. -/
theorem large_float_read_as_greatest :
    let v : Value := .float 9223372036854775808.0
    v.number? = some 9223372036854775808 ∧ v.readInt64 = .ok Int64.maxValue ∧
      v.number? ≠ some (Int64.maxValue.toInt : ℚ) := by
  intro v
  have hx : Binary64.ofFloat 9223372036854775808.0 = .finite false (2 ^ 52) 11 := rfl
  have hnumber : v.number? = some 9223372036854775808 := by
    refine value?_eq_some_iff.2 ⟨_, _, _, hx, ?_⟩
    norm_num [withSign]
  have hend : (Int64.maxValue.toInt : ℚ) = 9223372036854775807 := by norm_cast
  refine ⟨hnumber, readInt64_of_large hnumber (by norm_num), ?_⟩
  rw [hnumber, hend]
  norm_num

end Value

end EntitySql
