import EntitySql.Proofs.Number.Reading
import EntitySql.Sql.Paging
import Mathlib.Data.List.Range

/-!
# The rows of a page

A page is accepted where its size is not negative, its number is one at least, and the rows before
it can be counted in 64 bits. The rows of the pages up to one that is accepted, one page after the
other, are the first rows of the result, each of them once.
-/

namespace EntitySql.Page

def rowsBefore (number : Option Int64) (size : Int64) : Int :=
  ((number.getD 1).toInt - 1) * size.toInt

structure InRange (number : Option Int64) (size : Int64) : Prop where
  size_nonneg : 0 ≤ size.toInt
  one_le : 1 ≤ (number.getD 1).toInt
  le_max : rowsBefore number size ≤ Int64.maxValue.toInt

/-- The positions of the rows of a page, the first row of the result being at zero. -/
def rows (page : Page) : List Nat := List.range' page.skip.toInt.toNat page.size.toInt.toNat

variable {number : Option Int64} {size : Int64} {page : Page}

theorem ofNumber_eq_ok_iff : ofNumber number size = .ok page ↔
    InRange number size ∧ page.size = size ∧ page.skip.toInt = rowsBefore number size := by
  have hnegative : size < 0 ↔ ¬ 0 ≤ size.toInt := Int64.lt_iff_toInt_lt.trans Int.not_le.symm
  have hfirst : number.getD 1 < 1 ↔ ¬ 1 ≤ (number.getD 1).toInt :=
    Int64.lt_iff_toInt_lt.trans Int.not_le.symm
  have hbefore : ((number.getD 1).toInt - 1) * size.toInt = rowsBefore number size := rfl
  unfold ofNumber
  simp only [hbefore, hnegative, hfirst]
  constructor
  · intro h
    split at h
    · cases h
    next hsize =>
    split at h
    · cases h
    next hnumber =>
    split at h
    · next skip hskip =>
      cases h
      have hskip := Number.int64?_eq_some.1 hskip
      have hmax : rowsBefore number size ≤ Int64.maxValue.toInt := hskip ▸ Int64.toInt_le skip
      exact ⟨⟨not_not.1 hsize, not_not.1 hnumber, hmax⟩, rfl, hskip⟩
    · cases h
  · rintro ⟨h, rfl, hskip⟩
    rw [if_neg (not_not_intro h.size_nonneg), if_neg (not_not_intro h.one_le),
      Number.int64?_eq_some.2 hskip]

/-- A page that is refused is an argument out of range. -/
theorem ofNumber_eq_error {error : Error} (h : ofNumber number size = .error error) :
    ∃ cause, error = .validation cause := by
  unfold ofNumber at h
  split at h
  · exact ⟨_, (Except.error.inj h).symm⟩
  · dsimp only at h
    split at h
    · exact ⟨_, (Except.error.inj h).symm⟩
    · split at h
      · cases h
      · exact ⟨_, (Except.error.inj h).symm⟩

theorem InRange.rowsBefore_nonneg (h : InRange number size) : 0 ≤ rowsBefore number size :=
  Int.mul_nonneg (Int.sub_nonneg.2 h.one_le) h.size_nonneg

theorem toInt_ofInt {n : Int} (hnonneg : 0 ≤ n) (hmax : n ≤ Int64.maxValue.toInt) :
    (Int64.ofInt n).toInt = n :=
  Int64.toInt_ofInt_of_le (Int.le_trans (by decide) hnonneg) (Int.lt_of_le_of_lt hmax (by decide))

theorem exists_page_iff : (∃ page, ofNumber number size = .ok page) ↔ InRange number size := by
  constructor
  · rintro ⟨page, h⟩
    exact (ofNumber_eq_ok_iff.1 h).1
  · intro h
    exact ⟨⟨size, _⟩, ofNumber_eq_ok_iff.2 ⟨h, rfl, toInt_ofInt h.rowsBefore_nonneg h.le_max⟩⟩

/-! ## Pages up to one -/

/-- Windows of one size, each beginning where the one before it ends. -/
theorem flatMap_windows (count size : Nat) :
    ((List.range count).flatMap fun k ↦ List.range' (k * size) size) =
      List.range (count * size) := by
  induction count with
  | zero => simp
  | succ count ih =>
    rw [List.range_succ, List.flatMap_append, ih, Nat.succ_mul, List.range_eq_range',
      List.range_eq_range', ← List.range'_append_1]
    simp

def behind (count : Nat) (size : Int64) : Page := ⟨size, Int64.ofInt (count * size.toInt)⟩

theorem ofNumber_behind {number : Int64} (h : InRange (some number) size) {count : Nat}
    (hcount : count < number.toInt.toNat) :
    ofNumber (some (Int64.ofInt (count + 1))) size = .ok (behind count size) ∧
      (behind count size).rows = List.range' (count * size.toInt.toNat) size.toInt.toNat := by
  have hle : (count : Int) + 1 ≤ number.toInt := by omega
  have hnumber : (Int64.ofInt (count + 1)).toInt = count + 1 :=
    toInt_ofInt (Int.natCast_nonneg (count + 1)) (Int.le_trans hle (Int64.toInt_le number))
  have hbefore : rowsBefore (some (Int64.ofInt (count + 1))) size = count * size.toInt := by
    rw [rowsBefore, Option.getD_some, hnumber, Int.add_sub_cancel]
  have hmax : count * size.toInt ≤ Int64.maxValue.toInt := by
    calc
      count * size.toInt ≤ (number.toInt - 1) * size.toInt :=
        Int.mul_le_mul_of_nonneg_right (by omega) h.size_nonneg
      _ ≤ Int64.maxValue.toInt := h.le_max
  have hskip : (behind count size).skip.toInt = count * size.toInt :=
    toInt_ofInt (Int.mul_nonneg (Int.natCast_nonneg count) h.size_nonneg) hmax
  constructor
  · refine ofNumber_eq_ok_iff.2 ⟨⟨h.size_nonneg, ?_, hbefore ▸ hmax⟩, rfl, hskip.trans hbefore.symm⟩
    rw [Option.getD_some, hnumber]
    omega
  · obtain ⟨n, hn⟩ := Int.eq_ofNat_of_zero_le h.size_nonneg
    rw [rows, hskip, behind, hn, ← Int.natCast_mul, Int.toNat_natCast, Int.toNat_natCast]

/-- The pages up to one that is accepted are accepted, and have the rows up to its last one. -/
theorem exists_pages {number : Int64} (h : InRange (some number) size) :
    ∃ pages : List Page, pages.length = number.toInt.toNat ∧
      (∀ k (hk : k < pages.length),
        ofNumber (some (Int64.ofInt (k + 1))) size = .ok pages[k]) ∧
      pages.flatMap rows = List.range (number.toInt.toNat * size.toInt.toNat) := by
  refine ⟨(List.range number.toInt.toNat).map (behind · size), by simp, ?_, ?_⟩
  · intro k hk
    rw [List.length_map, List.length_range] at hk
    simpa using (ofNumber_behind h hk).1
  · rw [List.flatMap_map, ← flatMap_windows]
    refine List.flatMap_congr fun k hk ↦ ?_
    exact (ofNumber_behind h (List.mem_range.1 hk)).2

end EntitySql.Page
