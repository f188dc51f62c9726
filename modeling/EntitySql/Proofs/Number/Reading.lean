import EntitySql.Number.Reading
import Mathlib.Algebra.Ring.Int.Defs

/-!
# Whole numbers read from text

A run of digits reads as the number that its digits make, with the sign before it. An integer has
a form of 64 or of 32 bits exactly where it is the value of one.
-/

namespace EntitySql.Number

theorem int64?_eq_some {n : Int} {m : Int64} : int64? n = some m ↔ m.toInt = n := by
  constructor
  · intro h
    unfold int64? at h
    split at h
    · next hrange =>
      cases h
      exact Int64.toInt_ofInt_of_le hrange.1 (Int.lt_of_le_of_lt hrange.2 (by decide))
    · cases h
  · rintro rfl
    rw [int64?, if_pos ⟨Int64.minValue_le_toInt m, Int64.toInt_le m⟩, Int64.ofInt_toInt]

theorem int64?_eq_none {n : Int} : int64? n = none ↔ ¬ (-2 ^ 63 ≤ n ∧ n < 2 ^ 63) := by
  have hrange : (Int64.minValue.toInt ≤ n ∧ n ≤ Int64.maxValue.toInt) ↔
      -2 ^ 63 ≤ n ∧ n < 2 ^ 63 := and_congr .rfl Int.lt_add_one_iff.symm
  rw [← hrange, int64?]
  split
  · next h => exact iff_of_false (Option.some_ne_none _) (Classical.not_not.2 h)
  · next h => exact iff_of_true rfl h

theorem int32?_eq_some {n : Int} {m : Int32} : int32? n = some m ↔ m.toInt = n := by
  unfold int32?
  constructor
  · intro h
    split at h
    · next hrange =>
      cases h
      exact Int32.toInt_ofInt_of_le hrange.1 (Int.lt_of_le_of_lt hrange.2 (by decide))
    · cases h
  · rintro rfl
    rw [if_pos ⟨Int32.minValue_le_toInt m, Int32.toInt_le m⟩, Int32.ofInt_toInt]

theorem int32?_eq_none {n : Int} : int32? n = none ↔ ¬ (-2 ^ 31 ≤ n ∧ n < 2 ^ 31) := by
  have hrange : (Int32.minValue.toInt ≤ n ∧ n ≤ Int32.maxValue.toInt) ↔
      -2 ^ 31 ≤ n ∧ n < 2 ^ 31 := and_congr .rfl Int.lt_add_one_iff.symm
  rw [← hrange, int32?]
  split
  · next h => exact iff_of_false (Option.some_ne_none _) (Classical.not_not.2 h)
  · next h => exact iff_of_true rfl h

theorem ofDigits_toDigits (n : Nat) : ofDigits (Nat.toDigits 10 n) = n :=
  Nat.ofDigitChars_ten_toDigits

theorem ofDigits_zeros (n : Nat) (w : List Char) :
    ofDigits (List.replicate n '0' ++ w) = ofDigits w := by
  induction n with
  | zero => rfl
  | succ n ih => exact ih

theorem isDigit_of_mem_toDigits {n : Nat} {c : Char} (hc : c ∈ Nat.toDigits 10 n) :
    c.isDigit = true :=
  Nat.isDigit_of_mem_toDigits (by decide) (by decide) hc

theorem toList_toString (n : Int) :
    (toString n).toList = (if n < 0 then ['-'] else []) ++ Nat.toDigits 10 n.natAbs := by
  have htext (k : Nat) : (toString k).toList = Nat.toDigits 10 k := by
    rw [Nat.toString_eq_ofList_toDigits, String.toList_ofList]
  cases n with
  | ofNat k =>
    rw [Int.ofNat_eq_natCast, if_neg (Int.not_lt.2 (Int.natCast_nonneg k)), List.nil_append]
    exact htext k
  | negSucc k =>
    rw [if_pos (Int.negSucc_lt_zero k)]
    change ("-" ++ toString (k + 1)).toList = _
    rw [String.toList_append, htext]
    rfl

theorem natural?_of_digits {w : List Char} (hne : w ≠ []) (hw : ∀ c ∈ w, c.isDigit = true) :
    natural? w = some (ofDigits w) := by
  rw [natural?, List.isEmpty_eq_false_iff.2 hne, List.all_eq_true.2 hw]
  rfl

/-- A natural number is read from digits, at least one, and from nothing else. -/
theorem natural?_eq_some {s : List Char} {n : Nat} :
    natural? s = some n ↔ s ≠ [] ∧ (∀ c ∈ s, c.isDigit = true) ∧ ofDigits s = n := by
  constructor
  · intro h
    unfold natural? at h
    split at h
    · next hdigits =>
      simp only [Bool.and_eq_true, Bool.not_eq_true', List.isEmpty_eq_false_iff,
        List.all_eq_true] at hdigits
      exact ⟨hdigits.1, hdigits.2, Option.some.inj h⟩
    · cases h
  · rintro ⟨hne, hdigit, rfl⟩
    exact natural?_of_digits hne hdigit

theorem integer?_of_digits {w : List Char} (hne : w ≠ []) (hw : ∀ c ∈ w, c.isDigit = true)
    (negative : Bool) :
    integer? ((if negative then ['-'] else []) ++ w) =
      some (if negative then -(ofDigits w : Int) else ofDigits w) := by
  have hnatural := natural?_of_digits hne hw
  cases negative with
  | true =>
    rw [if_pos rfl, if_pos rfl, List.singleton_append, integer?, hnatural]
    rfl
  | false =>
    obtain ⟨c, u, rfl⟩ := List.exists_cons_of_ne_nil hne
    have hdigit := hw c List.mem_cons_self
    change integer? (c :: u) = _
    unfold integer?
    split
    · next hminus =>
      cases hminus
      cases hdigit
    · next hplus =>
      cases hplus
      cases hdigit
    · rw [hnatural]
      rfl

/-- The digits of an integer, with a minus before them or without. -/
def IsNumeral (s : List Char) (n : Int) : Prop :=
  ∃ (negative : Bool) (w : List Char), s = (if negative then ['-'] else []) ++ w ∧ w ≠ [] ∧
    (∀ c ∈ w, c.isDigit = true) ∧ n = if negative then -(ofDigits w : Int) else ofDigits w

/-- A number is written as one of its numerals. -/
theorem isNumeral_toString (n : Int) : IsNumeral (toString n).toList n := by
  refine ⟨n < 0, Nat.toDigits 10 n.natAbs, ?_, Nat.toDigits_ne_nil,
    fun c hc ↦ isDigit_of_mem_toDigits hc, ?_⟩
  · rw [toList_toString]
    simp only [decide_eq_true_eq]
  · rw [ofDigits_toDigits]
    simp only [decide_eq_true_eq]
    split <;> omega

/-- A numeral is read as its number. -/
theorem IsNumeral.integer?_eq {s : List Char} {n : Int} (h : IsNumeral s n) :
    integer? s = some n := by
  obtain ⟨negative, w, rfl, hne, hdigit, rfl⟩ := h
  exact integer?_of_digits hne hdigit negative

/-- Only a numeral is read, but for a sign of plus. -/
theorem isNumeral_of_integer? {s : List Char} {n : Int} (h : integer? s = some n)
    (hplus : s.head? ≠ some '+') : IsNumeral s n := by
  have hread {negative : Bool} {w : List Char} (hs : s = (if negative then ['-'] else []) ++ w)
      (hw : natural? w ≠ none) : w ≠ [] ∧ (∀ c ∈ w, c.isDigit = true) ∧
        n = if negative then -(ofDigits w : Int) else ofDigits w := by
    obtain ⟨k, hk⟩ := Option.ne_none_iff_exists'.1 hw
    obtain ⟨hne, hdigit, -⟩ := natural?_eq_some.1 hk
    have hvalue := integer?_of_digits hne hdigit negative
    rw [← hs, h] at hvalue
    exact ⟨hne, hdigit, Option.some.inj hvalue⟩
  unfold integer? at h
  split at h
  · next w =>
    refine ⟨true, w, rfl, hread rfl fun hnone ↦ ?_⟩
    rw [hnone] at h
    cases h
  · exact absurd rfl hplus
  · refine ⟨false, s, rfl, hread rfl fun hnone ↦ ?_⟩
    rw [hnone] at h
    cases h

/-- A text with a point is not that of an integer. -/
theorem integer?_eq_none {s : List Char} (hs : '.' ∈ s) : integer? s = none := by
  have hnatural {s : List Char} (hs : '.' ∈ s) : natural? s = none := by
    rw [Option.eq_none_iff_forall_ne_some]
    intro n h
    exact absurd ((natural?_eq_some.1 h).2.1 '.' hs) (by decide)
  unfold integer?
  split
  · rw [hnatural (List.mem_of_ne_of_mem (by decide) hs)]
    rfl
  · rw [hnatural (List.mem_of_ne_of_mem (by decide) hs)]
    rfl
  · rw [hnatural hs]
    rfl

end EntitySql.Number
