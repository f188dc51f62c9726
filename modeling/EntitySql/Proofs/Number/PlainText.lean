import EntitySql.Number.Layout
import EntitySql.Proofs.Number.Reading
import EntitySql.Proofs.Number.Shortest

/-!
# The plain text of a double is read back

A decimal with a fraction is written as its digits with a point among them, after zeros where it is
small. The plain text of a double that is no whole number is such a decimal, and is read as the same
double.
-/

namespace EntitySql.Number

variable {x : Float} {m : Nat} {e : Int} {negative : Bool} {d : Decimal} {w : List Char}

/-- A number written with a point: the digits before it and behind it. -/
structure Pointed (text w f : List Char) (d : Decimal) : Prop where
  text_eq : text = w ++ '.' :: f
  whole_ne_nil : w ≠ []
  fraction_ne_nil : f ≠ []
  digit : ∀ c ∈ w ++ f, c.isDigit = true
  digits_eq : ofDigits (w ++ f) = d.digits
  length_eq : (f.length : Int) = -d.exponent

/-- The plain text of a decimal with a fraction has a point. -/
theorem writeDecimal_pointed (h : d.exponent < 0) :
    ∃ w f, Pointed (Layout.plain.writeDecimal d) w f d := by
  have hdigit : ∀ c ∈ Nat.toDigits 10 d.digits, c.isDigit = true :=
    fun c hc ↦ isDigit_of_mem_toDigits hc
  have hvalue := ofDigits_toDigits d.digits
  have hlength : 0 < (Nat.toDigits 10 d.digits).length := Nat.length_toDigits_pos
  unfold Layout.writeDecimal
  dsimp only
  rw [if_pos (show Layout.plain.positional _ = true from rfl), if_neg (by omega)]
  generalize Nat.toDigits 10 d.digits = digits at *
  obtain ⟨n, hn⟩ : ∃ n : Int, d.exponent + digits.length - 1 = n := ⟨_, rfl⟩
  rw [hn]
  split
  · next hleading =>
    refine ⟨digits.take (n.toNat + 1), digits.drop (n.toNat + 1), rfl, ?_, ?_, ?_, ?_, ?_⟩
    · rw [Ne, List.take_eq_nil_iff]
      rintro (hzero | hnil)
      · omega
      · rw [hnil] at hlength
        exact absurd hlength (by decide)
    · rw [Ne, List.drop_eq_nil_iff]
      omega
    · rwa [List.take_append_drop]
    · rw [List.take_append_drop, hvalue]
    · rw [List.length_drop]
      omega
  · next hleading =>
    refine ⟨['0'], List.replicate (-n - 1).toNat '0' ++ digits, rfl, by decide, ?_, ?_, ?_, ?_⟩
    · rw [Ne, List.append_eq_nil_iff]
      rintro ⟨-, rfl⟩
      exact absurd hlength (by decide)
    · intro c hc
      simp only [List.singleton_append, List.mem_cons, List.mem_append, List.mem_replicate] at hc
      rcases hc with rfl | ⟨-, rfl⟩ | hc
      · rfl
      · rfl
      · exact hdigit c hc
    · exact (ofDigits_zeros _ digits).trans hvalue
    · rw [List.length_append, List.length_replicate]
      omega

theorem writeDecimal_head (d : Decimal) :
    ∃ c u, Layout.plain.writeDecimal d = c :: u ∧ c.isDigit = true := by
  by_cases h : d.exponent < 0
  · obtain ⟨w, f, hpointed⟩ := writeDecimal_pointed h
    obtain ⟨c, u, rfl⟩ := List.exists_cons_of_ne_nil hpointed.whole_ne_nil
    exact ⟨c, u ++ '.' :: f, hpointed.text_eq, hpointed.digit c List.mem_cons_self⟩
  · obtain ⟨c, u, hdigits⟩ := List.exists_cons_of_ne_nil (@Nat.toDigits_ne_nil d.digits 10)
    have hc : c ∈ Nat.toDigits 10 d.digits := hdigits ▸ List.mem_cons_self
    unfold Layout.writeDecimal
    dsimp only
    rw [if_pos (show Layout.plain.positional _ = true from rfl), if_pos (by omega), hdigits]
    exact ⟨c, _, rfl, isDigit_of_mem_toDigits hc⟩

/-- Behind its sign, the plain text of a finite double begins with a digit. -/
theorem plain_write_head (hx : Binary64.ofFloat x = .finite negative m e) :
    ∃ c u, (Layout.plain.write x).toList = (if negative then ['-'] else []) ++ c :: u ∧
      c.isDigit = true := by
  have hdigits : ∃ c u, (if m = 0 then '0' :: Layout.plain.wholeEnding.toList
      else Layout.plain.writeDecimal (Decimal.shortest Layout.plain.tie m e)) = c :: u ∧
      c.isDigit = true := by
    split
    · exact ⟨'0', _, rfl, rfl⟩
    · exact writeDecimal_head _
  obtain ⟨c, u, htext, hc⟩ := hdigits
  refine ⟨c, u, ?_, hc⟩
  rw [Layout.write, hx]
  dsimp only
  rw [htext, String.toList_ofList]
  split <;> rfl

/-- The plain text of a double that is no whole number has a point, and what it says is read as
the same double. -/
theorem plain_write_pointed (hx : Binary64.ofFloat x = .finite negative m e)
    (hwhole : (Binary64.ofFloat x).toInt? = none) :
    ∃ text w f d, (Layout.plain.write x).toList = (if negative then ['-'] else []) ++ text ∧
      Pointed text w f d ∧ nearest negative d.digits d.exponent = x := by
  have hm : 0 < m := by
    rcases Nat.eq_zero_or_pos m with rfl | hm
    · rw [hx, Binary64.toInt?, Nat.zero_mod, if_pos rfl] at hwhole
      split at hwhole <;> cases hwhole
    · exact hm
  have hc := (unpack_of_ofFloat hm hx).1
  have hrounds := Decimal.roundsTo_shortest hc Layout.plain.tie
  rw [hx] at hwhole
  have hexponent := Decimal.exponent_neg hrounds hwhole
  obtain ⟨w, f, hpointed⟩ := writeDecimal_pointed hexponent
  obtain ⟨j, hj⟩ : ∃ j : Nat, (Decimal.shortest Layout.plain.tie m e).exponent = -j :=
    ⟨(-(Decimal.shortest Layout.plain.tie m e).exponent).toNat, by omega⟩
  refine ⟨_, w, f, _, ?_, hpointed, ?_⟩
  · rw [Layout.write, hx]
    dsimp only
    rw [if_neg hm.ne', String.toList_ofList]
    split <;> rfl
  · rw [hj]
    apply nearest_eq hm hx (by omega)
    rwa [Decimal.value, hj, zpow_neg, zpow_natCast, ← div_eq_mul_inv] at hrounds

/-- The plain text of a double that is no whole number is not that of an integer. -/
theorem readInt64?_plain_write (hwhole : (Binary64.ofFloat x).toInt? = none) :
    readInt64? (Layout.plain.write x).toList = none := by
  have hnone : integer? (Layout.plain.write x).toList = none := by
    cases hx : Binary64.ofFloat x with
    | nan =>
      rw [Layout.write, hx]
      decide
    | infinite negative =>
      rw [Layout.write, hx]
      cases negative <;> decide
    | finite negative m e =>
      obtain ⟨text, w, f, d, htext, hpointed, -⟩ := plain_write_pointed hx hwhole
      apply integer?_eq_none
      rw [htext, hpointed.text_eq]
      simp
  rw [readInt64?, hnone]
  rfl

end EntitySql.Number
