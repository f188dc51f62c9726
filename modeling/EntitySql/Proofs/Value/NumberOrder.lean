import EntitySql.Proofs.Number.Integer
import EntitySql.Proofs.Value.WholeNumber

/-!
# The order of numbers of both kinds

Two integers compare as they are, and so do two floats. Where one of each is compared, the integer
is rounded to a double first: the order is that of the numbers unless they are different and the
integer rounds to the float. Then the two are equal. Of three numbers this is the only way in which
the order is not transitive: a float that two different integers round to stands between them.
-/

namespace EntitySql.Value

open Number

variable {u v w : Value} {a b : Int64} {x : Float} {p q r s t : ℚ}

/-! ## An integer beside a float -/

theorem natAbs_toInt_lt (a : Int64) : a.toInt.natAbs < 2 ^ 64 := by
  have hlow := Int64.le_toInt a
  have hhigh := Int64.toInt_lt a
  omega

/-- A number with its exact value and the double that it is compared as. -/
inductive Measured : Value → ℚ → ℚ → Prop
  | int (a : Int64) {r : ℚ} (h : Rounds a.toInt r) : Measured (.int a) a.toInt r
  | float (x : Float) {q : ℚ} (h : Number.value? x = some q) : Measured (.float x) q q

theorem exists_measured (h : v.number? = some q) : ∃ r, Measured v q r := by
  cases v with
  | int a =>
    cases h
    obtain ⟨r, hr⟩ := exists_rounds (natAbs_toInt_lt a)
    exact ⟨r, .int a hr⟩
  | float x => exact ⟨q, .float x h⟩
  | _ => cases h

theorem compare_ints (a b : Int64) :
    compare (.int a) (.int b) = some (Ord.compare (a.toInt : ℚ) b.toInt) := by
  refine congrArg some ?_
  rcases lt_trichotomy a.toInt b.toInt with hlt | heq | hgt
  · rw [compare_lt_iff_lt.2 hlt, compare_lt_iff_lt.2 (by exact_mod_cast hlt)]
  · rw [heq, compare_eq_iff_eq.2 rfl, compare_eq_iff_eq.2 rfl]
  · rw [compare_gt_iff_gt.2 hgt, compare_gt_iff_gt.2 (by exact_mod_cast hgt)]

/-- As soon as one of two numbers is a float, both compare as doubles. -/
theorem Measured.compare_eq (hu : Measured u p r) (hv : Measured v q s)
    (hfloat : u.kind = .float ∨ v.kind = .float) : compare u v = some (Ord.compare r s) := by
  cases hu with
  | int a ha =>
    cases hv with
    | int b hb => rcases hfloat with hfloat | hfloat <;> cases hfloat
    | float y hy => exact compareFloats_of_value? ha.value?_ofInt hy
  | float x hx =>
    cases hv with
    | int b hb => exact compareFloats_of_value? hx hb.value?_ofInt
    | float y hy => exact compareFloats_of_value? hx hy

/-- A number compares with a double as it is, as long as it does not round to it. -/
theorem compare_rounded (hp : Rounds p r) (hq : IsDouble q) (hne : q ≠ r) :
    Ord.compare r q = Ord.compare p q := by
  rcases lt_or_gt_of_ne hne with hlt | hgt
  · rw [compare_gt_iff_gt.2 hlt, compare_gt_iff_gt.2 (hp.lt_of_lt hq hlt)]
  · rw [compare_lt_iff_lt.2 hgt, compare_lt_iff_lt.2 (hp.gt_of_gt hq hgt)]

/-- How an integer and a finite float compare. -/
structure MixedOrder (a : Int64) (x : Float) (q : ℚ) : Prop where
  /-- The order is that of the numbers, unless the integer rounds to the float without being it. -/
  exact_iff : compare (.int a) (.float x) = some (Ord.compare (a.toInt : ℚ) q) ↔
    (Rounds a.toInt q → (a.toInt : ℚ) = q)
  rounded : Rounds a.toInt q → compare (.int a) (.float x) = some .eq
  reverse : compare (.float x) (.int a) = (compare (.int a) (.float x)).map Ordering.swap
  /-- Integers of 53 bits only round to themselves. -/
  short : a.toInt.natAbs ≤ 2 ^ 53 → Rounds a.toInt q → (a.toInt : ℚ) = q

theorem mixedOrder (a : Int64) (hx : Number.value? x = some q) : MixedOrder a x q := by
  obtain ⟨r, hr⟩ := exists_rounds (natAbs_toInt_lt a)
  have hdouble := isDouble_of_value? hx
  have hcompare := (Measured.int a hr).compare_eq (.float x hx) (.inr rfl)
  have hrounded : Rounds a.toInt q → compare (.int a) (.float x) = some .eq := by
    intro ha
    have hsame := (Measured.int a ha).compare_eq (.float x hx) (.inr rfl)
    rwa [compare_eq_iff_eq.2 rfl] at hsame
  refine ⟨⟨fun hexact ha ↦ ?_, fun hdistinct ↦ ?_⟩, hrounded, compare_swap _ _,
    fun hshort ha ↦ ha.eq_of_isDouble (isDouble_of_natAbs_le hshort)⟩
  · rw [hrounded ha] at hexact
    exact compare_eq_iff_eq.1 (Option.some.inj hexact).symm
  · by_cases hq : q = r
    · subst hq
      rw [hdistinct hr]
      exact hrounded hr |>.trans (congrArg some (compare_eq_iff_eq.2 rfl).symm)
    · rw [hcompare, compare_rounded hr hdouble hq]

/-! ## Three numbers -/

/-- The float in the middle is what two different integers round to. -/
def Confuses (u v w : Value) : Prop :=
  ∃ a b x q, u = .int a ∧ v = .float x ∧ w = .int b ∧ a ≠ b ∧
    Number.value? x = some q ∧ Rounds a.toInt q ∧ Rounds b.toInt q

structure TransitiveAt (u v w : Value) : Prop where
  lt : compare u v = some .lt → compare v w = some .lt → compare u w = some .lt
  le : compare u v ≠ some .gt → compare v w ≠ some .gt →
    compare u w ≠ some .gt ∨ Confuses u v w
  eq : compare u v = some .eq → compare v w = some .eq →
    compare u w = some .eq ∨ Confuses u v w

theorem Measured.float_or_ints (hu : Measured u p r) (hv : Measured v q s) :
    (u.kind = .float ∨ v.kind = .float) ∨ ∃ a b, u = .int a ∧ v = .int b := by
  cases hu with
  | float x hx => exact .inl (.inl rfl)
  | int a ha =>
    cases hv with
    | float y hy => exact .inl (.inr rfl)
    | int b hb => exact .inr ⟨a, b, rfl, rfl⟩

theorem compare_ints_ne_gt : compare (.int a) (.int b) ≠ some .gt ↔ (a.toInt : ℚ) ≤ b.toInt := by
  rw [compare_ints, Ne, Option.some_inj]
  exact compare_le_iff_le

theorem compare_ints_lt : compare (.int a) (.int b) = some .lt ↔ (a.toInt : ℚ) < b.toInt := by
  rw [compare_ints, Option.some_inj]
  exact compare_lt_iff_lt

/-- Rounding to doubles keeps the order, or makes different integers equal. -/
theorem Measured.le_of_compare (hu : Measured u p r) (hv : Measured v q s)
    (h : compare u v ≠ some .gt) : r ≤ s := by
  rcases hu.float_or_ints hv with hfloat | ⟨a, b, rfl, rfl⟩
  · rw [hu.compare_eq hv hfloat, Ne, Option.some_inj] at h
    exact compare_le_iff_le.1 h
  · cases hu with
    | int a ha =>
      cases hv with
      | int b hb =>
        rcases (compare_ints_ne_gt.1 h).lt_or_eq with hlt | heq
        · exact ha.le_of_lt hb hlt
        · rw [Int.cast_injective heq] at ha
          exact (Option.some.inj (ha.value?_ofInt.symm.trans hb.value?_ofInt)).le

theorem Measured.lt_of_compare (hu : Measured u p r) (hv : Measured v q s)
    (hfloat : u.kind = .float ∨ v.kind = .float) (h : compare u v = some .lt) : r < s := by
  rw [hu.compare_eq hv hfloat, Option.some_inj] at h
  exact compare_lt_iff_lt.1 h

/-- Integers with different doubles are in the order of these. -/
theorem lt_of_rounded (ha : Rounds a.toInt r) (hb : Rounds b.toInt s) (h : r < s) :
    (a.toInt : ℚ) < b.toInt := by
  rcases lt_trichotomy (a.toInt : ℚ) b.toInt with hlt | heq | hgt
  · exact hlt
  · have hsame := Measured.le_of_compare (.int b hb) (.int a ha) (compare_ints_ne_gt.2 heq.ge)
    exact absurd h (not_lt.2 hsame)
  · exact absurd h (not_lt.2 (hb.le_of_lt ha hgt))

section Three

variable {o : ℚ} (hu : Measured u o r) (hv : Measured v p s) (hw : Measured w q t)

include hu hv hw

theorem Measured.lt_trans (huv : compare u v = some .lt) (hvw : compare v w = some .lt) :
    compare u w = some .lt := by
  have hrs := hu.le_of_compare hv (by simp [huv])
  have hst := hv.le_of_compare hw (by simp [hvw])
  rcases hu.float_or_ints hw with hfloat | ⟨a, b, rfl, rfl⟩
  · have hlt : r < t := by
      rcases hfloat with hfloat | hfloat
      · exact (hu.lt_of_compare hv (.inl hfloat) huv).trans_le hst
      · exact hrs.trans_lt (hv.lt_of_compare hw (.inr hfloat) hvw)
    rw [hu.compare_eq hw hfloat, compare_lt_iff_lt.2 hlt]
  · cases hv with
    | int c hc => exact compare_ints_lt.2 ((compare_ints_lt.1 huv).trans (compare_ints_lt.1 hvw))
    | float x hx =>
      have hlt := (hu.lt_of_compare (.float x hx) (.inr rfl) huv).trans
        ((Measured.float x hx).lt_of_compare hw (.inl rfl) hvw)
      cases hu with
      | int a ha =>
        cases hw with
        | int b hb => exact compare_ints_lt.2 (lt_of_rounded ha hb hlt)

theorem Measured.le_trans (huv : compare u v ≠ some .gt) (hvw : compare v w ≠ some .gt) :
    compare u w ≠ some .gt ∨ Confuses u v w := by
  have hrs := hu.le_of_compare hv huv
  have hst := hv.le_of_compare hw hvw
  rcases hu.float_or_ints hw with hfloat | ⟨a, b, rfl, rfl⟩
  · left
    rw [hu.compare_eq hw hfloat, Ne, Option.some_inj]
    exact compare_le_iff_le.2 (hrs.trans hst)
  · cases hv with
    | int c hc =>
      exact .inl (compare_ints_ne_gt.2
        ((compare_ints_ne_gt.1 huv).trans (compare_ints_ne_gt.1 hvw)))
    | float x hx =>
      cases hu with
      | int a ha =>
        cases hw with
        | int b hb =>
          rcases (hrs.trans hst).lt_or_eq with hlt | rfl
          · exact .inl (compare_ints_ne_gt.2 (lt_of_rounded ha hb hlt).le)
          · obtain rfl := le_antisymm hrs hst
            rcases eq_or_ne a b with rfl | hne
            · exact .inl (compare_ints_ne_gt.2 le_rfl)
            · exact .inr ⟨a, b, x, _, rfl, rfl, rfl, hne, hx, ha, hb⟩

end Three

theorem Confuses.symm (h : Confuses u v w) : Confuses w v u := by
  obtain ⟨a, b, x, q, rfl, rfl, rfl, hne, hx, ha, hb⟩ := h
  exact ⟨b, a, x, q, rfl, rfl, rfl, hne.symm, hx, hb, ha⟩

theorem compare_eq_eq_iff (hu : Measured u p r) (hv : Measured v q s) :
    compare u v = some .eq ↔ compare u v ≠ some .gt ∧ compare v u ≠ some .gt := by
  obtain ⟨o, ho⟩ : ∃ o, compare u v = some o := by
    rcases hu.float_or_ints hv with hfloat | ⟨a, b, rfl, rfl⟩
    · exact ⟨_, hu.compare_eq hv hfloat⟩
    · exact ⟨_, compare_ints a b⟩
  rw [compare_swap u v, ho]
  cases o <;> simp

theorem transitiveAt (hu : u.number?.isSome) (hv : v.number?.isSome) (hw : w.number?.isSome) :
    TransitiveAt u v w := by
  obtain ⟨o, ho⟩ := Option.isSome_iff_exists.1 hu
  obtain ⟨p, hp⟩ := Option.isSome_iff_exists.1 hv
  obtain ⟨q, hq⟩ := Option.isSome_iff_exists.1 hw
  obtain ⟨r, hu⟩ := exists_measured ho
  obtain ⟨s, hv⟩ := exists_measured hp
  obtain ⟨t, hw⟩ := exists_measured hq
  refine ⟨hu.lt_trans hv hw, hu.le_trans hv hw, fun huv hvw ↦ ?_⟩
  obtain ⟨huv, hvu⟩ := (compare_eq_eq_iff hu hv).1 huv
  obtain ⟨hvw, hwv⟩ := (compare_eq_eq_iff hv hw).1 hvw
  rcases hu.le_trans hv hw huv hvw with huw | hconfuses
  · rcases hw.le_trans hv hu hwv hvu with hwu | hconfuses
    · exact .inl ((compare_eq_eq_iff hu hw).2 ⟨huw, hwu⟩)
    · exact .inr hconfuses.symm
  · exact .inr hconfuses

/-- Numbers of both kinds are in the order of their exact values but for a float and a different
integer that rounds to it, and in a transitive order but for a float between two such integers. -/
theorem numbers_in_exact_order (a : Int64) (hx : Number.value? x = some q)
    (hu : u.number?.isSome) (hv : v.number?.isSome) (hw : w.number?.isSome) :
    MixedOrder a x q ∧ TransitiveAt u v w :=
  ⟨mixedOrder a hx, transitiveAt hu hv hw⟩

/-- An integer of 55 bits that is no double, between two floats. -/
theorem numbers_in_exact_order_between_floats :
    let below : Float := 18014398509481980.0
    let above : Float := 18014398509481988.0
    Number.value? below = some 18014398509481980 ∧ Number.value? above = some 18014398509481988 ∧
      compare (.int 18014398509481985) (.float above) = some .lt ∧
      compare (.float below) (.int 18014398509481985) = some .lt ∧
      compare (.float below) (.float above) = some .lt := by
  intro below above
  have hbelow : Number.value? below = some 18014398509481980 := by
    have hx : Binary64.ofFloat below = .finite false 9007199254740990 1 := by decide +kernel
    exact value?_eq_some_iff.2 ⟨_, _, _, hx, by norm_num [withSign]⟩
  have habove : Number.value? above = some 18014398509481988 := by
    have hx : Binary64.ofFloat above = .finite false 4503599627370497 2 := by decide +kernel
    exact value?_eq_some_iff.2 ⟨_, _, _, hx, by norm_num [withSign]⟩
  have hint : (18014398509481985 : Int64).toInt = 18014398509481985 := rfl
  have hbetween : IsDouble 18014398509481984 :=
    ⟨false, 2 ^ 52, 2, ⟨by norm_num, .inr le_rfl, by norm_num, by norm_num⟩,
      by norm_num [withSign]⟩
  have hnotAbove : ¬ Rounds (18014398509481985 : Int64).toInt 18014398509481988 := by
    intro h
    have hmiddle := (h.middle hbetween).1 (by norm_num)
    rw [hint] at hmiddle
    norm_num at hmiddle
  have hnotBelow : ¬ Rounds (18014398509481985 : Int64).toInt 18014398509481980 := by
    intro h
    have hmiddle := (h.middle hbetween).2 (by norm_num)
    rw [hint] at hmiddle
    norm_num at hmiddle
  have hu : (Value.float below).number?.isSome := Option.isSome_of_eq_some hbelow
  have hw : (Value.float above).number?.isSome := Option.isSome_of_eq_some habove
  obtain ⟨hlow, htransitive⟩ :=
    numbers_in_exact_order 18014398509481985 hbelow hu (v := .int 18014398509481985) rfl hw
  obtain ⟨hhigh, -⟩ := numbers_in_exact_order 18014398509481985 habove hu hu hw
  have hupper : compare (.int 18014398509481985) (.float above) = some .lt := by
    rw [hhigh.exact_iff.2 fun h ↦ absurd h hnotAbove, hint, compare_lt_iff_lt.2 (by norm_num)]
  have hlower : compare (.float below) (.int 18014398509481985) = some .lt := by
    rw [hlow.reverse, hlow.exact_iff.2 fun h ↦ absurd h hnotBelow, hint,
      compare_gt_iff_gt.2 (by norm_num)]
    rfl
  exact ⟨hbelow, habove, hupper, hlower, htransitive.lt hlower hupper⟩

/-- Two to the power of 53 and the integer after it are one float, so that float is equal to both
and the order is lost. -/
theorem float_equal_to_two_integers :
    let x : Float := 9007199254740992.0
    Number.value? x = some 9007199254740992 ∧
      compare (.int 9007199254740993) (.float x) = some .eq ∧
      Ord.compare (9007199254740993 : ℚ) 9007199254740992 = .gt ∧
      compare (.float x) (.int 9007199254740992) = some .eq ∧
      compare (.int 9007199254740993) (.int 9007199254740992) = some .gt := by
  intro x
  have hx : Binary64.ofFloat x = .finite false (2 ^ 52) 1 := by decide +kernel
  refine ⟨value?_eq_some_iff.2 ⟨_, _, _, hx, ?_⟩, by decide +kernel, ?_, by decide +kernel, rfl⟩
  · norm_num [withSign]
  · exact compare_gt_iff_gt.2 (by norm_num)

end EntitySql.Value
