import EntitySql.Text.LetterCase

/-!
# Names that differ only in the case of ASCII letters

Full lower case does not see the case of ASCII letters: two texts that are the same up to it have
one lower case, also where a sigma is final or not by the letters around it. So names told apart
in lower case are told apart by a comparison that folds ASCII alone.
-/

namespace EntitySql.Text

open LetterCase

/-! ## Characters -/

theorem isUpper_iff {c : Char} : c.isUpper = true ↔ c.val ≥ 'A'.val ∧ c.val ≤ 'Z'.val :=
  decide_eq_true_iff

theorem toLower_of_not_isUpper {c : Char} (h : c.isUpper = false) : c.toLower = c := by
  unfold Char.toLower
  rw [dif_neg]
  intro hbounds
  rw [isUpper_iff.2 hbounds] at h
  cases h

/-- The capitals of ASCII are the 26 from 65 on. -/
theorem exists_of_isUpper {c : Char} (h : c.isUpper = true) :
    ∃ n < 26, c = Char.ofNat (65 + n) := by
  have hbounds : 65 ≤ c.toNat ∧ c.toNat ≤ 90 := by
    simpa [UInt32.le_iff_toNat_le] using isUpper_iff.1 h
  refine ⟨c.toNat - 65, by omega, ?_⟩
  rw [show 65 + (c.toNat - 65) = c.toNat by omega, Char.ofNat_toNat]

/-- What is the same of each of the 26 letters in either case is the same of every character. -/
theorem apply_toLower {α : Type} (f : Char → α)
    (h : ∀ n < 26, f (Char.ofNat (65 + n)).toLower = f (Char.ofNat (65 + n))) (c : Char) :
    f c.toLower = f c := by
  cases hupper : c.isUpper with
  | true =>
    obtain ⟨n, hn, rfl⟩ := exists_of_isUpper hupper
    exact h n hn
  | false => rw [toLower_of_not_isUpper hupper]

/-- What lower case asks of a character is the same of the letter in either case. -/
structure Folds (c : Char) : Prop where
  lowerChar : lowerChar c.toLower = lowerChar c
  isCased : isCased c.toLower = isCased c
  isCaseIgnorable : isCaseIgnorable c.toLower = isCaseIgnorable c
  sigma : c.toLower = 'Σ' ↔ c = 'Σ'

instance (c : Char) : Decidable (Folds c) :=
  decidable_of_iff (Text.lowerChar c.toLower = Text.lowerChar c ∧
    LetterCase.isCased c.toLower = LetterCase.isCased c ∧
    LetterCase.isCaseIgnorable c.toLower = LetterCase.isCaseIgnorable c ∧
    (c.toLower = 'Σ' ↔ c = 'Σ'))
    ⟨fun h ↦ ⟨h.1, h.2.1, h.2.2.1, h.2.2.2⟩,
      fun h ↦ ⟨h.lowerChar, h.isCased, h.isCaseIgnorable, h.sigma⟩⟩

theorem folds_letter : ∀ n < 26, Folds (Char.ofNat (65 + n)) := by
  decide

/-- Every character keeps, in lower case of ASCII, all that lower casing looks at. -/
theorem folds (c : Char) : Folds c := by
  cases hupper : c.isUpper with
  | true =>
    obtain ⟨n, hn, rfl⟩ := exists_of_isUpper hupper
    exact folds_letter n hn
  | false =>
    have hself := toLower_of_not_isUpper hupper
    exact ⟨by rw [hself], by rw [hself], by rw [hself], by rw [hself]⟩

/-! ## Texts -/

theorem meetsCased_foldAscii (s : List Char) : meetsCased (foldAscii s) = meetsCased s := by
  induction s with
  | nil => rfl
  | cons c s ih =>
    unfold meetsCased foldAscii at ih ⊢
    rw [List.map_cons, List.dropWhile_cons, List.dropWhile_cons, (folds c).isCaseIgnorable]
    by_cases hc : isCaseIgnorable c = true
    · rw [if_pos hc, if_pos hc]
      exact ih
    · rw [if_neg hc, if_neg hc]
      exact (folds c).isCased

theorem lowerAfter_foldAscii (before s : List Char) :
    lowerAfter (foldAscii before) (foldAscii s) = lowerAfter before s := by
  induction s generalizing before with
  | nil => rfl
  | cons c s ih =>
    have hrest : lowerAfter (c.toLower :: foldAscii before) (foldAscii s) =
        lowerAfter (c :: before) s := ih (c :: before)
    have hfold : foldAscii (c :: s) = c.toLower :: foldAscii s := rfl
    rw [hfold, lowerAfter, lowerAfter, hrest, meetsCased_foldAscii, meetsCased_foldAscii,
      (folds c).lowerChar]
    simp only [(folds c).sigma]

/-- Folding the letters of ASCII first does not change a text in lower case. -/
theorem lower_foldAscii (s : List Char) : lower (foldAscii s) = lower s :=
  lowerAfter_foldAscii [] s

theorem sameIgnoringCase_self (a : String) : sameIgnoringCase a a = true := beq_self_eq_true _

theorem sameIgnoringCase_comm (a b : String) : sameIgnoringCase a b = sameIgnoringCase b a :=
  BEq.comm

theorem sameIgnoringCase_trans {a b c : String} (hab : sameIgnoringCase a b = true)
    (hbc : sameIgnoringCase b c = true) : sameIgnoringCase a c = true :=
  beq_iff_eq.2 ((beq_iff_eq.1 hab).trans (beq_iff_eq.1 hbc))

/-- Names that differ in the case of ASCII letters only are one name in lower case. -/
theorem lower_eq_of_sameIgnoringCase {a b : String} (h : sameIgnoringCase a b = true) :
    lower a.toList = lower b.toList := by
  rw [← lower_foldAscii a.toList, ← lower_foldAscii b.toList, beq_iff_eq.1 h]

end EntitySql.Text
