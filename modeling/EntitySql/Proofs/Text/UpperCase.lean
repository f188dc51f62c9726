import EntitySql.Text.LetterCase
import Mathlib.Data.List.Basic

/-!
# Letters that upper case tells apart

Upper case sends some letters to the capitals of others: a sharp s becomes two letters, and the two
forms of a small sigma become one. Letters that come back from their capitals in lower case are not
among them, so that texts of such letters have one upper case only where they have one lower case.
-/

namespace EntitySql.Text

/-- Whether a letter comes back from its capitals. The lower case of a capital sigma depends on
where it stands. -/
def isRestored (c : Char) : Bool := c != 'Σ' && (upperChar c).flatMap lowerChar == lowerChar c

variable {a b s : List Char}

theorem lowerAfter_eq_flatMap (before : List Char) (h : ∀ c ∈ s, c ≠ 'Σ') :
    lowerAfter before s = s.flatMap lowerChar := by
  induction s generalizing before with
  | nil => rfl
  | cons c s ih =>
    rw [lowerAfter, if_neg (h c List.mem_cons_self),
      ih (c :: before) fun d hd ↦ h d (List.mem_cons_of_mem c hd)]
    rfl

/-- Upper case is undone by lower case, character by character, where each one is restored. -/
theorem flatMap_lowerChar_upper (h : ∀ c ∈ s, isRestored c = true) :
    (upper s).flatMap lowerChar = s.flatMap lowerChar := by
  unfold upper
  rw [List.flatMap_assoc]
  refine List.flatMap_congr fun c hc ↦ ?_
  exact beq_iff_eq.1 ((Bool.and_eq_true _ _).mp (h c hc)).2

theorem lower_eq_flatMap (h : ∀ c ∈ s, isRestored c = true) : lower s = s.flatMap lowerChar :=
  lowerAfter_eq_flatMap [] fun c hc ↦ bne_iff_ne.1 ((Bool.and_eq_true _ _).mp (h c hc)).1

/-- Texts of restored characters that agree in upper case agree in lower case. -/
theorem lower_eq_of_upper_eq (ha : ∀ c ∈ a, isRestored c = true)
    (hb : ∀ c ∈ b, isRestored c = true) (h : upper a = upper b) : lower a = lower b := by
  calc
    lower a = (upper a).flatMap lowerChar := by
      rw [lower_eq_flatMap ha, flatMap_lowerChar_upper ha]
    _ = (upper b).flatMap lowerChar := by rw [h]
    _ = lower b := by rw [lower_eq_flatMap hb, flatMap_lowerChar_upper hb]

end EntitySql.Text
