import EntitySql.Text.Letter
import Mathlib.Data.List.TakeWhile

/-!
# Runs of characters

A run of characters of one kind is read as far as it goes. A text stops a run where it is empty
or begins with a character of another kind; then the run before it is read exactly.
-/

namespace EntitySql.Text

/-- No run of this kind goes on into the text. -/
def Stops (p : Char → Bool) (s : List Char) : Prop := ∀ c ∈ s.head?, p c = false

variable {p : Char → Bool} {w s : List Char}

@[simp]
theorem stops_nil (p : Char → Bool) : Stops p [] := by simp [Stops]

@[simp]
theorem stops_cons {c : Char} : Stops p (c :: s) ↔ p c = false := by simp [Stops]

instance decidableStops (p : Char → Bool) : (s : List Char) → Decidable (Stops p s)
  | [] => isTrue (stops_nil p)
  | c :: _ => decidable_of_iff (p c = false) stops_cons.symm

/-- What stops in front of both parts stops in front of their join. -/
theorem Stops.append (hw : Stops p w) (hs : Stops p s) : Stops p (w ++ s) := by
  cases w with
  | nil => exact hs
  | cons c w => exact stops_cons.2 (stops_cons.1 hw)

theorem Stops.takeWhile_eq (h : Stops p s) : s.takeWhile p = [] := by
  cases s with
  | nil => rfl
  | cons c s => simp [stops_cons.1 h]

theorem stops_of_takeWhile_eq (h : s.takeWhile p = []) : Stops p s := by
  cases s with
  | nil => exact stops_nil p
  | cons c s =>
    rw [stops_cons, ← Bool.not_eq_true]
    intro hc
    rw [List.takeWhile_cons_of_pos hc] at h
    cases h

theorem Stops.dropWhile_eq (h : Stops p s) : s.dropWhile p = s := by
  cases s with
  | nil => rfl
  | cons c s => simp [stops_cons.1 h]

/-- A run of characters is taken whole where what follows it stops the run. -/
theorem takeWhile_run (hw : ∀ c ∈ w, p c = true) (hs : Stops p s) :
    (w ++ s).takeWhile p = w := by
  rw [List.takeWhile_append_of_pos hw, hs.takeWhile_eq, List.append_nil]

/-- Behind a run stands what stopped it. -/
theorem dropWhile_run (hw : ∀ c ∈ w, p c = true) (hs : Stops p s) :
    (w ++ s).dropWhile p = s := by
  rw [List.dropWhile_append_of_pos hw, hs.dropWhile_eq]

/-- What is left behind a run stops it. -/
theorem stops_dropWhile (p : Char → Bool) (s : List Char) : Stops p (s.dropWhile p) := by
  intro c hc
  have h := List.head?_dropWhile_not p s
  rw [Option.mem_def.1 hc] at h
  exact h

/-- A name of ASCII: a letter or an underscore, then letters, digits and underscores. -/
def isAsciiName : List Char → Bool
  | [] => false
  | c :: s => (c.isAlpha || c == '_') && s.all isAsciiWordPart

/-- A name of ASCII is made of letters, digits and underscores. -/
theorem isAsciiWordPart_of_mem {c : Char} (h : isAsciiName s = true) (hc : c ∈ s) :
    isAsciiWordPart c = true := by
  cases s with
  | nil => simp at hc
  | cons d s =>
    simp only [isAsciiName, Bool.and_eq_true, List.all_eq_true] at h
    rcases List.mem_cons.1 hc with rfl | hs
    · simp only [isAsciiWordPart, Char.isAlphanum, Bool.or_eq_true] at h ⊢
      exact h.1.imp_left .inl
    · exact h.2 c hs

theorem isAsciiName_ne_nil (h : isAsciiName s = true) : s ≠ [] := by
  rintro rfl
  simp [isAsciiName] at h

/-! ## Digits -/

theorem not_isNameStart_of_isDigit {c : Char} (h : c.isDigit = true) :
    ¬ (c.isAlpha || c == '_') = true := by
  have hdigit : c.val ≤ '9'.val := of_decide_eq_true ((Bool.and_eq_true _ _).mp h).2
  intro hstart
  rcases (Bool.or_eq_true _ _).mp hstart with halpha | hunderscore
  · rcases (Bool.or_eq_true c.isUpper c.isLower).mp halpha with hupper | hlower
    · have hlow : 'A'.val ≤ c.val := (of_decide_eq_true hupper).1
      exact absurd (UInt32.le_trans hlow hdigit) (by decide)
    · have hlow : 'a'.val ≤ c.val := of_decide_eq_true ((Bool.and_eq_true _ _).mp hlower).1
      exact absurd (UInt32.le_trans hlow hdigit) (by decide)
  · obtain rfl : c = '_' := beq_iff_eq.1 hunderscore
    exact absurd h (by decide)

theorem isAscii_of_isDigit {c : Char} (h : c.isDigit = true) : isAscii c = true := by
  have hdigit : c.val ≤ '9'.val := of_decide_eq_true ((Bool.and_eq_true _ _).mp h).2
  have hle : c.toNat ≤ 57 := UInt32.le_iff_toNat_le.1 hdigit
  rw [isAscii, decide_eq_true_iff]
  omega

/-- No identifier begins with a digit. -/
theorem not_isIdentifierStart_of_isDigit {c : Char} (h : c.isDigit = true) :
    ¬ isIdentifierStart c = true := by
  rw [isIdentifierStart, isAlphabetic, if_pos (isAscii_of_isDigit h)]
  exact not_isNameStart_of_isDigit h

end EntitySql.Text
