import EntitySql.Filter.StringMethod
import Mathlib.Data.List.Infix

/-!
# Patterns of LIKE

In a pattern the percent sign stands for any run of characters, the underscore for any one, and a
backslash takes the character after it literally. A plain text in a pattern stands for itself, so
that a wildcard before it, behind it or on both sides asks where it stands in the text.
-/

namespace EntitySql.ConditionText

open Text

def matchesPattern : (pattern text : List Char) → Bool
  | [], s => s.isEmpty
  | '%' :: p, s => s.tails.any (matchesPattern p)
  | '\\' :: c :: p, d :: s => c == d && matchesPattern p s
  | '_' :: p, _ :: s => matchesPattern p s
  | c :: p, d :: s => c == d && matchesPattern p s
  | _ :: _, [] => false

/-- Whether a character stands for itself in a pattern. -/
def isPlain (c : Char) : Bool := c != '%' && c != '_' && c != '\\'

def AllPlain (s : List Char) : Prop := ∀ c ∈ s, isPlain c = true

variable {c d : Char} {needle p s : List Char}

@[simp]
theorem matchesPattern_nil (s : List Char) : matchesPattern [] s = s.isEmpty := by
  cases s <;> rfl

theorem matchesPattern_wildcard (p s : List Char) :
    matchesPattern ('%' :: p) s = s.tails.any (matchesPattern p) := by
  cases s <;> rfl

theorem matchesPattern_cons_nil (h : isPlain c = true) : matchesPattern (c :: p) [] = false := by
  simp only [isPlain, Bool.and_eq_true, bne_iff_ne] at h
  rw [matchesPattern.eq_def]
  split <;> simp_all

theorem matchesPattern_cons_cons (h : isPlain c = true) :
    matchesPattern (c :: p) (d :: s) = (c == d && matchesPattern p s) := by
  simp only [isPlain, Bool.and_eq_true, bne_iff_ne] at h
  rw [matchesPattern.eq_def]
  split <;> simp_all

theorem allPlain_cons : AllPlain (c :: s) ↔ isPlain c = true ∧ AllPlain s := by
  simp [AllPlain]

/-- A plain text in a pattern takes itself off the text. -/
theorem matchesPattern_append (h : AllPlain needle) (p s : List Char) :
    matchesPattern (needle ++ p) s = true ↔ ∃ t, s = needle ++ t ∧ matchesPattern p t = true := by
  induction needle generalizing s with
  | nil => simp
  | cons c needle ih =>
    have hc := allPlain_cons.1 h
    cases s with
    | nil =>
      rw [List.cons_append, matchesPattern_cons_nil hc.1]
      simp
    | cons d s =>
      rw [List.cons_append, matchesPattern_cons_cons hc.1, Bool.and_eq_true, beq_iff_eq, ih hc.2]
      constructor
      · rintro ⟨rfl, t, rfl, ht⟩
        exact ⟨t, rfl, ht⟩
      · rintro ⟨t, heq, ht⟩
        rw [List.cons_append, List.cons.injEq] at heq
        exact ⟨heq.1.symm, t, heq.2, ht⟩

theorem matchesPattern_any (s : List Char) : matchesPattern ['%'] s = true := by
  rw [matchesPattern_wildcard, List.any_eq_true]
  exact ⟨[], by simp, by simp⟩

/-- A wildcard takes any beginning of the text, and leaves an end of it for the rest of the
pattern. -/
theorem matchesPattern_wildcard_iff (p s : List Char) :
    matchesPattern ('%' :: p) s = true ↔ ∃ t, t <:+ s ∧ matchesPattern p t = true := by
  simp [matchesPattern_wildcard, List.any_eq_true]

/-! ## The patterns of the string methods -/

/-- A needle occurs where some end of the text begins with it. -/
theorem occursIn_iff (needle s : List Char) :
    occursIn needle s = true ↔ ∃ t, t <:+ s ∧ needle <+: t := by
  induction s with
  | nil => simp [occursIn]
  | cons c s ih =>
    rw [occursIn, Bool.or_eq_true, List.isPrefixOf_iff_prefix, ih]
    constructor
    · rintro (h | ⟨t, hs, ht⟩)
      · exact ⟨c :: s, List.suffix_refl _, h⟩
      · exact ⟨t, hs.trans (List.suffix_cons c s), ht⟩
    · rintro ⟨t, hs, ht⟩
      rcases List.suffix_cons_iff.1 hs with rfl | hs
      · exact .inl ht
      · exact .inr ⟨t, hs, ht⟩

/-- Where the wildcards of a string method stand. -/
def wildcards (m : StringMethod) (needle : List Char) : List Char :=
  match m with
  | .contains => '%' :: (needle ++ ['%'])
  | .startsWith => needle ++ ['%']
  | .endsWith => '%' :: needle

/-- A needle before a wildcard is matched by the texts that begin with it. -/
theorem matchesPattern_leading (h : AllPlain needle) (s : List Char) :
    matchesPattern (needle ++ ['%']) s = true ↔ needle <+: s := by
  rw [matchesPattern_append h]
  simp only [matchesPattern_any, and_true]
  constructor
  · rintro ⟨t, rfl⟩
    exact List.prefix_append needle t
  · rintro ⟨t, rfl⟩
    exact ⟨t, rfl⟩

theorem matchesPattern_whole (h : AllPlain needle) (s : List Char) :
    matchesPattern needle s = true ↔ s = needle := by
  have hwhole := matchesPattern_append h [] s
  simpa using hwhole

/-- Where a needle stands for itself, the pattern of a string method is matched by the texts that
the method accepts. -/
theorem matchesPattern_wildcards (m : StringMethod) (h : AllPlain needle) (s : List Char) :
    matchesPattern (wildcards m needle) s = m.accepts s needle := by
  rw [Bool.eq_iff_iff]
  cases m with
  | contains =>
    change matchesPattern ('%' :: (needle ++ ['%'])) s = true ↔ occursIn needle s = true
    simp only [matchesPattern_wildcard_iff, matchesPattern_leading h, occursIn_iff]
  | startsWith =>
    change matchesPattern (needle ++ ['%']) s = true ↔ needle.isPrefixOf s = true
    rw [matchesPattern_leading h, List.isPrefixOf_iff_prefix]
  | endsWith =>
    change matchesPattern ('%' :: needle) s = true ↔ needle.isSuffixOf s = true
    rw [matchesPattern_wildcard_iff, List.isSuffixOf_iff_suffix]
    simp only [matchesPattern_whole h]
    constructor
    · rintro ⟨t, hs, rfl⟩
      exact hs
    · intro hs
      exact ⟨needle, hs, rfl⟩

end EntitySql.ConditionText
