import EntitySql.Proofs.Filter.Token

/-!
# What follows a phrase

Where a phrase ends, the grammar asks for nothing, yet in a filter only few characters can come
next: the signs of looser operators, a comma or a closing bracket. None of them goes on with the
phrase, and none begins an operand.
-/

namespace EntitySql.Filter

open Text Number

variable {scope : Scope} {nested : Reader Expr} {level : Level} {e : Expr} {c : Char}
  {s t u : List Char}

/-! ## What may follow -/

/-- What is skipped is all of the layout, where the rest begins with none. -/
theorem Layout.skip_eq (h : Layout s t) (ht : Stops isLayout t) : skip s = t := by
  obtain ⟨w, rfl, hw⟩ := h
  exact dropWhile_run hw ht

theorem Layout.skip_cons (h : Layout s (c :: u)) (hc : isLayout c = false) : skip s = c :: u :=
  h.skip_eq (stops_cons.2 hc)

/-- What no blank and not the rest begins with, the text before does not begin with. -/
theorem Layout.stops {p : Char → Bool} (h : Layout s t)
    (hp : ∀ c, isLayout c = true → p c = false) (ht : Stops p t) : Stops p s := by
  obtain ⟨w, rfl, hw⟩ := h
  cases w with
  | nil => exact ht
  | cons c w => exact stops_cons.2 (hp c (hw c List.mem_cons_self))

/-- The characters that may come next after an expression of the level. -/
def Level.followers : Level → List Char
  | .disjunction => [')', ',']
  | .conjunction => ['|', 'o', ')', ',']
  | .negation | .comparison => ['&', 'a', '|', 'o', ')', ',']
  | .sum => ['=', '!', '<', '>', '&', 'a', '|', 'o', ')', ',']
  | .access | .primary => ['+', '-', '=', '!', '<', '>', '&', 'a', '|', 'o', ')', ',']

/-- After the text comes nothing, or what may follow an expression of the level. -/
def Follows (level : Level) (s : List Char) : Prop := ∀ c u, skip s = c :: u → c ∈ level.followers

/-- What may follow a looser expression may follow a tighter one. -/
theorem Follows.mono {looser : Level} (h : Follows looser s)
    (hsubset : looser.followers ⊆ level.followers) : Follows level s :=
  fun c u hs ↦ hsubset (h c u hs)

theorem follows_cons (h : Layout s (c :: u)) (hc : isLayout c = false)
    (hmem : c ∈ level.followers) : Follows level s := by
  intro d v hd
  rw [h.skip_cons hc] at hd
  cases hd
  exact hmem

theorem follows_nil (h : Layout s []) : Follows level s := by
  intro c u hc
  rw [h.skip_eq (stops_nil _)] at hc
  cases hc

theorem Follows.disjunctionSign? (h : Follows .disjunction s) :
    disjunctionSign? (skip s) = none := by
  cases hs : skip s with
  | nil => rfl
  | cons c u =>
    have hc := h c u hs
    simp only [Level.followers, List.mem_cons, List.not_mem_nil, or_false] at hc
    rcases hc with rfl | rfl <;> rfl

theorem Follows.conjunctionSign? (h : Follows .conjunction s) :
    conjunctionSign? (skip s) = none := by
  cases hs : skip s with
  | nil => rfl
  | cons c u =>
    have hc := h c u hs
    simp only [Level.followers, List.mem_cons, List.not_mem_nil, or_false] at hc
    rcases hc with rfl | rfl | rfl | rfl <;> rfl

/-- No comparison goes on into what may follow one. -/
theorem Follows.compareSign? (h : Follows .comparison s) : compareSign? (skip s) = none := by
  cases hs : skip s with
  | nil => rfl
  | cons c u =>
    have hc := h c u hs
    simp only [Level.followers, List.mem_cons, List.not_mem_nil, or_false] at hc
    rcases hc with rfl | rfl | rfl | rfl | rfl | rfl <;> rfl

theorem Follows.sumSign? (h : Follows .sum s) : sumSign? (skip s) = none := by
  cases hs : skip s with
  | nil => rfl
  | cons c u =>
    have hc := h c u hs
    simp only [Level.followers, List.mem_cons, List.not_mem_nil, or_false] at hc
    rcases hc with rfl | rfl | rfl | rfl | rfl | rfl | rfl | rfl | rfl | rfl <;> rfl

/-- The text begins with a character that may follow an expression of the level. -/
def Heads (level : Level) (s : List Char) : Prop :=
  ∃ c u, s = c :: u ∧ isLayout c = false ∧ c ∈ level.followers

theorem Heads.skip_eq (h : Heads level t) (hlayout : Layout s t) : skip s = t := by
  obtain ⟨c, u, rfl, hc, -⟩ := h
  exact hlayout.skip_cons hc

/-- The sign of an operator may follow its left operand, whatever layout stands between them. -/
theorem Heads.follows (h : Heads level t) (hlayout : Layout s t) : Follows level s := by
  obtain ⟨c, u, rfl, hc, hmem⟩ := h
  exact follows_cons hlayout hc hmem

theorem DisjunctionSign.heads (h : DisjunctionSign s t) : Heads .conjunction s := by
  rcases h with rfl | h
  · exact ⟨_, _, rfl, rfl, by simp [Level.followers]⟩
  · exact ⟨_, _, h.1, rfl, by simp [Level.followers]⟩

theorem ConjunctionSign.heads (h : ConjunctionSign s t) : Heads .negation s := by
  rcases h with rfl | h
  · exact ⟨_, _, rfl, rfl, by simp [Level.followers]⟩
  · exact ⟨_, _, h.1, rfl, by simp [Level.followers]⟩

theorem CompareSign.heads {op : CompareOp} (h : CompareSign op s t) : Heads .sum s := by
  cases h <;> exact ⟨_, _, rfl, rfl, by simp [Level.followers]⟩

theorem SumSign.heads {op : ArithOp} (h : SumSign op s t) : Heads .access s := by
  cases h <;> exact ⟨_, _, rfl, rfl, by simp [Level.followers]⟩

theorem not_starts_of_isLayout (h : isLayout c = true) : level.starts c = false := by
  simp only [isLayout, Bool.or_eq_true, beq_iff_eq] at h
  rcases h with ((rfl | rfl) | rfl) | rfl <;> cases level <;> decide

theorem Derives.stops {p : Char → Bool} (h : Derives scope (.tree level e) s t)
    (hp : ∀ c, level.starts c = true → p c = false) : Stops p s := by
  obtain ⟨c, u, rfl, hc⟩ := h.opens
  exact stops_cons.2 (hp c hc)

/-- An expression begins where the layout before it ends. -/
theorem Derives.skip_eq (h : Derives scope (.tree level e) t u) (hlayout : Layout s t) :
    skip s = t := by
  apply hlayout.skip_eq
  apply h.stops
  intro c hc
  rw [← Bool.not_eq_true]
  intro hblank
  rw [not_starts_of_isLayout hblank] at hc
  cases hc

/-- No sign of comparison goes on into an operand. -/
theorem Derives.stops_compare (h : Derives scope (.tree .sum e) t u) (hlayout : Layout s t) :
    Stops (fun c ↦ c == '=' || c == '>') s := by
  have hsign {c : Char} (hc : ¬ (c == '=' || c == '>') = false) : c = '=' ∨ c = '>' := by
    simpa only [Bool.not_eq_false, Bool.or_eq_true, beq_iff_eq] using hc
  apply hlayout.stops
  · intro c hblank
    by_contra hc
    rcases hsign hc with rfl | rfl <;> cases hblank
  · apply h.stops
    intro c hstart
    by_contra hc
    rcases hsign hc with rfl | rfl <;> cases hstart

/-- A comparison that does not begin with the word is not read as a negation. -/
theorem Derives.not_negationSign (h : Derives scope (.tree .comparison e) s t)
    (hword : ∀ u, ¬ Keyword ['n', 'o', 't'] s u) : negationSign? s = none := by
  cases hsign : negationSign? s with
  | none => rfl
  | some u =>
    exfalso
    rcases negationSign?_eq_some.1 hsign with rfl | hkeyword
    · obtain ⟨c, v, hs, hstart⟩ := h.opens
      cases hs
      cases hstart
    · exact hword u hkeyword

end EntitySql.Filter
