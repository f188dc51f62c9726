import EntitySql.Proofs.Text.Run
import EntitySql.Text.Blank

/-!
# Blanks around words

Blanks at the ends of a text are trimmed, and nothing else is. A text has a first word unless it is
made of blanks only.
-/

namespace EntitySql.Text

variable {s t w before after : List Char}

theorem not_isBlank_of_isDigit {c : Char} (h : c.isDigit = true) : isBlank c = false := by
  have hbounds := (Bool.and_eq_true _ _).mp h
  have hlow : 48 ≤ c.toNat := UInt32.le_iff_toNat_le.1 (of_decide_eq_true hbounds.1)
  have hhigh : c.toNat ≤ 57 := UInt32.le_iff_toNat_le.1 (of_decide_eq_true hbounds.2)
  simp [isBlank]
  omega

/-! ## Trimmed texts -/

structure IsTrimmed (s : List Char) : Prop where
  start : Stops isBlank s
  ending : Stops isBlank s.reverse

theorem isTrimmed_of_forall (h : ∀ c ∈ s, isBlank c = false) : IsTrimmed s where
  start c hc := h c (List.mem_of_head? hc)
  ending c hc := h c (List.mem_reverse.1 (List.mem_of_head? hc))

/-- What stands between two trimmed texts does not matter. -/
theorem IsTrimmed.between (hs : IsTrimmed s) (hne : s ≠ []) (w : List Char) (ht : IsTrimmed t)
    (hne' : t ≠ []) : IsTrimmed (s ++ w ++ t) := by
  have hstops {u v : List Char} (hu : Stops isBlank u) (hne : u ≠ []) : Stops isBlank (u ++ v) := by
    obtain ⟨c, u, rfl⟩ := List.exists_cons_of_ne_nil hne
    exact stops_cons.2 (stops_cons.1 hu)
  constructor
  · rw [List.append_assoc]
    exact hstops hs.start hne
  · rw [List.reverse_append]
    exact hstops ht.ending (List.reverse_ne_nil_iff.2 hne')

/-- Blanks around a text are cut off, and nothing else. -/
theorem trim_surrounded (hbefore : ∀ c ∈ before, isBlank c = true)
    (hafter : ∀ c ∈ after, isBlank c = true) (hs : IsTrimmed s) :
    trim (before ++ s ++ after) = s := by
  have hends : trimEnd (s ++ after) = s := by
    have hreversed : ∀ c ∈ after.reverse, isBlank c = true :=
      fun c hc ↦ hafter c (List.mem_reverse.1 hc)
    rw [trimEnd, List.reverse_append, dropWhile_run hreversed hs.ending, List.reverse_reverse]
  cases s with
  | nil =>
    have hblank : ∀ c ∈ before ++ after, isBlank c = true :=
      fun c hc ↦ (List.mem_append.1 hc).elim (hbefore c) (hafter c)
    rw [trim, trimStart, List.append_nil, List.dropWhile_eq_nil_iff.2 hblank]
    rfl
  | cons c s =>
    have hstart : Stops isBlank (c :: s ++ after) := stops_cons.2 (stops_cons.1 hs.start)
    rw [trim, trimStart, List.append_assoc, dropWhile_run hbefore hstart, hends]

/-! ## First words -/

/-- The word that the text has behind its first blanks, up to the next blank. -/
def IsFirstWord (w s : List Char) : Prop :=
  ∃ before after, s = before ++ w ++ after ∧ (∀ c ∈ before, isBlank c = true) ∧ w ≠ [] ∧
    (∀ c ∈ w, isBlank c = false) ∧ Stops (fun c ↦ !isBlank c) after

/-- The first word is one, with blanks before it and a blank or nothing behind. -/
theorem isFirstWord_of_firstWord? (h : firstWord? s = some w) : IsFirstWord w s := by
  have hsplit : s.takeWhile isBlank ++ trimStart s = s := List.takeWhile_append_dropWhile
  have hstops : Stops isBlank (trimStart s) := stops_dropWhile isBlank s
  unfold firstWord? at h
  split at h
  · cases h
  · next hne =>
    cases h
    obtain ⟨c, u, hword⟩ := List.exists_cons_of_ne_nil hne
    rw [hword, stops_cons] at hstops
    refine ⟨s.takeWhile isBlank, (trimStart s).dropWhile fun c ↦ !isBlank c, ?_,
      fun c hc ↦ List.mem_takeWhile_imp hc, ?_, ?_, stops_dropWhile _ _⟩
    · rw [List.append_assoc, List.takeWhile_append_dropWhile, hsplit]
    · simp [hword, hstops]
    · intro d hd
      have hpart := List.mem_takeWhile_imp hd
      rwa [Bool.not_eq_true'] at hpart

theorem firstWord?_eq_none : firstWord? s = none ↔ ∀ c ∈ s, isBlank c = true := by
  rw [← List.dropWhile_eq_nil_iff]
  unfold firstWord? trimStart
  split
  · next hnil => exact iff_of_true rfl hnil
  · next hne => exact iff_of_false nofun hne

end EntitySql.Text
