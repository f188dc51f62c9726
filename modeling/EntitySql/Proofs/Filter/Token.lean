import EntitySql.Proofs.Filter.Grammar
import EntitySql.Proofs.Number.Reading

/-!
# The tokens of a filter

The reader of a token accepts what the grammar takes for that token, and leaves the same rest.
Signs of comparison and numbers can begin other tokens of their kind, so that there the rest has
to show that the token ends.
-/

namespace EntitySql.Filter

open Text Number

variable {s t u w : List Char}

/-! ## Layout, words and signs -/

theorem layout_skip (s : List Char) : Layout s (skip s) := by
  refine ⟨s.takeWhile isLayout, ?_, ?_⟩
  · exact (List.takeWhile_append_dropWhile).symm
  · intro c hc
    exact List.all_eq_true.1 List.all_takeWhile c hc

theorem symbol?_eq_some : symbol? w s = some t ↔ s = w ++ t := by
  induction w generalizing s with
  | nil => simp [symbol?]
  | cons c w ih =>
    cases s with
    | nil => simp [symbol?]
    | cons d s =>
      rw [symbol?, List.cons_append, List.cons.injEq]
      by_cases h : c = d
      · rw [if_pos h, ih]
        simp [h]
      · rw [if_neg h]
        simp [Ne.symm h]

theorem keyword?_eq_some : keyword? w s = some t ↔ Keyword w s t := by
  unfold keyword? Keyword
  rw [← symbol?_eq_some]
  split
  · next hnone => simp [hnone]
  · next hrest =>
    rw [hrest]
    constructor
    · intro h
      obtain rfl := Option.some.inj h
      exact ⟨rfl, stops_nil _⟩
    · exact fun h ↦ h.1
  · next c rest hrest =>
    rw [hrest]
    by_cases hpart : isIdentifierPart c = true
    · rw [if_pos hpart]
      constructor
      · intro h
        cases h
      · rintro ⟨h, hstops⟩
        obtain rfl := Option.some.inj h
        exact absurd hpart (Bool.eq_false_iff.1 (stops_cons.1 hstops))
    · rw [if_neg hpart]
      constructor
      · intro h
        obtain rfl := Option.some.inj h
        exact ⟨rfl, stops_cons.2 (Bool.eq_false_iff.2 hpart)⟩
      · exact fun h ↦ h.1

/-- An identifier goes as far as its letters, digits and underscores do. -/
theorem identifier_takeWhile {c : Char} (hstart : isIdentifierStart c = true) (s : List Char) :
    Identifier (c :: s.takeWhile isIdentifierPart) (c :: s) (s.dropWhile isIdentifierPart) := by
  have hpart : ∀ d ∈ s.takeWhile isIdentifierPart, isIdentifierPart d = true :=
    List.all_eq_true.1 List.all_takeWhile
  have h := Identifier.intro hstart hpart (stops_dropWhile isIdentifierPart s)
  rwa [List.cons_append, List.takeWhile_append_dropWhile] at h

/-- Reading an identifier and deriving it are the same. -/
theorem identifier?_eq_some {name : List Char} :
    identifier? s = some (name, t) ↔ Identifier name s t := by
  constructor
  · intro h
    cases s with
    | nil => cases h
    | cons c s =>
      by_cases hstart : isIdentifierStart c = true
      · rw [identifier?, if_pos hstart] at h
        cases h
        exact identifier_takeWhile hstart s
      · rw [identifier?, if_neg hstart] at h
        cases h
  · intro h
    cases h with
    | intro start part stops =>
      rw [List.cons_append, identifier?, if_pos start, takeWhile_run part stops,
        dropWhile_run part stops]

/-- A sign or a word that stand for one operator begin differently, so that it does not matter which
is tried first. -/
theorem or_keyword?_eq_some {c d : Char} (hne : c ≠ d) :
    (symbol? (c :: u) s).or (keyword? (d :: w) s) = some t ↔
      s = c :: u ++ t ∨ Keyword (d :: w) s t := by
  rw [Option.or_eq_some_iff, symbol?_eq_some, keyword?_eq_some]
  constructor
  · rintro (h | ⟨-, h⟩)
    · exact .inl h
    · exact .inr h
  · rintro (h | h)
    · exact .inl h
    · refine .inr ⟨?_, h⟩
      rw [h.1, List.cons_append, symbol?, if_neg hne]

theorem disjunctionSign?_eq_some : disjunctionSign? s = some t ↔ DisjunctionSign s t :=
  or_keyword?_eq_some (by decide)

theorem conjunctionSign?_eq_some : conjunctionSign? s = some t ↔ ConjunctionSign s t :=
  or_keyword?_eq_some (by decide)

theorem negationSign?_eq_some : negationSign? s = some t ↔ NegationSign s t :=
  or_keyword?_eq_some (by decide)

theorem mem_of_firstOf {α : Type} {readers : List (α × (List Char → Option (List Char)))} {a : α}
    (h : firstOf readers s = some (a, t)) : ∃ read?, (a, read?) ∈ readers ∧ read? s = some t := by
  induction readers with
  | nil => cases h
  | cons reader others ih =>
    obtain ⟨b, read?⟩ := reader
    unfold firstOf at h
    split at h
    · next hread =>
      cases h
      exact ⟨read?, List.mem_cons_self, hread⟩
    · obtain ⟨other?, hmem, hread⟩ := ih h
      exact ⟨other?, List.mem_cons_of_mem _ hmem, hread⟩

/-- Whatever sign of comparison is read stands there. -/
theorem compareSign_of_read {op : CompareOp} (h : compareSign? s = some (op, t)) :
    CompareSign op s t := by
  obtain ⟨read?, hmem, hread⟩ := mem_of_firstOf h
  simp only [List.mem_cons, Prod.mk.injEq, List.not_mem_nil, or_false] at hmem
  rcases hmem with ⟨rfl, rfl⟩ | ⟨rfl, rfl⟩ | ⟨rfl, rfl⟩ | ⟨rfl, rfl⟩ | ⟨rfl, rfl⟩ | ⟨rfl, rfl⟩ |
    ⟨rfl, rfl⟩ | ⟨rfl, rfl⟩
  all_goals
    rw [symbol?_eq_some.1 hread]
    constructor

/-- A sign of comparison is read whole where its rest does not go on with it. -/
theorem compareSign?_of_sign {op : CompareOp} (h : CompareSign op s t)
    (hstops : Stops (fun c ↦ c == '=' || c == '>') t) : compareSign? s = some (op, t) := by
  have hnext : ∀ c u, t = c :: u → '=' ≠ c ∧ '>' ≠ c := by
    rintro c u rfl
    have hc := stops_cons.1 hstops
    rw [Bool.or_eq_false_iff, beq_eq_false_iff_ne, beq_eq_false_iff_ne] at hc
    exact ⟨hc.1.symm, hc.2.symm⟩
  cases h with
  | eq => rfl
  | ne => rfl
  | neSharp => rfl
  | gte => rfl
  | lte => rfl
  | eqShort =>
    cases t with
    | nil => rfl
    | cons c u => simp [compareSign?, firstOf, symbol?, hnext c u rfl]
  | gt =>
    cases t with
    | nil => rfl
    | cons c u => simp [compareSign?, firstOf, symbol?, hnext c u rfl]
  | lt =>
    cases t with
    | nil => rfl
    | cons c u => simp [compareSign?, firstOf, symbol?, hnext c u rfl]

theorem sumSign?_eq_some {op : ArithOp} : sumSign? s = some (op, t) ↔ SumSign op s t := by
  constructor
  · intro h
    obtain ⟨read?, hmem, hread⟩ := mem_of_firstOf h
    simp only [List.mem_cons, Prod.mk.injEq, List.not_mem_nil, or_false] at hmem
    rcases hmem with ⟨rfl, rfl⟩ | ⟨rfl, rfl⟩
    all_goals
      rw [symbol?_eq_some.1 hread]
      constructor
  · intro h
    cases h with
    | add => rfl
    | sub => rfl

/-! ## Numbers -/

def NoFraction (s : List Char) : Prop := ∀ u, s = '.' :: u → Stops Char.isDigit u

theorem digits_takeWhile (h : s.takeWhile Char.isDigit ≠ []) :
    Digits (s.takeWhile Char.isDigit) s (s.dropWhile Char.isDigit) := by
  have hdigit : ∀ c ∈ s.takeWhile Char.isDigit, c.isDigit = true :=
    List.all_eq_true.1 List.all_takeWhile
  have h := Digits.intro h hdigit (stops_dropWhile Char.isDigit s)
  rwa [List.takeWhile_append_dropWhile] at h

theorem Digits.takeWhile_eq (h : Digits w s t) : s.takeWhile Char.isDigit = w := by
  cases h with
  | intro _ digit stops => exact takeWhile_run digit stops

theorem Digits.dropWhile_eq (h : Digits w s t) : s.dropWhile Char.isDigit = t := by
  cases h with
  | intro _ digit stops => exact dropWhile_run digit stops

theorem Digits.isEmpty_eq (h : Digits w s t) : w.isEmpty = false := by
  cases h with
  | intro nonempty => exact List.isEmpty_eq_false_iff.2 nonempty

theorem Digits.integer?_eq (h : Digits w s t) (negative : Bool) :
    integer? ((if negative then ['-'] else []) ++ w) =
      some (if negative then -(ofDigits w : Int) else ofDigits w) := by
  cases h with
  | intro nonempty digit => exact integer?_of_digits nonempty digit negative

theorem digits_real {negative : Bool} {start f : List Char} (hwhole : Digits w s ('.' :: u))
    (hfraction : Digits f u t) :
    digits negative start s =
      .ok (.float (nearest negative (ofDigits (w ++ f)) (-f.length))) t := by
  unfold digits
  simp only [hwhole.takeWhile_eq, hwhole.dropWhile_eq, hfraction.takeWhile_eq,
    hfraction.dropWhile_eq, hwhole.isEmpty_eq, hfraction.isEmpty_eq, Bool.or_false,
    Bool.false_eq_true, if_false]

theorem digits_integer {negative : Bool} {start : List Char} {m : Int64} (h : Digits w s t)
    (hfraction : NoFraction t)
    (hm : int64? (if negative then -(ofDigits w : Int) else ofDigits w) = some m) :
    digits negative start s = .ok (.int m) t := by
  unfold digits
  simp only [h.takeWhile_eq, h.dropWhile_eq, h.integer?_eq, hm]
  split
  · next u =>
    simp only [(hfraction u rfl).takeWhile_eq, List.isEmpty_nil, Bool.or_true, if_true]
  · rfl

/-- An integer beyond 64 bits is reported with all of its digits. -/
theorem digits_overflow {negative : Bool} {start : List Char} (h : Digits w s t)
    (hfraction : NoFraction t)
    (hm : int64? (if negative then -(ofDigits w : Int) else ofDigits w) = none) :
    digits negative start s =
      .halt ⟨start, .invalidNumber ((if negative then ['-'] else []) ++ w)⟩ := by
  unfold digits
  simp only [h.takeWhile_eq, h.dropWhile_eq, h.integer?_eq, hm]
  split
  · next u =>
    simp only [(hfraction u rfl).takeWhile_eq, List.isEmpty_nil, Bool.or_true, if_true]
  · rfl

theorem digits_nil {negative : Bool} {start : List Char} (h : s.takeWhile Char.isDigit = []) :
    digits negative start s = .unexpected s := by
  have hnone : integer? ((if negative then ['-'] else []) ++ []) = none := by
    cases negative <;> rfl
  unfold digits
  simp only [h, hnone]
  split
  · rfl
  · rfl

/-- A text has no digits to begin with, or they are read, or they are too large. -/
theorem digits_cases (negative : Bool) (start s : List Char) :
    digits negative start s = .unexpected s ∨
    (∃ v t, digits negative start s = .ok v t ∧ Unsigned negative v s t) ∨
    ∃ w t, Digits w s t ∧ int64? (if negative then -(ofDigits w : Int) else ofDigits w) = none ∧
      digits negative start s =
        .halt ⟨start, .invalidNumber ((if negative then ['-'] else []) ++ w)⟩ := by
  by_cases hwhole : s.takeWhile Char.isDigit = []
  · exact .inl (digits_nil hwhole)
  have hdigits := digits_takeWhile hwhole
  by_cases hreal : ∃ u, s.dropWhile Char.isDigit = '.' :: u ∧ u.takeWhile Char.isDigit ≠ []
  · obtain ⟨u, hu, hrun⟩ := hreal
    have hfraction := digits_takeWhile hrun
    rw [hu] at hdigits
    exact .inr (.inl ⟨_, _, digits_real hdigits hfraction, .real hdigits hfraction⟩)
  · have hfraction : NoFraction (s.dropWhile Char.isDigit) := by
      intro u hu
      apply stops_of_takeWhile_eq
      by_contra hrun
      exact hreal ⟨u, hu, hrun⟩
    cases hm : int64? (if negative then -(ofDigits (s.takeWhile Char.isDigit) : Int)
        else ofDigits (s.takeWhile Char.isDigit)) with
    | none => exact .inr (.inr ⟨_, _, hdigits, hm, digits_overflow hdigits hfraction hm⟩)
    | some m =>
      exact .inr (.inl ⟨_, _, digits_integer hdigits hfraction hm,
        .integer hdigits (int64?_eq_some.1 hm)⟩)

/-- Digits that are read are a number without a sign, which may have a fraction. -/
theorem unsigned_of_read {negative : Bool} {start : List Char} {v : Value}
    (h : digits negative start s = .ok v t) : Unsigned negative v s t := by
  rcases digits_cases negative start s with hreply | ⟨v', t', hreply, hread⟩ | ⟨_, _, _, _, hreply⟩
  · rw [hreply] at h
    cases h
  · rw [hreply] at h
    cases h
    exact hread
  · rw [hreply] at h
    cases h

theorem read_of_unsigned {negative : Bool} {start : List Char} {v : Value}
    (h : Unsigned negative v s t) (hfraction : NoFraction t) :
    digits negative start s = .ok v t := by
  cases h with
  | real whole fraction => exact digits_real whole fraction
  | integer h value => exact digits_integer h hfraction (int64?_eq_some.2 value)

theorem numeral_of_read {v : Value} (h : number s = .ok v t) : Numeral v s t := by
  unfold number at h
  split at h
  · exact .negative (unsigned_of_read h)
  · exact .positive (unsigned_of_read h)

/-- A numeral is read whole, unless a fraction goes on behind it. -/
theorem read_of_numeral {v : Value} (h : Numeral v s t) (hfraction : NoFraction t) :
    number s = .ok v t := by
  cases h with
  | negative h => exact read_of_unsigned h hfraction
  | positive h =>
    unfold number
    split
    · obtain ⟨c, u, hs, hc⟩ := h.head
      cases hs
      cases hc
    · exact read_of_unsigned h hfraction

/-! ## Strings -/

section Strings

variable {quote c : Char}

theorem stringBody_escape : stringBody quote ('\\' :: c :: s) =
    (stringBody quote s).map fun x ↦ (escaped c :: x.1, x.2) := by
  rw [stringBody, if_pos rfl]

theorem stringBody_close (hquote : quote ≠ '\\') :
    stringBody quote (quote :: s) = some ([], s) := by
  cases s with
  | nil => rw [stringBody, if_neg hquote, if_pos rfl]
  | cons d s => rw [stringBody, if_neg hquote, if_pos rfl]

theorem stringBody_plain (hbackslash : c ≠ '\\') (hclosing : c ≠ quote) :
    stringBody quote (c :: s) = (stringBody quote s).map fun x ↦ (c :: x.1, x.2) := by
  cases s with
  | nil => simp [stringBody, hbackslash, hclosing]
  | cons d s => rw [stringBody, if_neg hbackslash, if_neg hclosing]

/-- Reading a string and deriving it are the same. -/
theorem stringBody_eq_some (hquote : quote ≠ '\\') :
    stringBody quote s = some (w, t) ↔ Quoted quote w s t := by
  constructor
  · intro h
    induction s using stringBody.induct quote generalizing w with
    | case1 => cases h
    | case2 =>
      rw [stringBody, if_pos rfl] at h
      cases h
    | case3 d s ih =>
      rw [stringBody_escape] at h
      obtain ⟨body, hbody, heq⟩ := Option.map_eq_some_iff.1 h
      cases heq
      exact .escape (ih hbody)
    | case4 s hquote =>
      rw [stringBody_close hquote] at h
      cases h
      exact .close
    | case5 d s hbackslash hclosing ih =>
      rw [stringBody_plain hbackslash hclosing] at h
      obtain ⟨body, hbody, heq⟩ := Option.map_eq_some_iff.1 h
      cases heq
      exact .plain hbackslash hclosing (ih hbody)
  · intro h
    induction h with
    | close => exact stringBody_close hquote
    | escape _ ih =>
      rw [stringBody_escape, ih]
      rfl
    | plain backslash closing _ ih =>
      rw [stringBody_plain backslash closing, ih]
      rfl

end Strings

end EntitySql.Filter
