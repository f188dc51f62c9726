import EntitySql.Proofs.Filter.Token

/-!
# What is read derives

A reader that succeeds has found a derivation of its expression, and leaves the rest of it. The
loops of the reader build their operands from the left, as the rules of the grammar do, so that
each turn of a loop is one rule.
-/

namespace EntitySql.Filter

open Text Number

namespace Reply

variable {α β : Type} {reply : Reply α} {next : α → Reader β} {b : β} {t : List Char}

theorem bind_eq_ok : reply.bind next = .ok b t ↔ ∃ a u, reply = .ok a u ∧ next a u = .ok b t := by
  cases reply with
  | ok a u =>
    constructor
    · exact fun h ↦ ⟨a, u, rfl, h⟩
    · rintro ⟨_, _, heq, h⟩
      cases heq
      exact h
  | miss stop => simp [Reply.bind]
  | halt stop => simp [Reply.bind]

theorem committed_eq_ok {a : α} : reply.committed = .ok a t ↔ reply = .ok a t := by
  cases reply <;> simp [committed]

end Reply

open Reply (bind_eq_ok committed_eq_ok)

variable {scope : Scope} {nested : Reader Expr} {e : Expr} {es : List Expr}
  {name s t u : List Char}

theorem Identifier.keyword (h : Identifier name s t) : Keyword name s t := by
  cases h with
  | intro start part stops => exact ⟨rfl, stops⟩

theorem derives_named (h : Identifier name s t) :
    Derives scope (.tree .primary (named scope name)) s t := by
  unfold named
  by_cases htrue : name = ['t', 'r', 'u', 'e']
  · rw [if_pos htrue]
    exact .trueWord (htrue ▸ h.keyword)
  by_cases hfalse : name = ['f', 'a', 'l', 's', 'e']
  · rw [if_neg htrue, if_pos hfalse]
    exact .falseWord (hfalse ▸ h.keyword)
  by_cases hnull : name = ['n', 'u', 'l', 'l']
  · rw [if_neg htrue, if_neg hfalse, if_pos hnull]
    exact .nullWord (hnull ▸ h.keyword)
  have hname : name ∉ valueWords := by simp [valueWords, htrue, hfalse, hnull]
  rw [if_neg htrue, if_neg hfalse, if_neg hnull]
  by_cases hrow : name = scope.row
  · rw [if_pos hrow]
    exact .row (hrow ▸ h) (hrow ▸ hname)
  · rw [if_neg hrow]
    exact .column h hname hrow

def Sound (scope : Scope) (nested : Reader Expr) : Prop :=
  ∀ e s t, nested s = .ok e t → Derives scope (.tree .disjunction e) s t

theorem layout_of_closing (h : closing s = .ok () t) : Layout s (')' :: t) := by
  unfold closing at h
  split at h
  · next hskip =>
    cases h
    exact hskip ▸ layout_skip s
  · cases h

theorem derives_of_capture (h : capture scope s = .ok e t) :
    Derives scope (.tree .primary e) ('$' :: s) t := by
  unfold capture at h
  split at h
  · cases h
  · next hname =>
    split at h
    · next hlookup =>
      cases h
      exact .capture (identifier?_eq_some.1 hname) hlookup
    · cases h

theorem quoted_of_stringLiteral {quote : Char} {v : Value} (hquote : quote ≠ '\\')
    (h : stringLiteral quote s = .ok v t) :
    ∃ w, v = .string (String.ofList w) ∧ Quoted quote w s t := by
  unfold stringLiteral at h
  split at h
  · next w rest hbody =>
    cases h
    exact ⟨w, rfl, (stringBody_eq_some hquote).1 hbody⟩
  · cases h

/-- What the reader takes for a simple term is one. -/
theorem derives_of_primary (hnested : Sound scope nested) (h : primary scope nested s = .ok e t) :
    Derives scope (.tree .primary e) s t := by
  cases s with
  | nil => cases h
  | cons c s =>
    rw [primary] at h
    split at h
    · next hopening =>
      subst hopening
      obtain ⟨inner, b, hinner, h⟩ := bind_eq_ok.1 h
      obtain ⟨_, rest, hclosing, h⟩ := bind_eq_ok.1 h
      cases h
      exact .parenthesized (layout_skip s) (hnested _ _ _ hinner) (layout_of_closing hclosing)
    · split at h
      · next hquote =>
        obtain ⟨v, rest, hstring, h⟩ := bind_eq_ok.1 h
        cases h
        have hbackslash : c ≠ '\\' := by
          rintro rfl
          exact absurd hquote (by decide)
        obtain ⟨w, rfl, hquoted⟩ := quoted_of_stringLiteral hbackslash hstring
        exact .string hquote hquoted
      · split at h
        · obtain ⟨v, rest, hnumber, h⟩ := bind_eq_ok.1 h
          cases h
          exact .number (numeral_of_read hnumber)
        · split at h
          · next hdollar =>
            subst hdollar
            exact derives_of_capture h
          · split at h
            · next hname =>
              cases h
              exact derives_named (identifier?_eq_some.1 hname)
            · cases h

theorem derives_of_moreArguments (hnested : Sound scope nested) {n : Nat} {args : List Expr}
    {a : List Char} (hargs : Derives scope (.arguments args) s a)
    (h : moreArguments nested n args a = .ok es t) : Derives scope (.arguments es) s t := by
  induction n generalizing args a with
  | zero =>
    cases h
    exact hargs
  | succ n ih =>
    unfold moreArguments at h
    split at h
    · next b hcomma =>
      split at h
      · next arg rest harg =>
        have hlayout : Layout a (',' :: b) := hcomma ▸ layout_skip a
        exact ih (.arguments hargs hlayout (layout_skip b) (hnested _ _ _ harg)) h
      · cases h
        exact hargs
      · cases h
    · cases h
      exact hargs

/-- A list of arguments ends with a bracket, and may be empty. -/
theorem derives_of_arguments (hnested : Sound scope nested)
    (h : arguments nested s = .ok es t) :
    (es = [] ∧ Layout s (')' :: t)) ∨
      ∃ a, Derives scope (.arguments es) s a ∧ Layout a (')' :: t) := by
  unfold arguments at h
  obtain ⟨args, a, hargs, h⟩ := bind_eq_ok.1 h
  obtain ⟨_, rest, hclosing, h⟩ := bind_eq_ok.1 h
  cases h
  split at hargs
  · next arg rest harg =>
    have hfirst := Derives.argument (layout_skip s) (hnested _ _ _ harg)
    exact .inr ⟨a, derives_of_moreArguments hnested hfirst hargs, layout_of_closing hclosing⟩
  · cases hargs
    exact .inl ⟨rfl, layout_of_closing hclosing⟩
  · cases hargs

theorem derives_of_members (hnested : Sound scope nested) {n : Nat} {target : Expr}
    {a : List Char} (htarget : Derives scope (.tree .access target) s a)
    (h : members nested n target a = .ok e t) : Derives scope (.tree .access e) s t := by
  induction n generalizing target a with
  | zero =>
    cases h
    exact htarget
  | succ n ih =>
    unfold members at h
    split at h
    · next b =>
      split at h
      · cases h
        exact htarget
      · next name rest hname =>
        have hname := identifier?_eq_some.1 hname
        split at h
        · next c hopening =>
          have hlayout : Layout rest ('(' :: c) := hopening ▸ layout_skip rest
          obtain ⟨args, d, hargs, h⟩ := bind_eq_ok.1 h
          rcases derives_of_arguments hnested hargs with ⟨rfl, hclosing⟩ | ⟨b', hargs, hclosing⟩
          · exact ih (.callEmpty htarget hname hlayout hclosing) h
          · exact ih (.call htarget hname hlayout hargs hclosing) h
        · exact ih (.member htarget hname) h
    · cases h
      exact htarget

/-- A term and the members behind it are read as the grammar has them. -/
theorem derives_of_accessed (hnested : Sound scope nested)
    (h : accessed scope nested s = .ok e t) : Derives scope (.tree .access e) s t := by
  obtain ⟨target, rest, htarget, h⟩ := bind_eq_ok.1 h
  exact derives_of_members hnested (.access (derives_of_primary hnested htarget)) h

/-! ## Operators -/

section Operators

variable {ω : Type} {operand : Reader Expr} {sign? : List Char → Option (ω × List Char)}
  {join : ω → Expr → Expr → Expr} {P : Expr → List Char → Prop}

theorem moreOperands_keeps {n : Nat} {left : Expr} {a : List Char}
    (hstep : ∀ left right a b t op, P left a → sign? (skip a) = some (op, b) →
      operand (skip b) = .ok right t → P (join op left right) t)
    (hleft : P left a) (h : moreOperands operand sign? join n left a = .ok e t) : P e t := by
  induction n generalizing left a with
  | zero =>
    cases h
    exact hleft
  | succ n ih =>
    unfold moreOperands at h
    split at h
    · cases h
      exact hleft
    · next hsign =>
      obtain ⟨right, rest, hright, h⟩ := bind_eq_ok.1 h
      exact ih (hstep _ _ _ _ _ _ hleft hsign (committed_eq_ok.1 hright)) h

/-- What holds of the first operand, and is kept by one more, holds of them all. -/
theorem joined_keeps (hfirst : ∀ left a, operand s = .ok left a → P left a)
    (hstep : ∀ left right a b t op, P left a → sign? (skip a) = some (op, b) →
      operand (skip b) = .ok right t → P (join op left right) t)
    (h : joined operand sign? join s = .ok e t) : P e t := by
  obtain ⟨left, a, hleft, h⟩ := bind_eq_ok.1 h
  exact moreOperands_keeps hstep (hfirst left a hleft) h

end Operators

theorem derives_of_sum (hnested : Sound scope nested) (h : sum scope nested s = .ok e t) :
    Derives scope (.tree .sum e) s t := by
  refine joined_keeps (P := fun e t ↦ Derives scope (.tree .sum e) s t) ?_ ?_ h
  · intro left a hleft
    exact .sum (derives_of_accessed hnested hleft)
  · intro left right a b t op hleft hsign hright
    exact .arith hleft (layout_skip a) (sumSign?_eq_some.1 hsign) (layout_skip b)
      (derives_of_accessed hnested hright)

/-- A comparison that is read is one of two sums, or a sum alone. -/
theorem derives_of_comparison (hnested : Sound scope nested)
    (h : comparison scope nested s = .ok e t) : Derives scope (.tree .comparison e) s t := by
  obtain ⟨left, a, hleft, h⟩ := bind_eq_ok.1 h
  have hleft := derives_of_sum hnested hleft
  split at h
  · cases h
    exact .comparison hleft
  · next op b hsign =>
    obtain ⟨right, rest, hright, h⟩ := bind_eq_ok.1 h
    cases h
    exact .compare hleft (layout_skip a) (compareSign_of_read hsign) (layout_skip b)
      (derives_of_sum hnested (committed_eq_ok.1 hright))

theorem not_keyword_of_negationSign? (h : negationSign? s = none) :
    ¬ Keyword ['n', 'o', 't'] s u := by
  intro hkeyword
  rw [negationSign?_eq_some.2 (.inr hkeyword)] at h
  cases h

/-- Negations are read from the outside in. -/
theorem derives_of_negation (hnested : Sound scope nested) {n : Nat} (hn : s.length ≤ n)
    (h : negation scope nested n s = .ok e t) : Derives scope (.tree .negation e) s t := by
  induction n generalizing s e with
  | zero =>
    obtain rfl := List.eq_nil_of_length_eq_zero (Nat.le_zero.1 hn)
    exact .negation (fun _ ↦ not_keyword_of_negationSign? rfl) (derives_of_comparison hnested h)
  | succ n ih =>
    unfold negation at h
    split at h
    · next hsign =>
      exact .negation (fun _ ↦ not_keyword_of_negationSign? hsign)
        (derives_of_comparison hnested h)
    · next a hsign =>
      have hsign := negationSign?_eq_some.1 hsign
      have hlength := hsign.length_lt
      have hskip := (layout_skip a).length_le
      obtain ⟨inner, rest, hinner, h⟩ := bind_eq_ok.1 h
      cases h
      exact .negate hsign (layout_skip a) (ih (by omega) (committed_eq_ok.1 hinner))

theorem derives_of_conjunction (hnested : Sound scope nested)
    (h : conjunction scope nested s = .ok e t) : Derives scope (.tree .conjunction e) s t := by
  refine joined_keeps (P := fun e t ↦ Derives scope (.tree .conjunction e) s t) ?_ ?_ h
  · intro left a hleft
    exact .conjunction (derives_of_negation hnested le_rfl hleft)
  · intro left right a b t op hleft hsign hright
    obtain ⟨c, hsign, heq⟩ := Option.map_eq_some_iff.1 hsign
    cases heq
    exact .conjoin hleft (layout_skip a) (conjunctionSign?_eq_some.1 hsign) (layout_skip b)
      (derives_of_negation hnested le_rfl hright)

theorem derives_of_disjunction (hnested : Sound scope nested)
    (h : disjunction scope nested s = .ok e t) : Derives scope (.tree .disjunction e) s t := by
  refine joined_keeps (P := fun e t ↦ Derives scope (.tree .disjunction e) s t) ?_ ?_ h
  · intro left a hleft
    exact .disjunction (derives_of_conjunction hnested hleft)
  · intro left right a b t op hleft hsign hright
    obtain ⟨c, hsign, heq⟩ := Option.map_eq_some_iff.1 hsign
    cases heq
    exact .disjoin hleft (layout_skip a) (disjunctionSign?_eq_some.1 hsign) (layout_skip b)
      (derives_of_conjunction hnested hright)

/-- Whatever is read at any depth is derived. By induction on the depth. -/
theorem sound_expression (scope : Scope) (depth : Nat) : Sound scope (expression scope depth) := by
  induction depth with
  | zero =>
    intro e s t h
    cases h
  | succ depth ih =>
    intro e s t h
    exact derives_of_disjunction ih h

end EntitySql.Filter
