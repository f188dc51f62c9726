import EntitySql.Filter.Text
import EntitySql.Proofs.Filter.Grammar
import EntitySql.Proofs.Number.PlainText

/-!
# Texts that derive in every place

A text shows an expression at a level of the grammar where it derives it before any rest that does
not go on with a word. What is shown is put together as printed filters are: operands with one
blank around a sign, in parentheses or without, members behind a dot, arguments in a list.
-/

namespace EntitySql.Filter

open Text Number

theorem layout_refl (s : List Char) : Layout s s := ⟨[], rfl, by simp⟩

theorem layout_blank (s : List Char) : Layout (' ' :: s) s := ⟨[' '], rfl, by simp [isLayout]⟩

/-- A name that is read as far as it goes. -/
def IsName (name : String) : Prop :=
  ∀ t, Stops isIdentifierPart t → Identifier name.toList (name.toList ++ t) t

theorem Identifier.isName {w s t : List Char} (h : Identifier w s t) :
    IsName (String.ofList w) := by
  intro u hu
  rw [String.toList_ofList]
  cases h with
  | intro start part stops => exact .intro start part hu

/-- What does not go on with a word does not go on with a number. -/
theorem stops_isDigit {t : List Char} (ht : Stops isIdentifierPart t) : Stops Char.isDigit t := by
  intro c hc
  rw [← Bool.not_eq_true]
  intro hdigit
  have hpart : isIdentifierPart c = true := by
    rw [isIdentifierPart, isNumeric, if_pos (isAscii_of_isDigit hdigit), hdigit]
    simp
  exact Bool.false_ne_true ((ht c hc).symm.trans hpart)

theorem intercalate_cons (sep s : List Char) (ss : List (List Char)) :
    sep.intercalate (s :: ss) = s ++ ss.flatMap (sep ++ ·) := by
  induction ss generalizing s with
  | nil => simp
  | cons next ss ih =>
    rw [List.intercalate_cons_cons, ih, List.flatMap_cons, List.append_assoc, List.append_assoc]

/-- The text derives the expression at the level, whatever comes next that is no part of a word.
It is not the beginning of a negation in words. -/
structure Shows (level : Level) (e : Expr) (s : List Char) : Prop where
  head : s.head? ≠ some 'n'
  derives : ∀ t, Stops isIdentifierPart t → Derives ⟨['x'], []⟩ (.tree level e) (s ++ t) t

namespace Shows

variable {e f : Expr} {s l r : List Char} {level : Level} {name : String} {es : List Expr}

theorem ne_nil (h : Shows level e s) : s ≠ [] := by
  rintro rfl
  exact lt_irrefl _ (h.derives [] (stops_nil _)).length_lt

theorem head_append (h : Shows level e s) (t : List Char) : (s ++ t).head? ≠ some 'n' := by
  obtain ⟨c, u, rfl⟩ := List.exists_cons_of_ne_nil h.ne_nil
  exact h.head

/-! ## From one level to the next -/

theorem access (h : Shows .primary e s) : Shows .access e s :=
  ⟨h.head, fun t ht ↦ .access (h.derives t ht)⟩

theorem sum (h : Shows .access e s) : Shows .sum e s := ⟨h.head, fun t ht ↦ .sum (h.derives t ht)⟩

theorem comparison (h : Shows .sum e s) : Shows .comparison e s :=
  ⟨h.head, fun t ht ↦ .comparison (h.derives t ht)⟩

/-- A text that does not begin like the word of negation is not a negation. -/
theorem negation (h : Shows .comparison e s) : Shows .negation e s := by
  refine ⟨h.head, fun t ht ↦ .negation (fun u hword ↦ ?_) (h.derives t ht)⟩
  have hhead := h.head_append t
  rw [hword.1] at hhead
  exact hhead rfl

theorem disjunction (h : Shows .negation e s) : Shows .disjunction e s :=
  ⟨h.head, fun t ht ↦ .disjunction (.conjunction (h.derives t ht))⟩

/-! ## Constants -/

/-- An integer is read from its digits, with its sign. -/
theorem integer {n : Int64} (h : IsNumeral s n.toInt) : Shows .primary (.const (.int n)) s := by
  obtain ⟨negative, w, rfl, hne, hdigit, hvalue⟩ := h
  have hrun (t : List Char) (ht : Stops isIdentifierPart t) :
      Unsigned negative (.int n) (w ++ t) t :=
    .integer (.intro hne hdigit (stops_isDigit ht)) hvalue
  cases negative with
  | true => exact ⟨by simp, fun t ht ↦ .number (.negative (hrun t ht))⟩
  | false =>
    refine ⟨fun hn ↦ ?_, fun t ht ↦ .number (.positive (hrun t ht))⟩
    exact absurd (hdigit 'n' (List.mem_of_mem_head? hn)) (by decide)

/-- The text of a double with a fraction is read as the same double. -/
theorem fraction {x : Float} {negative : Bool} {m : Nat} {exponent : Int}
    (hx : Binary64.ofFloat x = .finite negative m exponent)
    (hwhole : (Binary64.ofFloat x).toInt? = none) :
    Shows .primary (.const (.float x)) (Layout.plain.write x).toList := by
  obtain ⟨text, w, f, d, htext, hpointed, hnearest⟩ := plain_write_pointed hx hwhole
  have hdigit {c : Char} (hc : c ∈ w) := hpointed.digit c (List.mem_append_left f hc)
  have hreal (t : List Char) (ht : Stops isIdentifierPart t) :
      Unsigned negative (.float x) (text ++ t) t := by
    have hwhole : Digits w (w ++ '.' :: (f ++ t)) ('.' :: (f ++ t)) :=
      .intro hpointed.whole_ne_nil (fun _ ↦ hdigit) (stops_cons.2 (by decide))
    have hfraction : Digits f (f ++ t) t :=
      .intro hpointed.fraction_ne_nil
        (fun c hc ↦ hpointed.digit c (List.mem_append_right w hc)) (stops_isDigit ht)
    have h : Unsigned negative _ _ _ := .real hwhole hfraction
    have hexponent : -(f.length : Int) = d.exponent := by
      rw [hpointed.length_eq, neg_neg]
    rw [hpointed.digits_eq, hexponent, hnearest] at h
    rw [hpointed.text_eq]
    simpa using h
  rw [htext]
  cases negative with
  | true => exact ⟨by simp, fun t ht ↦ .number (.negative (hreal t ht))⟩
  | false =>
    obtain ⟨c, u, rfl⟩ := List.exists_cons_of_ne_nil hpointed.whole_ne_nil
    have hc : c.isDigit = true := hdigit List.mem_cons_self
    refine ⟨?_, fun t ht ↦ .number (.positive (hreal t ht))⟩
    rw [hpointed.text_eq]
    intro hn
    cases hn
    cases hc

/-- Without a backslash, a string is read from its quoted text. -/
theorem string {w : String} (h : '\\' ∉ w.toList) :
    Shows .primary (.const (.string w)) (Expr.quoted w).toList := by
  have hquoted (t : List Char) : Quoted '\x22' w.toList (w.toList.flatMap (fun c ↦
      if c = '\x22' then ['\\', c] else [c]) ++ '\x22' :: t) t := by
    generalize w.toList = s at h ⊢
    induction s with
    | nil => exact .close
    | cons c s ih =>
      rw [List.mem_cons, not_or] at h
      rw [List.flatMap_cons]
      split
      · next hquote =>
        subst hquote
        exact .escape (c := '\x22') (ih h.2)
      · next hquote => exact .plain (Ne.symm h.1) hquote (ih h.2)
  refine ⟨?_, fun t _ ↦ ?_⟩
  · rw [Expr.quoted, String.toList_ofList]
    simp
  · have hstring := @Derives.string ⟨['x'], []⟩ _ _ _ _ (.inl rfl) (hquoted t)
    rw [String.ofList_toList] at hstring
    rw [Expr.quoted, String.toList_ofList]
    simpa using hstring

/-! ## Brackets and signs -/

theorem parenthesized (h : Shows .disjunction e s) : Shows .primary e ('(' :: s ++ [')']) := by
  refine ⟨by simp, fun t _ ↦ ?_⟩
  have hinner := h.derives (')' :: t) (stops_cons.2 (by decide))
  simpa using Derives.parenthesized (layout_refl _) hinner (layout_refl _)

theorem negate (h : Shows .disjunction e s) :
    Shows .negation (.not e) ('!' :: '(' :: s ++ [')']) := by
  refine ⟨by simp, fun t ht ↦ ?_⟩
  have hinner := h.parenthesized.access.sum.comparison.negation.derives t ht
  exact .negate (.inl rfl) (layout_refl _) hinner

theorem before_blank (h : Shows level e s) (t : List Char) :
    Derives ⟨['x'], []⟩ (.tree level e) (s ++ ' ' :: t) (' ' :: t) :=
  h.derives _ (stops_cons.2 (by decide))

/-- A sign with one blank on each side of it begins as its left operand does. -/
theorem spaced {looser : Level} {whole : Expr} {sign : List Char} (hl : Shows level e l)
    (h : ∀ t, Stops isIdentifierPart t → Derives ⟨['x'], []⟩ (.tree looser whole)
      (l ++ ' ' :: (sign ++ ' ' :: (r ++ t))) t) :
    Shows looser whole (l ++ ' ' :: sign ++ ' ' :: r) := by
  refine ⟨?_, fun t ht ↦ ?_⟩
  · rw [List.append_assoc]
    exact hl.head_append _
  · simpa using h t ht

/-- Sums with a sign of comparison between them show a comparison. -/
theorem compare (op : CompareOp) (hl : Shows .sum e l) (hr : Shows .sum f r) :
    Shows .comparison (.compare op e f) (l ++ ' ' :: op.filterSymbol.toList ++ ' ' :: r) := by
  have hsign (t : List Char) : CompareSign op (op.filterSymbol.toList ++ t) t := by
    cases op <;> constructor
  exact hl.spaced fun t ht ↦
    .compare (hl.before_blank _) (layout_blank _) (hsign _) (layout_blank _) (hr.derives t ht)

theorem arith {op : ArithOp} (hop : op = .add ∨ op = .sub) (hl : Shows .sum e l)
    (hr : Shows .access f r) : Shows .primary (.arith op e f)
      ('(' :: (l ++ ' ' :: op.symbol.toList ++ ' ' :: r) ++ [')']) := by
  have hsign (t : List Char) : SumSign op (op.symbol.toList ++ t) t := by
    rcases hop with rfl | rfl <;> constructor
  have hsum : Shows .sum (.arith op e f) (l ++ ' ' :: op.symbol.toList ++ ' ' :: r) :=
    hl.spaced fun t ht ↦
      .arith (hl.before_blank _) (layout_blank _) (hsign _) (layout_blank _) (hr.derives t ht)
  exact hsum.comparison.negation.disjunction.parenthesized

/-- A connective is shown in brackets, whatever its operands are. -/
theorem connect (op : Connective) (hl : Shows .negation e l) (hr : Shows .negation f r) :
    Shows .primary (.connect op e f)
      ('(' :: (l ++ ' ' :: op.filterSymbol.toList ++ ' ' :: r) ++ [')']) := by
  suffices h : Shows .disjunction (.connect op e f)
      (l ++ ' ' :: op.filterSymbol.toList ++ ' ' :: r) from h.parenthesized
  apply hl.spaced
  intro t ht
  have hleft := Derives.conjunction (hl.before_blank (op.filterSymbol.toList ++ ' ' :: (r ++ t)))
  have hright := hr.derives t ht
  cases op with
  | and =>
    exact .disjunction (.conjoin hleft (layout_blank _) (.inl rfl) (layout_blank _) hright)
  | or =>
    exact .disjoin (.disjunction hleft) (layout_blank _) (.inl rfl) (layout_blank _)
      (.conjunction hright)

/-! ## Members and calls -/

theorem before_dot (h : Shows .access e s) (t : List Char) :
    Derives ⟨['x'], []⟩ (.tree .access e) (s ++ '.' :: t) ('.' :: t) :=
  h.derives _ (stops_cons.2 (by decide))

/-- A name behind a dot shows a member. -/
theorem member (h : Shows .access e s) (hname : IsName name) :
    Shows .access (.member e name) (s ++ '.' :: name.toList) := by
  refine ⟨h.head_append _, fun t ht ↦ ?_⟩
  have hmember := Derives.member (h.before_dot (name.toList ++ t)) (hname t ht)
  rw [String.ofList_toList] at hmember
  simpa using hmember

/-- Each further argument of a list, behind a comma. -/
theorem arguments {ss : List (List Char)} {done : List Expr} {t u : List Char}
    (h : List.Forall₂ (Shows .disjunction) es ss) (ht : Stops isIdentifierPart t)
    (hdone : Derives ⟨['x'], []⟩ (.arguments done) u (ss.flatMap ([',', ' '] ++ ·) ++ t)) :
    Derives ⟨['x'], []⟩ (.arguments (done ++ es)) u t := by
  induction h generalizing done with
  | nil =>
    rw [List.append_nil]
    exact hdone
  | @cons e s es ss he _ ih =>
    have hstops : Stops isIdentifierPart (ss.flatMap ([',', ' '] ++ ·) ++ t) := by
      cases ss with
      | nil => exact ht
      | cons s ss => exact stops_cons.2 (by decide)
    have harg := he.derives _ hstops
    rw [List.flatMap_cons] at hdone
    have hnext := Derives.arguments (by simpa using hdone) (layout_refl _) (layout_blank _) harg
    have hall := ih hnext
    rwa [List.append_assoc] at hall

/-- Arguments are shown in a list with commas, which may be empty. -/
theorem call {ss : List (List Char)} (h : Shows .access e s) (hname : IsName name)
    (hargs : List.Forall₂ (Shows .disjunction) es ss) :
    Shows .access (.call e name es)
      (s ++ '.' :: name.toList ++ '(' :: [',', ' '].intercalate ss ++ [')']) := by
  refine ⟨?_, fun t _ ↦ ?_⟩
  · rw [List.append_assoc, List.append_assoc]
    exact h.head_append _
  have hopening (u : List Char) : Stops isIdentifierPart ('(' :: u) := stops_cons.2 (by decide)
  have hclosing : Stops isIdentifierPart (')' :: t) := stops_cons.2 (by decide)
  have htarget := h.before_dot (name.toList ++ '(' :: ([',', ' '].intercalate ss ++ ')' :: t))
  have hcall : Derives ⟨['x'], []⟩ (.tree .access (.call e (String.ofList name.toList) es))
      (s ++ '.' :: (name.toList ++ '(' :: ([',', ' '].intercalate ss ++ ')' :: t))) t := by
    cases hargs with
    | nil => exact .callEmpty htarget (hname _ (hopening _)) (layout_refl _) (layout_refl _)
    | @cons f r fs rs hf hfs =>
      have hstops : Stops isIdentifierPart (rs.flatMap ([',', ' '] ++ ·) ++ ')' :: t) := by
        cases rs with
        | nil => exact hclosing
        | cons s ss => exact stops_cons.2 (by decide)
      have hfirst := Derives.argument (layout_refl _) (hf.derives _ hstops)
      have hall := arguments hfs hclosing hfirst
      rw [← List.append_assoc, ← intercalate_cons] at hall
      exact .call htarget (hname _ (hopening _)) (layout_refl _) hall (layout_refl _)
  rw [String.ofList_toList] at hcall
  simpa using hcall

end Shows

end EntitySql.Filter
