import EntitySql.Proofs.Filter.Follow
import EntitySql.Proofs.Filter.ReadSound

/-!
# What derives is read

A reader never looks beyond the rest of its phrase for more than the character that comes next
after layout. Where that character can follow the phrase in a filter, every loop of the reader
stops there, and the expression that was derived is the one that is read.
-/

namespace EntitySql.Filter

open Text Number

variable {scope : Scope} {nested : Reader Expr} {e : Expr} {c : Char} {s t u : List Char}

/-! ## Where no operand begins -/

/-- Where no operand begins, no primary expression is read. -/
theorem primary_unexpected (h : isOperandStart c = false) :
    primary scope nested (c :: s) = .unexpected (c :: s) := by
  simp only [isOperandStart, Bool.or_eq_false_iff, beq_eq_false_iff_ne] at h
  obtain ⟨⟨⟨⟨⟨⟨hopening, hdouble⟩, hsingle⟩, hminus⟩, hdigit⟩, hdollar⟩, hstart⟩ := h
  simp [primary, identifier?, hopening, hdouble, hsingle, hminus, hdigit, hdollar, hstart]

theorem sum_unexpected (h : isOperandStart c = false) :
    sum scope nested (c :: s) = .unexpected (c :: s) := by
  rw [sum, joined, accessed, primary_unexpected h]
  rfl

theorem comparison_unexpected (h : isOperandStart c = false) :
    comparison scope nested (c :: s) = .unexpected (c :: s) := by
  rw [comparison, sum_unexpected h]
  rfl

theorem negationSign?_of_not_start (h : isOperandStart c = false) (hc : c ≠ '!') :
    negationSign? (c :: s) = none := by
  have hn : c ≠ 'n' := by
    rintro rfl
    cases h
  simp [negationSign?, keyword?, symbol?, hc.symm, hn.symm]

theorem negation_unexpected (h : isOperandStart c = false) (hc : c ≠ '!') (n : Nat) :
    negation scope nested n (c :: s) = .unexpected (c :: s) := by
  cases n with
  | zero => exact comparison_unexpected h
  | succ n =>
    rw [negation, negationSign?_of_not_start h hc]
    exact comparison_unexpected h

/-- Nor is an expression of any level read there, unless it is a negation. -/
theorem expression_unexpected (h : isOperandStart c = false) (hc : c ≠ '!') (depth : Nat) :
    expression scope depth (c :: s) = .unexpected (c :: s) := by
  cases depth with
  | zero => rfl
  | succ depth =>
    rw [expression, disjunction, joined, conjunction, joined, negated, negation_unexpected h hc]
    rfl

/-! ## Primary expressions -/

theorem Identifier.head (h : Identifier u s t) :
    ∃ c v, s = c :: v ∧ isIdentifierStart c = true := by
  cases h with
  | intro start part stops => exact ⟨_, _, rfl, start⟩

/-- A word is read as what it names, for no other primary expression begins with a letter. -/
theorem primary_of_identifier {name : List Char} (h : Identifier name s t) :
    primary scope nested s = .ok (named scope name) t := by
  obtain ⟨c, v, rfl, hstart⟩ := h.head
  have hne {d : Char} (hd : isIdentifierStart d = false) : c ≠ d := by
    rintro rfl
    rw [hd] at hstart
    cases hstart
  have hdigit : ¬ (c = '-' ∨ c.isDigit = true) := by
    rintro (hminus | hdigit)
    · exact hne (by decide) hminus
    · exact not_isIdentifierStart_of_isDigit hdigit hstart
  have hquote : ¬ (c = '\x22' ∨ c = '\x27') := by
    rintro (hdouble | hsingle)
    · exact hne (by decide) hdouble
    · exact hne (by decide) hsingle
  rw [primary, if_neg (hne (by decide)), if_neg hquote, if_neg hdigit, if_neg (hne (by decide)),
    identifier?_eq_some.2 h]

theorem named_row (h : scope.row ∉ valueWords) : named scope scope.row = .row := by
  simp only [valueWords, List.mem_cons, List.not_mem_nil, or_false, not_or] at h
  rw [named, if_neg h.1, if_neg h.2.1, if_neg h.2.2, if_pos rfl]

theorem named_column {name : List Char} (h : name ∉ valueWords) (hrow : name ≠ scope.row) :
    named scope name = .column (String.ofList name) := by
  simp only [valueWords, List.mem_cons, List.not_mem_nil, or_false, not_or] at h
  rw [named, if_neg h.1, if_neg h.2.1, if_neg h.2.2, if_neg hrow]

theorem primary_of_keyword {w : List Char} (h : Keyword (c :: w) s t)
    (hstart : isIdentifierStart c = true) (hpart : w.all isIdentifierPart = true) :
    primary scope nested s = .ok (named scope (c :: w)) t := by
  apply primary_of_identifier
  rw [h.1]
  exact .intro hstart (List.all_eq_true.1 hpart) h.2

theorem primary_of_numeral {v : Value} (h : Numeral v s t) (hfraction : NoFraction t) :
    primary scope nested s = .ok (.const v) t := by
  obtain ⟨c, u, rfl, hc⟩ := h.head
  have hne {d : Char} (hminus : '-' ≠ d) (hdigit : d.isDigit = false) : c ≠ d := by
    rintro rfl
    rcases hc with hc | hc
    · exact hminus hc.symm
    · rw [hdigit] at hc
      cases hc
  have hquote : ¬ (c = '\x22' ∨ c = '\x27') := by
    rintro (hdouble | hsingle)
    · exact hne (by decide) (by decide) hdouble
    · exact hne (by decide) (by decide) hsingle
  rw [primary, if_neg (hne (by decide) (by decide)), if_neg hquote, if_pos hc,
    read_of_numeral h hfraction]
  rfl

/-- A string is read with its escapes, up to its own quote. -/
theorem primary_of_quoted {quote : Char} {w : List Char} (hquote : quote = '\x22' ∨ quote = '\x27')
    (h : Quoted quote w s t) :
    primary scope nested (quote :: s) = .ok (.const (.string (String.ofList w))) t := by
  have hopening : quote ≠ '(' := by rcases hquote with rfl | rfl <;> decide
  have hbackslash : quote ≠ '\\' := by rcases hquote with rfl | rfl <;> decide
  rw [primary, if_neg hopening, if_pos hquote, stringLiteral, (stringBody_eq_some hbackslash).2 h]
  rfl

theorem primary_of_capture {name : List Char} {v : Value} (h : Identifier name s t)
    (hlookup : scope.captures.lookup (String.ofList name) = some v) :
    primary scope nested ('$' :: s) = .ok (.const v) t := by
  rw [primary, if_neg (by decide), if_neg (by decide), if_neg (by decide), if_pos rfl, capture,
    identifier?_eq_some.2 h]
  simp only [hlookup]

theorem closing_of_layout (h : Layout s (')' :: t)) : closing s = .ok () t := by
  rw [closing, h.skip_cons rfl]
  rfl

theorem primary_of_parenthesized {a b : List Char} (ha : skip s = a)
    (hnested : nested a = .ok e b) (hb : Layout b (')' :: t)) :
    primary scope nested ('(' :: s) = .ok e t := by
  rw [primary, if_pos rfl, parenthesized, ha, hnested, Reply.bind, closing_of_layout hb]
  rfl

/-! ## Members and calls -/

def NoCall (s : List Char) : Prop := ∀ u, skip s ≠ '(' :: u

theorem Identifier.noFraction {name : List Char} (h : Identifier name s t) :
    NoFraction ('.' :: s) := by
  intro u hu
  cases hu
  obtain ⟨c, v, rfl, hstart⟩ := h.head
  rw [stops_cons, ← Bool.not_eq_true]
  exact fun hdigit ↦ not_isIdentifierStart_of_isDigit hdigit hstart

theorem noCall_dot (s : List Char) : NoCall ('.' :: s) := by
  intro u hu
  cases hu

theorem Follows.noFraction (h : Follows .access s) : NoFraction s := by
  rintro u rfl
  exact absurd (h '.' u rfl) (by decide)

theorem Follows.noCall (h : Follows .access s) : NoCall s := by
  intro u hu
  exact absurd (h '(' u hu) (by decide)

/-- The loop over members stops where no dot follows. -/
theorem members_stop (h : Follows .access s) (n : Nat) : members nested n e s = .ok e s := by
  cases n with
  | zero => rfl
  | succ n =>
    unfold members
    split
    · next u => exact absurd (h '.' u rfl) (by decide)
    · rfl

theorem members_member {name : List Char} (h : Identifier name s t) (hcall : NoCall t) (n : Nat) :
    members nested (n + 1) e ('.' :: s) =
      members nested n (.member e (String.ofList name)) t := by
  rw [members, identifier?_eq_some.2 h]
  simp only
  split
  · next u hu => exact absurd hu (hcall u)
  · rfl

/-- Brackets behind the name of a member make it a call. -/
theorem members_call {name a b : List Char} {es : List Expr} (h : Identifier name s a)
    (hopening : Layout a ('(' :: b)) (hargs : arguments nested b = .ok es t) (n : Nat) :
    members nested (n + 1) e ('.' :: s) =
      members nested n (.call e (String.ofList name) es) t := by
  rw [members, identifier?_eq_some.2 h]
  simp only [hopening.skip_cons rfl, hargs]
  rfl

/-- The loop over members gets to an expression and to the rest behind it, with turns to spare for
all of that rest. -/
def Accesses (scope : Scope) (nested : Reader Expr) (s : List Char) (e : Expr) (t : List Char) :
    Prop :=
  ∃ n, t.length ≤ n ∧ accessed scope nested s = members nested n e t

theorem Accesses.first (h : primary scope nested s = .ok e t) : Accesses scope nested s e t := by
  refine ⟨t.length, le_rfl, ?_⟩
  rw [accessed, h]
  rfl

/-- A step of the loop takes a turn, and leaves enough of them for what is shorter. -/
theorem Accesses.more {target : Expr} {a : List Char}
    (h : Accesses scope nested s target ('.' :: a))
    (hstep : ∀ n, members nested (n + 1) target ('.' :: a) = members nested n e t)
    (hlength : t.length < a.length) : Accesses scope nested s e t := by
  obtain ⟨n, hn, hread⟩ := h
  rw [List.length_cons] at hn
  obtain ⟨m, rfl⟩ := Nat.exists_eq_succ_of_ne_zero (show n ≠ 0 by omega)
  refine ⟨m, by omega, ?_⟩
  calc
    accessed scope nested s = members nested (m + 1) target ('.' :: a) := hread
    _ = members nested m e t := hstep m

theorem Accesses.stop (h : Accesses scope nested s e t) (ht : Follows .access t) :
    accessed scope nested s = .ok e t := by
  obtain ⟨n, -, hread⟩ := h
  rw [hread, members_stop ht]

/-! ## Arguments -/

theorem moreArguments_stop {es : List Expr} (h : Layout s (')' :: t)) (n : Nat) :
    moreArguments nested n es s = .ok es s := by
  cases n with
  | zero => rfl
  | succ n =>
    rw [moreArguments, h.skip_cons rfl]
    rfl

theorem moreArguments_step {es : List Expr} {a b : List Char} (hcomma : Layout s (',' :: a))
    (ha : skip a = b) (harg : nested b = .ok e t) (n : Nat) :
    moreArguments nested (n + 1) es s = moreArguments nested n (es ++ [e]) t := by
  rw [moreArguments, hcomma.skip_cons rfl]
  simp only [ha, harg]

def Gathers (nested : Reader Expr) (s : List Char) (es : List Expr) (t : List Char) : Prop :=
  ∃ e u n, nested (skip s) = .ok e u ∧ t.length ≤ n ∧
    moreArguments nested u.length [e] u = moreArguments nested n es t

theorem Gathers.first {a : List Char} (ha : skip s = a) (h : nested a = .ok e t) :
    Gathers nested s [e] t :=
  ⟨e, t, t.length, ha ▸ h, le_rfl, rfl⟩

/-- One more argument takes one more turn of the loop, and leaves enough of them. -/
theorem Gathers.more {es : List Expr} {a b c : List Char} (h : Gathers nested s es a)
    (hcomma : Layout a (',' :: b)) (hc : skip b = c) (harg : nested c = .ok e t)
    (hlength : t.length < a.length) : Gathers nested s (es ++ [e]) t := by
  obtain ⟨first, u, n, hfirst, hn, hread⟩ := h
  obtain ⟨m, rfl⟩ := Nat.exists_eq_succ_of_ne_zero (show n ≠ 0 by omega)
  refine ⟨first, u, m, hfirst, by omega, ?_⟩
  calc
    moreArguments nested u.length [first] u = moreArguments nested (m + 1) es a := hread
    _ = moreArguments nested m (es ++ [e]) t := moreArguments_step hcomma hc harg m

theorem Gathers.stop {es : List Expr} (h : Gathers nested s es t) (ht : Layout t (')' :: u)) :
    arguments nested s = .ok es u := by
  obtain ⟨first, v, n, hfirst, -, hread⟩ := h
  rw [arguments, hfirst]
  simp only [hread, moreArguments_stop ht, Reply.bind, closing_of_layout ht]

/-- Brackets with nothing but layout in them have no arguments. -/
theorem arguments_nil (h : Layout s (')' :: t)) (depth : Nat) :
    arguments (expression scope depth) s = .ok [] t := by
  rw [arguments, h.skip_cons rfl, expression_unexpected rfl (by decide)]
  change (closing s).bind _ = _
  rw [closing_of_layout h]
  rfl

/-! ## Operators -/

section Operators

variable {ω : Type} {operand : Reader Expr} {sign? : List Char → Option (ω × List Char)}
  {join : ω → Expr → Expr → Expr} {left right : Expr} {a b : List Char} {op : ω}

/-- The loop over operands gets to an expression and to the rest behind it, with turns to spare for
all of that rest. -/
def Reaches (operand : Reader Expr) (sign? : List Char → Option (ω × List Char))
    (join : ω → Expr → Expr → Expr) (s : List Char) (e : Expr) (t : List Char) : Prop :=
  ∃ n, t.length ≤ n ∧ joined operand sign? join s = moreOperands operand sign? join n e t

theorem Reaches.first (h : operand s = .ok e t) : Reaches operand sign? join s e t := by
  refine ⟨t.length, le_rfl, ?_⟩
  rw [joined, h]
  rfl

theorem Reaches.more (h : Reaches operand sign? join s left a)
    (hsign : sign? (skip a) = some (op, b)) (hright : operand (skip b) = .ok right t)
    (hlength : t.length < a.length) : Reaches operand sign? join s (join op left right) t := by
  obtain ⟨n, hn, hread⟩ := h
  obtain ⟨m, rfl⟩ := Nat.exists_eq_succ_of_ne_zero (show n ≠ 0 by omega)
  refine ⟨m, by omega, ?_⟩
  calc
    joined operand sign? join s = moreOperands operand sign? join (m + 1) left a := hread
    _ = moreOperands operand sign? join m (join op left right) t := by
      rw [moreOperands, hsign]
      simp only [hright]
      rfl

/-- The loop over operands ends where no sign of its own follows. -/
theorem Reaches.stop (h : Reaches operand sign? join s e t) (hsign : sign? (skip t) = none) :
    joined operand sign? join s = .ok e t := by
  obtain ⟨n, -, hread⟩ := h
  rw [hread]
  cases n with
  | zero => rfl
  | succ n => rw [moreOperands, hsign]

/-- An operator and its right operand, with the layout around the sign. -/
theorem Reaches.operator {c d : List Char} (h : Reaches operand sign? join s left a)
    (ha : Layout a b) (hheads : Heads level b) (hsign : sign? b = some (op, c))
    (hlength : c.length < b.length) (hc : Layout c d) (hd : skip c = d)
    (hright : operand d = .ok right t) (ht : t.length < d.length) :
    Reaches operand sign? join s (join op left right) t := by
  have haLength := ha.length_le
  have hcLength := hc.length_le
  have hread : sign? (skip a) = some (op, c) := by rw [hheads.skip_eq ha, hsign]
  have hoperand : operand (skip c) = .ok right t := by rw [hd, hright]
  exact h.more hread hoperand (by omega)

end Operators

/-! ## Phrases -/

/-- The phrase is read off the text, where its rest lets it end. A loop of the reader is left
running, with turns to spare for the rest, since the phrase may be the beginning of a longer one. -/
def Phrase.IsRead (scope : Scope) (depth : Nat) : Phrase → List Char → List Char → Prop
  | .tree .primary e, s, t =>
    NoFraction t → primary scope (expression scope depth) s = .ok e t
  | .tree .access e, s, t =>
    NoFraction t → NoCall t → Accesses scope (expression scope depth) s e t
  | .tree .sum e, s, t =>
    Follows .access t → Reaches (accessed scope (expression scope depth)) sumSign? .arith s e t
  | .tree .comparison e, s, t =>
    Follows .comparison t → comparison scope (expression scope depth) s = .ok e t
  | .tree .negation e, s, t =>
    Follows .negation t → ∀ n, s.length ≤ n →
      negation scope (expression scope depth) n s = .ok e t
  | .tree .conjunction e, s, t =>
    Follows .negation t → Reaches (negated scope (expression scope depth))
      (fun s ↦ (conjunctionSign? s).map ((), ·)) (fun _ ↦ .connect .and) s e t
  | .tree .disjunction e, s, t =>
    Follows .conjunction t → Reaches (conjunction scope (expression scope depth))
      (fun s ↦ (disjunctionSign? s).map ((), ·)) (fun _ ↦ .connect .or) s e t
  | .arguments es, s, t =>
    Follows .disjunction t → Gathers (expression scope (depth + 1)) s es t

section Reads

variable {depth : Nat}

/-- Where the rest lets a phrase end, the loops of its level are read to their end. -/
theorem accessed_of_isRead (h : (Phrase.tree .access e).IsRead scope depth s t)
    (ht : Follows .access t) : accessed scope (expression scope depth) s = .ok e t :=
  (h ht.noFraction ht.noCall).stop ht

theorem sum_of_isRead (h : (Phrase.tree .sum e).IsRead scope depth s t)
    (ht : Follows .sum t) : sum scope (expression scope depth) s = .ok e t :=
  (h (ht.mono (by simp [Level.followers]))).stop ht.sumSign?

theorem negated_of_isRead (h : (Phrase.tree .negation e).IsRead scope depth s t)
    (ht : Follows .negation t) : negated scope (expression scope depth) s = .ok e t :=
  h ht s.length le_rfl

theorem conjunction_of_isRead (h : (Phrase.tree .conjunction e).IsRead scope depth s t)
    (ht : Follows .conjunction t) : conjunction scope (expression scope depth) s = .ok e t := by
  apply (h (ht.mono (by simp [Level.followers]))).stop
  rw [ht.conjunctionSign?]
  rfl

theorem expression_of_isRead (h : (Phrase.tree .disjunction e).IsRead scope depth s t)
    (ht : Follows .disjunction t) : expression scope (depth + 1) s = .ok e t := by
  apply (h (ht.mono (by simp [Level.followers]))).stop
  rw [ht.disjunctionSign?]
  rfl

/-! ## One rule at a time -/

/-- The phrase is read wherever brackets may nest as deep as the text is long. -/
def Phrase.Reads (scope : Scope) (phrase : Phrase) (s t : List Char) : Prop :=
  ∀ depth, s.length ≤ depth → phrase.IsRead scope depth s t

variable {es : List Expr} {l r : Expr} {name a b d : List Char}

/-- What stands in brackets is read one level deeper, and is shorter than the text with them. -/
theorem reads_parenthesized (ha : Layout s a) (hinner : Derives scope (.tree .disjunction e) a b)
    (hb : Layout b (')' :: t)) (ih : (Phrase.tree .disjunction e).Reads scope a b) :
    (Phrase.tree .primary e).Reads scope ('(' :: s) t := by
  intro depth hdepth _
  have hlength := ha.length_le
  rw [List.length_cons] at hdepth
  obtain ⟨inner, rfl⟩ := Nat.exists_eq_succ_of_ne_zero (show depth ≠ 0 by omega)
  have hfollows : Follows .disjunction b := follows_cons hb rfl (by simp [Level.followers])
  have hread := expression_of_isRead (ih inner (by omega)) hfollows
  exact primary_of_parenthesized (hinner.skip_eq ha) hread hb

/-- A name behind a dot is a member, unless brackets follow it. -/
theorem reads_member (hname : Identifier name a t)
    (ih : (Phrase.tree .access e).Reads scope s ('.' :: a)) :
    (Phrase.tree .access (.member e (String.ofList name))).Reads scope s t := by
  intro depth hdepth _ hcall
  have htarget := ih depth hdepth hname.noFraction (noCall_dot _)
  exact htarget.more (members_member hname hcall) hname.length_lt

theorem reads_callEmpty (hname : Identifier name a b) (hopening : Layout b ('(' :: u))
    (hclosing : Layout u (')' :: t)) (ih : (Phrase.tree .access e).Reads scope s ('.' :: a)) :
    (Phrase.tree .access (.call e (String.ofList name) [])).Reads scope s t := by
  intro depth hdepth _ _
  have htarget := ih depth hdepth hname.noFraction (noCall_dot _)
  have hlength := length_lt_of_brackets hname hopening le_rfl hclosing
  exact htarget.more (members_call hname hopening (arguments_nil hclosing depth)) hlength

/-- The brackets of a call are one level deeper, like those around an expression. -/
theorem reads_call (htarget : Derives scope (.tree .access e) s ('.' :: a))
    (hname : Identifier name a b) (hopening : Layout b ('(' :: u))
    (hargs : Derives scope (.arguments es) u d) (hclosing : Layout d (')' :: t))
    (ih : (Phrase.tree .access e).Reads scope s ('.' :: a))
    (ihargs : (Phrase.arguments es).Reads scope u d) :
    (Phrase.tree .access (.call e (String.ofList name) es)).Reads scope s t := by
  intro depth hdepth _ _
  have hlength := length_lt_of_brackets hname hopening hargs.length_lt.le hclosing
  have htargetLength := htarget.length_lt
  have hnameLength := hname.length_lt
  have hopeningLength := hopening.length_le
  simp only [List.length_cons] at htargetLength hopeningLength
  obtain ⟨inner, rfl⟩ := Nat.exists_eq_succ_of_ne_zero (show depth ≠ 0 by omega)
  have hfollows : Follows .disjunction d := follows_cons hclosing rfl (by simp [Level.followers])
  have hgathers := ihargs inner (by omega) hfollows
  have haccesses := ih _ hdepth hname.noFraction (noCall_dot _)
  exact haccesses.more (members_call hname hopening (hgathers.stop hclosing)) hlength

theorem reads_argument (ha : Layout s a) (harg : Derives scope (.tree .disjunction e) a t)
    (ih : (Phrase.tree .disjunction e).Reads scope a t) :
    (Phrase.arguments [e]).Reads scope s t := by
  intro depth hdepth ht
  exact .first (harg.skip_eq ha) (expression_of_isRead (ih depth (ha.length_le.trans hdepth)) ht)

/-- One more argument behind a comma. -/
theorem reads_arguments (hargs : Derives scope (.arguments es) s a) (ha : Layout a (',' :: b))
    (hb : Layout b u) (harg : Derives scope (.tree .disjunction e) u t)
    (ihargs : (Phrase.arguments es).Reads scope s a)
    (ih : (Phrase.tree .disjunction e).Reads scope u t) :
    (Phrase.arguments (es ++ [e])).Reads scope s t := by
  intro depth hdepth ht
  have hargsLength := hargs.length_lt
  have haLength := ha.length_le
  have hbLength := hb.length_le
  have hargLength := harg.length_lt
  rw [List.length_cons] at haLength
  have hfollows : Follows .disjunction a := follows_cons ha rfl (by simp [Level.followers])
  have hread := expression_of_isRead (ih depth (by omega)) ht
  exact (ihargs depth hdepth hfollows).more ha (harg.skip_eq hb) hread (by omega)

theorem reads_arith {op : ArithOp} (hl : Derives scope (.tree .sum l) s a) (ha : Layout a b)
    (hsign : SumSign op b u) (hc : Layout u d) (hr : Derives scope (.tree .access r) d t)
    (ihl : (Phrase.tree .sum l).Reads scope s a) (ihr : (Phrase.tree .access r).Reads scope d t) :
    (Phrase.tree .sum (.arith op l r)).Reads scope s t := by
  intro depth hdepth ht
  have hlength := (length_lt_of_sign ha hsign.length_lt hc).trans hl.length_lt
  have hright := accessed_of_isRead (ihr depth (hlength.le.trans hdepth)) ht
  have hleft := ihl depth hdepth (hsign.heads.follows ha)
  exact hleft.operator ha hsign.heads (sumSign?_eq_some.2 hsign) hsign.length_lt hc
    (hr.skip_eq hc) hright hr.length_lt

theorem reads_comparison (ih : (Phrase.tree .sum e).Reads scope s t) :
    (Phrase.tree .comparison e).Reads scope s t := by
  intro depth hdepth ht
  have hread := sum_of_isRead (ih depth hdepth) (ht.mono (by simp [Level.followers]))
  change comparison scope (expression scope depth) s = _
  rw [comparison, hread]
  simp only [Reply.bind, ht.compareSign?]

/-- A comparison has one sign at most, so that both of its operands are sums. -/
theorem reads_compare {op : CompareOp} (hl : Derives scope (.tree .sum l) s a) (ha : Layout a b)
    (hsign : CompareSign op b u) (hc : Layout u d) (hr : Derives scope (.tree .sum r) d t)
    (ihl : (Phrase.tree .sum l).Reads scope s a) (ihr : (Phrase.tree .sum r).Reads scope d t) :
    (Phrase.tree .comparison (.compare op l r)).Reads scope s t := by
  intro depth hdepth ht
  have hlength := (length_lt_of_sign ha hsign.length_lt hc).trans hl.length_lt
  have hleft := sum_of_isRead (ihl depth hdepth) (hsign.heads.follows ha)
  have hread : compareSign? (skip a) = some (op, u) := by
    rw [hsign.heads.skip_eq ha]
    exact compareSign?_of_sign hsign (hr.stops_compare hc)
  have hright : sum scope (expression scope depth) (skip u) = .ok r t := by
    rw [hr.skip_eq hc]
    exact sum_of_isRead (ihr depth (hlength.le.trans hdepth))
      (ht.mono (by simp [Level.followers]))
  change comparison scope (expression scope depth) s = _
  rw [comparison, hleft]
  simp only [Reply.bind, hread, hright, Reply.committed]

theorem reads_negation (hword : ∀ u, ¬ Keyword ['n', 'o', 't'] s u)
    (h : Derives scope (.tree .comparison e) s t)
    (ih : (Phrase.tree .comparison e).Reads scope s t) :
    (Phrase.tree .negation e).Reads scope s t := by
  intro depth hdepth ht n _
  have hread := ih depth hdepth ht
  cases n with
  | zero => exact hread
  | succ n =>
    rw [negation, h.not_negationSign hword]
    exact hread

/-- Each negation takes a turn, and its sign at least one character. -/
theorem reads_negate (hsign : NegationSign s a) (ha : Layout a b)
    (h : Derives scope (.tree .negation e) b t) (ih : (Phrase.tree .negation e).Reads scope b t) :
    (Phrase.tree .negation (.not e)).Reads scope s t := by
  intro depth hdepth ht n hn
  have hsignLength := hsign.length_lt
  have haLength := ha.length_le
  obtain ⟨m, rfl⟩ := Nat.exists_eq_succ_of_ne_zero (show n ≠ 0 by omega)
  have hinner := ih depth (by omega) ht m (by omega)
  rw [negation, negationSign?_eq_some.2 hsign]
  simp only [h.skip_eq ha, hinner, Reply.committed, Reply.bind]

theorem reads_conjoin (hl : Derives scope (.tree .conjunction l) s a) (ha : Layout a b)
    (hsign : ConjunctionSign b u) (hc : Layout u d) (hr : Derives scope (.tree .negation r) d t)
    (ihl : (Phrase.tree .conjunction l).Reads scope s a)
    (ihr : (Phrase.tree .negation r).Reads scope d t) :
    (Phrase.tree .conjunction (.connect .and l r)).Reads scope s t := by
  intro depth hdepth ht
  have hlength := (length_lt_of_sign ha hsign.length_lt hc).trans hl.length_lt
  have hread : (conjunctionSign? b).map ((), ·) = some ((), u) := by
    rw [conjunctionSign?_eq_some.2 hsign]
    rfl
  have hright := negated_of_isRead (ihr depth (hlength.le.trans hdepth)) ht
  have hleft := ihl depth hdepth (hsign.heads.follows ha)
  exact hleft.operator ha hsign.heads hread hsign.length_lt hc (hr.skip_eq hc) hright hr.length_lt

theorem reads_disjoin (hl : Derives scope (.tree .disjunction l) s a) (ha : Layout a b)
    (hsign : DisjunctionSign b u) (hc : Layout u d)
    (hr : Derives scope (.tree .conjunction r) d t)
    (ihl : (Phrase.tree .disjunction l).Reads scope s a)
    (ihr : (Phrase.tree .conjunction r).Reads scope d t) :
    (Phrase.tree .disjunction (.connect .or l r)).Reads scope s t := by
  intro depth hdepth ht
  have hlength := (length_lt_of_sign ha hsign.length_lt hc).trans hl.length_lt
  have hread : (disjunctionSign? b).map ((), ·) = some ((), u) := by
    rw [disjunctionSign?_eq_some.2 hsign]
    rfl
  have hright := conjunction_of_isRead (ihr depth (hlength.le.trans hdepth)) ht
  have hleft := ihl depth hdepth (hsign.heads.follows ha)
  exact hleft.operator ha hsign.heads hread hsign.length_lt hc (hr.skip_eq hc) hright hr.length_lt

/-- What derives is read, by induction on the derivation. -/
theorem reads_of_derives {phrase : Phrase} (h : Derives scope phrase s t) :
    phrase.Reads scope s t := by
  induction h with
  | parenthesized ha hinner hb ih => exact reads_parenthesized ha hinner hb ih
  | string hquote h => exact fun _ _ _ ↦ primary_of_quoted hquote h
  | number h => exact fun _ _ ↦ primary_of_numeral h
  | trueWord h => exact fun _ _ _ ↦ primary_of_keyword h rfl rfl
  | falseWord h => exact fun _ _ _ ↦ primary_of_keyword h rfl rfl
  | nullWord h => exact fun _ _ _ ↦ primary_of_keyword h rfl rfl
  | capture h hlookup => exact fun _ _ _ ↦ primary_of_capture h hlookup
  | row h hword =>
    intro _ _ _
    rw [primary_of_identifier h, named_row hword]
  | column h hword hrow =>
    intro _ _ _
    rw [primary_of_identifier h, named_column hword hrow]
  | access _ ih => exact fun depth hdepth hfraction _ ↦ .first (ih depth hdepth hfraction)
  | member _ hname ih => exact reads_member hname ih
  | callEmpty _ hname hopening hclosing ih => exact reads_callEmpty hname hopening hclosing ih
  | call htarget hname hopening hargs hclosing ih ihargs =>
    exact reads_call htarget hname hopening hargs hclosing ih ihargs
  | argument ha harg ih => exact reads_argument ha harg ih
  | arguments hargs ha hb harg ihargs ih => exact reads_arguments hargs ha hb harg ihargs ih
  | sum _ ih => exact fun depth hdepth ht ↦ .first (accessed_of_isRead (ih depth hdepth) ht)
  | arith hl ha hsign hc hr ihl ihr => exact reads_arith hl ha hsign hc hr ihl ihr
  | comparison _ ih => exact reads_comparison ih
  | compare hl ha hsign hc hr ihl ihr => exact reads_compare hl ha hsign hc hr ihl ihr
  | negation hword h ih => exact reads_negation hword h ih
  | negate hsign ha h ih => exact reads_negate hsign ha h ih
  | conjunction _ ih =>
    exact fun depth hdepth ht ↦ .first (negated_of_isRead (ih depth hdepth) ht)
  | conjoin hl ha hsign hc hr ihl ihr => exact reads_conjoin hl ha hsign hc hr ihl ihr
  | disjunction _ ih =>
    exact fun depth hdepth ht ↦ .first (conjunction_of_isRead (ih depth hdepth) ht)
  | disjoin hl ha hsign hc hr ihl ihr => exact reads_disjoin hl ha hsign hc hr ihl ihr

end Reads

end EntitySql.Filter
