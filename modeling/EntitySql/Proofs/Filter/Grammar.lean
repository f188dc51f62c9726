import EntitySql.Filter.Reading
import EntitySql.Proofs.Text.Run

/-!
# The grammar of filters

Every rule relates a text to the rest of it: `Derives scope phrase s t` says that `s` begins with
the phrase and goes on with `t`. What a rule asks of the rest is the look-ahead of the grammar.
Identifiers, keywords and runs of digits go as far as they can, and nothing else does: where a
list of operands ends is for the whole filter to decide.
-/

namespace EntitySql.Filter

open Text Number

/-! ## Tokens -/

def Layout (s t : List Char) : Prop := ∃ w, s = w ++ t ∧ ∀ c ∈ w, isLayout c = true

/-- A word that does not go on as an identifier. -/
def Keyword (word s t : List Char) : Prop := s = word ++ t ∧ Stops isIdentifierPart t

inductive Identifier : List Char → List Char → List Char → Prop
  | intro {c : Char} {w t : List Char} (start : isIdentifierStart c = true)
      (part : ∀ d ∈ w, isIdentifierPart d = true) (stops : Stops isIdentifierPart t) :
      Identifier (c :: w) (c :: w ++ t) t

def DisjunctionSign (s t : List Char) : Prop := s = '|' :: '|' :: t ∨ Keyword ['o', 'r'] s t

def ConjunctionSign (s t : List Char) : Prop := s = '&' :: '&' :: t ∨ Keyword ['a', 'n', 'd'] s t

def NegationSign (s t : List Char) : Prop := s = '!' :: t ∨ Keyword ['n', 'o', 't'] s t

inductive CompareSign : CompareOp → List Char → List Char → Prop
  | eq {t : List Char} : CompareSign .eq ('=' :: '=' :: t) t
  | eqShort {t : List Char} : CompareSign .eq ('=' :: t) t
  | ne {t : List Char} : CompareSign .ne ('!' :: '=' :: t) t
  | neSharp {t : List Char} : CompareSign .ne ('<' :: '>' :: t) t
  | gt {t : List Char} : CompareSign .gt ('>' :: t) t
  | gte {t : List Char} : CompareSign .gte ('>' :: '=' :: t) t
  | lt {t : List Char} : CompareSign .lt ('<' :: t) t
  | lte {t : List Char} : CompareSign .lte ('<' :: '=' :: t) t

inductive SumSign : ArithOp → List Char → List Char → Prop
  | add {t : List Char} : SumSign .add ('+' :: t) t
  | sub {t : List Char} : SumSign .sub ('-' :: t) t

inductive Digits : List Char → List Char → List Char → Prop
  | intro {w t : List Char} (nonempty : w ≠ []) (digit : ∀ c ∈ w, c.isDigit = true)
      (stops : Stops Char.isDigit t) : Digits w (w ++ t) t

/-- Digits are a 64-bit integer; with a fraction they are the nearest double. -/
inductive Unsigned (negative : Bool) : Value → List Char → List Char → Prop
  | integer {w s t : List Char} {m : Int64} (digits : Digits w s t)
      (value : m.toInt = if negative then -(ofDigits w : Int) else ofDigits w) :
      Unsigned negative (.int m) s t
  | real {w f s u t : List Char} (whole : Digits w s ('.' :: u)) (fraction : Digits f u t) :
      Unsigned negative (.float (nearest negative (ofDigits (w ++ f)) (-f.length))) s t

inductive Numeral : Value → List Char → List Char → Prop
  | positive {v : Value} {s t : List Char} : Unsigned false v s t → Numeral v s t
  | negative {v : Value} {s t : List Char} : Unsigned true v s t → Numeral v ('-' :: s) t

/-- The text of a string behind its opening quote. -/
inductive Quoted (quote : Char) : List Char → List Char → List Char → Prop
  | close {t : List Char} : Quoted quote [] (quote :: t) t
  | escape {c : Char} {w s t : List Char} :
      Quoted quote w s t → Quoted quote (escaped c :: w) ('\\' :: c :: s) t
  | plain {c : Char} {w s t : List Char} (backslash : c ≠ '\\') (closing : c ≠ quote) :
      Quoted quote w s t → Quoted quote (c :: w) (c :: s) t

/-! ## Rules -/

inductive Level
  | primary
  | access
  | sum
  | comparison
  | negation
  | conjunction
  | disjunction

/-- What a text may derive: an expression of a level, or one argument and more. -/
inductive Phrase
  | tree (level : Level) (e : Expr)
  | arguments (es : List Expr)

def valueWords : List (List Char) :=
  [['t', 'r', 'u', 'e'], ['f', 'a', 'l', 's', 'e'], ['n', 'u', 'l', 'l']]

section Rules

variable (scope : Scope)

/-- What a text begins with, and the rest behind it. Lists of operands and of arguments grow at
their end, so that operators of one level group to the left; a comparison has one sign at most. -/
inductive Derives : Phrase → List Char → List Char → Prop
  | parenthesized {e : Expr} {s a b t : List Char} : Layout s a →
      Derives (.tree .disjunction e) a b → Layout b (')' :: t) →
      Derives (.tree .primary e) ('(' :: s) t
  | string {quote : Char} {w s t : List Char} : quote = '\x22' ∨ quote = '\x27' →
      Quoted quote w s t →
      Derives (.tree .primary (.const (.string (String.ofList w)))) (quote :: s) t
  | number {v : Value} {s t : List Char} : Numeral v s t → Derives (.tree .primary (.const v)) s t
  | trueWord {s t : List Char} : Keyword ['t', 'r', 'u', 'e'] s t →
      Derives (.tree .primary (.const (.bool true))) s t
  | falseWord {s t : List Char} : Keyword ['f', 'a', 'l', 's', 'e'] s t →
      Derives (.tree .primary (.const (.bool false))) s t
  | nullWord {s t : List Char} : Keyword ['n', 'u', 'l', 'l'] s t →
      Derives (.tree .primary (.const .null)) s t
  | capture {v : Value} {name s t : List Char} : Identifier name s t →
      scope.captures.lookup (String.ofList name) = some v →
      Derives (.tree .primary (.const v)) ('$' :: s) t
  | row {s t : List Char} : Identifier scope.row s t → scope.row ∉ valueWords →
      Derives (.tree .primary .row) s t
  | column {name s t : List Char} : Identifier name s t → name ∉ valueWords → name ≠ scope.row →
      Derives (.tree .primary (.column (String.ofList name))) s t
  | access {e : Expr} {s t : List Char} : Derives (.tree .primary e) s t →
      Derives (.tree .access e) s t
  | member {e : Expr} {name s a t : List Char} : Derives (.tree .access e) s ('.' :: a) →
      Identifier name a t → Derives (.tree .access (.member e (String.ofList name))) s t
  | callEmpty {e : Expr} {name s a b c t : List Char} : Derives (.tree .access e) s ('.' :: a) →
      Identifier name a b → Layout b ('(' :: c) → Layout c (')' :: t) →
      Derives (.tree .access (.call e (String.ofList name) [])) s t
  | call {e : Expr} {es : List Expr} {name s a b c d t : List Char} :
      Derives (.tree .access e) s ('.' :: a) → Identifier name a b → Layout b ('(' :: c) →
      Derives (.arguments es) c d → Layout d (')' :: t) →
      Derives (.tree .access (.call e (String.ofList name) es)) s t
  | argument {e : Expr} {s a t : List Char} : Layout s a → Derives (.tree .disjunction e) a t →
      Derives (.arguments [e]) s t
  | arguments {e : Expr} {es : List Expr} {s a b c t : List Char} : Derives (.arguments es) s a →
      Layout a (',' :: b) → Layout b c → Derives (.tree .disjunction e) c t →
      Derives (.arguments (es ++ [e])) s t
  | sum {e : Expr} {s t : List Char} : Derives (.tree .access e) s t → Derives (.tree .sum e) s t
  | arith {op : ArithOp} {l r : Expr} {s a b c d t : List Char} : Derives (.tree .sum l) s a →
      Layout a b → SumSign op b c → Layout c d → Derives (.tree .access r) d t →
      Derives (.tree .sum (.arith op l r)) s t
  | comparison {e : Expr} {s t : List Char} : Derives (.tree .sum e) s t →
      Derives (.tree .comparison e) s t
  | compare {op : CompareOp} {l r : Expr} {s a b c d t : List Char} : Derives (.tree .sum l) s a →
      Layout a b → CompareSign op b c → Layout c d → Derives (.tree .sum r) d t →
      Derives (.tree .comparison (.compare op l r)) s t
  | negation {e : Expr} {s t : List Char} : (∀ u, ¬ Keyword ['n', 'o', 't'] s u) →
      Derives (.tree .comparison e) s t → Derives (.tree .negation e) s t
  | negate {e : Expr} {s a b t : List Char} : NegationSign s a → Layout a b →
      Derives (.tree .negation e) b t → Derives (.tree .negation (.not e)) s t
  | conjunction {e : Expr} {s t : List Char} : Derives (.tree .negation e) s t →
      Derives (.tree .conjunction e) s t
  | conjoin {l r : Expr} {s a b c d t : List Char} : Derives (.tree .conjunction l) s a →
      Layout a b → ConjunctionSign b c → Layout c d → Derives (.tree .negation r) d t →
      Derives (.tree .conjunction (.connect .and l r)) s t
  | disjunction {e : Expr} {s t : List Char} : Derives (.tree .conjunction e) s t →
      Derives (.tree .disjunction e) s t
  | disjoin {l r : Expr} {s a b c d t : List Char} : Derives (.tree .disjunction l) s a →
      Layout a b → DisjunctionSign b c → Layout c d → Derives (.tree .conjunction r) d t →
      Derives (.tree .disjunction (.connect .or l r)) s t

end Rules

/-- A whole filter: a header may name the row, which is otherwise `x`. -/
inductive DerivesFilter (captures : Captures) (s : List Char) (e : Expr) : Prop
  | headed {name a b c d t : List Char} : Layout s a → Identifier name a b →
      Layout b ('=' :: '>' :: c) → Layout c d →
      Derives ⟨name, captures⟩ (.tree .disjunction e) d t → Layout t [] → DerivesFilter captures s e
  | bare {a t : List Char} : Layout s a → Derives ⟨['x'], captures⟩ (.tree .disjunction e) a t →
      Layout t [] → DerivesFilter captures s e

/-! ## The rest of a text -/

variable {scope : Scope} {phrase : Phrase} {level : Level} {e : Expr} {s t w : List Char}

theorem Layout.length_le (h : Layout s t) : t.length ≤ s.length := by
  obtain ⟨w, rfl, -⟩ := h
  simp

/-- Every rule but that of layout takes characters off the text. -/
theorem Keyword.length_lt (h : Keyword w s t) (hw : w ≠ []) : t.length < s.length := by
  have hpos := List.length_pos_iff.2 hw
  rw [h.1, List.length_append]
  omega

/-- A name takes up part of the text, as every sign and number does. -/
theorem Identifier.length_lt (h : Identifier w s t) : t.length < s.length := by
  cases h
  simp only [List.cons_append, List.length_cons, List.length_append]
  omega

theorem DisjunctionSign.length_lt (h : DisjunctionSign s t) : t.length < s.length := by
  rcases h with rfl | h
  · simp only [List.length_cons]
    omega
  · exact h.length_lt (by simp)

theorem ConjunctionSign.length_lt (h : ConjunctionSign s t) : t.length < s.length := by
  rcases h with rfl | h
  · simp only [List.length_cons]
    omega
  · exact h.length_lt (by simp)

theorem NegationSign.length_lt (h : NegationSign s t) : t.length < s.length := by
  rcases h with rfl | h
  · simp
  · exact h.length_lt (by simp)

theorem CompareSign.length_lt {op : CompareOp} (h : CompareSign op s t) :
    t.length < s.length := by
  cases h <;> simp only [List.length_cons] <;> omega

theorem SumSign.length_lt {op : ArithOp} (h : SumSign op s t) : t.length < s.length := by
  cases h <;> simp

theorem Digits.length_lt (h : Digits w s t) : t.length < s.length := by
  cases h with
  | intro nonempty digit stops =>
    have hpos := List.length_pos_iff.2 nonempty
    rw [List.length_append]
    omega

theorem Unsigned.length_lt {negative : Bool} {v : Value} (h : Unsigned negative v s t) :
    t.length < s.length := by
  cases h with
  | integer digits => exact digits.length_lt
  | real whole fraction =>
    have hwhole := whole.length_lt
    have hfraction := fraction.length_lt
    rw [List.length_cons] at hwhole
    omega

theorem Numeral.length_lt {v : Value} (h : Numeral v s t) : t.length < s.length := by
  cases h with
  | positive h => exact h.length_lt
  | negative h => exact h.length_lt.trans (Nat.lt_succ_self _)

theorem Quoted.length_le {quote : Char} (h : Quoted quote w s t) : t.length ≤ s.length := by
  induction h with
  | close => simp
  | escape _ ih =>
    simp only [List.length_cons]
    omega
  | plain _ _ _ ih =>
    rw [List.length_cons]
    omega

/-- What stands behind a sign is shorter than the layout and the sign before it. -/
theorem length_lt_of_sign {a b c d : List Char} (ha : Layout a b) (hsign : c.length < b.length)
    (hc : Layout c d) : d.length < a.length := by
  have haLength := ha.length_le
  have hcLength := hc.length_le
  omega

/-- The rest of a call is shorter than what follows its dot. -/
theorem length_lt_of_brackets {name a b c d : List Char} (hname : Identifier name a b)
    (hopening : Layout b ('(' :: c)) (hargs : d.length ≤ c.length)
    (hclosing : Layout d (')' :: t)) : t.length < a.length := by
  have hnameLength := hname.length_lt
  have hopeningLength := hopening.length_le
  have hclosingLength := hclosing.length_le
  simp only [List.length_cons] at hopeningLength hclosingLength
  omega

/-- No phrase is empty. -/
theorem Derives.length_lt (h : Derives scope phrase s t) : t.length < s.length := by
  induction h with
  | parenthesized ha _ hb ih =>
    have hlayout := ha.length_le
    have hclosing := hb.length_le
    simp only [List.length_cons] at hclosing ⊢
    omega
  | string _ h => exact Nat.lt_succ_of_le h.length_le
  | number h => exact h.length_lt
  | trueWord h => exact h.length_lt (by simp)
  | falseWord h => exact h.length_lt (by simp)
  | nullWord h => exact h.length_lt (by simp)
  | capture h _ => exact h.length_lt.trans (Nat.lt_succ_self _)
  | row h _ => exact h.length_lt
  | column h _ _ => exact h.length_lt
  | member _ h ih =>
    have hname := h.length_lt
    rw [List.length_cons] at ih
    omega
  | callEmpty _ hname hopening hclosing ih =>
    have hrest := length_lt_of_brackets hname hopening le_rfl hclosing
    rw [List.length_cons] at ih
    omega
  | call _ hname hopening _ hclosing ih ihargs =>
    have hrest := length_lt_of_brackets hname hopening ihargs.le hclosing
    rw [List.length_cons] at ih
    omega
  | argument ha _ ih => exact ih.trans_le ha.length_le
  | arguments _ ha hb _ ihargs ih =>
    have hcomma := ha.length_le
    have hlayout := hb.length_le
    rw [List.length_cons] at hcomma
    omega
  | arith _ ha hsign hc _ ihl ihr =>
    have hrest := length_lt_of_sign ha hsign.length_lt hc
    omega
  | compare _ ha hsign hc _ ihl ihr =>
    have hrest := length_lt_of_sign ha hsign.length_lt hc
    omega
  | negate hsign ha _ ih =>
    have hrest := ha.length_le
    have hlt := hsign.length_lt
    omega
  | conjoin _ ha hsign hc _ ihl ihr =>
    have hrest := length_lt_of_sign ha hsign.length_lt hc
    omega
  | disjoin _ ha hsign hc _ ihl ihr =>
    have hrest := length_lt_of_sign ha hsign.length_lt hc
    omega
  | access _ ih => exact ih
  | sum _ ih => exact ih
  | comparison _ ih => exact ih
  | negation _ _ ih => exact ih
  | conjunction _ ih => exact ih
  | disjunction _ ih => exact ih

/-! ## The first character -/

def isOperandStart (c : Char) : Bool :=
  c == '(' || c == '\x22' || c == '\x27' || c == '-' || c.isDigit || c == '$' ||
    isIdentifierStart c

/-- The characters with which an expression of the level may begin. -/
def Level.starts : Level → Char → Bool
  | .negation, c => c == '!' || isOperandStart c
  | .conjunction, c => c == '!' || isOperandStart c
  | .disjunction, c => c == '!' || isOperandStart c
  | _, c => isOperandStart c

def Phrase.Opens : Phrase → List Char → Prop
  | .tree level _, s => ∃ c u, s = c :: u ∧ level.starts c = true
  | .arguments _, _ => True

theorem isOperandStart_of_isDigit {c : Char} (h : c.isDigit = true) : isOperandStart c = true := by
  simp [isOperandStart, h]

theorem isOperandStart_of_isIdentifierStart {c : Char} (h : isIdentifierStart c = true) :
    isOperandStart c = true := by
  simp [isOperandStart, h]

/-- A simple term may open with a name. -/
theorem Identifier.opens (h : Identifier w s t) : (Phrase.tree .primary e).Opens s := by
  cases h with
  | intro start part stops => exact ⟨_, _, rfl, isOperandStart_of_isIdentifierStart start⟩

theorem Digits.head (h : Digits w s t) : ∃ c u, s = c :: u ∧ c.isDigit = true := by
  cases h with
  | intro nonempty digit stops =>
    obtain ⟨c, u, rfl⟩ := List.exists_cons_of_ne_nil nonempty
    exact ⟨c, _, rfl, digit c List.mem_cons_self⟩

theorem Unsigned.head {negative : Bool} {v : Value} (h : Unsigned negative v s t) :
    ∃ c u, s = c :: u ∧ c.isDigit = true := by
  cases h with
  | integer digits => exact digits.head
  | real whole => exact whole.head

/-- A numeral begins with a minus or a digit. -/
theorem Numeral.head {v : Value} (h : Numeral v s t) :
    ∃ c u, s = c :: u ∧ (c = '-' ∨ c.isDigit = true) := by
  cases h with
  | positive h =>
    obtain ⟨c, u, hs, hc⟩ := h.head
    exact ⟨c, u, hs, .inr hc⟩
  | negative h => exact ⟨_, _, rfl, .inl rfl⟩

theorem Numeral.opens {v : Value} (h : Numeral v s t) : (Phrase.tree .primary e).Opens s := by
  obtain ⟨c, u, hs, hc⟩ := h.head
  refine ⟨c, u, hs, ?_⟩
  rcases hc with rfl | hdigit
  · rfl
  · exact isOperandStart_of_isDigit hdigit

/-- A text that derives an expression begins with one of the characters of its level. -/
theorem Derives.opens (h : Derives scope phrase s t) : phrase.Opens s := by
  induction h with
  | parenthesized => exact ⟨_, _, rfl, rfl⟩
  | string hquote =>
    rcases hquote with rfl | rfl
    · exact ⟨_, _, rfl, rfl⟩
    · exact ⟨_, _, rfl, rfl⟩
  | number h => exact h.opens
  | trueWord h => exact ⟨_, _, h.1, rfl⟩
  | falseWord h => exact ⟨_, _, h.1, rfl⟩
  | nullWord h => exact ⟨_, _, h.1, rfl⟩
  | capture => exact ⟨_, _, rfl, rfl⟩
  | row h => exact h.opens
  | column h => exact h.opens
  | negation _ _ ih =>
    obtain ⟨c, u, hs, hc⟩ := ih
    exact ⟨c, u, hs, Bool.or_eq_true_iff.2 (.inr hc)⟩
  | negate hsign =>
    rcases hsign with rfl | h
    · exact ⟨_, _, rfl, rfl⟩
    · exact ⟨_, _, h.1, rfl⟩
  | argument => trivial
  | arguments => trivial
  | member _ _ ih => exact ih
  | callEmpty _ _ _ _ ih => exact ih
  | call _ _ _ _ _ ih => exact ih
  | arith _ _ _ _ _ ih => exact ih
  | compare _ _ _ _ _ ih => exact ih
  | conjoin _ _ _ _ _ ih => exact ih
  | disjoin _ _ _ _ _ ih => exact ih
  | access _ ih => exact ih
  | sum _ ih => exact ih
  | comparison _ ih => exact ih
  | conjunction _ ih => exact ih
  | disjunction _ ih => exact ih

end EntitySql.Filter
