import EntitySql.Proofs.ConditionText.Written

/-!
# Conditions read back

The tokens of a condition are read as the clause that it stands for, however it nests: a negation
takes its parentheses and no more, and what stands under a connective is either a predicate or in
parentheses of its own.
-/

namespace EntitySql.ConditionText

open Text

/-! ## Operands joined by separators -/

section Joined

variable {α : Type} {separator? : List Token → Option (List Token)} {operand : Reader α}
  {join : α → α → α} {ends : List Token → Prop} {s : List Token} {t : Token}

/-- Before such a rest, the reader takes these tokens off and goes no further. -/
def Reads (reader : Reader α) (ends : List Token → Prop) (tokens : List Token) (a : α) : Prop :=
  ∀ s, ends s → reader (tokens ++ s) = some (a, s)

theorem more_stop (hs : separator? s = none) (count : Nat) (left : α) :
    more separator? operand join count left s = some (left, s) := by
  cases count with
  | zero => rfl
  | succ count => simp only [more, hs]

theorem ends_parts (hends : ∀ s, ends (t :: s)) (hs : ends s) (parts : List (List Token × α)) :
    ends (parts.flatMap (fun part ↦ t :: part.1) ++ s) := by
  cases parts with
  | nil => exact hs
  | cons part parts => exact hends _

theorem more_parts (hstep : ∀ s, separator? (t :: s) = some s) (hends : ∀ s, ends (t :: s))
    (hs : ends s) (hstop : separator? s = none) (parts : List (List Token × α))
    (hparts : ∀ part ∈ parts, Reads operand ends part.1 part.2) (count : Nat)
    (hcount : parts.length ≤ count) (left : α) :
    more separator? operand join count left (parts.flatMap (fun part ↦ t :: part.1) ++ s) =
      some (parts.foldl (fun l part ↦ join l part.2) left, s) := by
  induction parts generalizing count left with
  | nil => exact more_stop hstop count left
  | cons part parts ih =>
    obtain ⟨count, rfl⟩ : ∃ n, count = n + 1 := Nat.exists_eq_add_one.2 (by simp at hcount; omega)
    have hpart := hparts part (by simp) _ (ends_parts hends hs parts)
    have htail := ih (fun p hp ↦ hparts p (by simp [hp])) count (by simpa using hcount)
    simp only [List.flatMap_cons, List.cons_append, List.append_assoc, more, hstep, hpart,
      Option.bind_some, List.foldl_cons]
    exact htail _

/-- Operands with a separator between each two of them are joined from the left. -/
theorem joined_parts (join : α → α → α) (hstep : ∀ s, separator? (t :: s) = some s)
    (hends : ∀ s, ends (t :: s)) (hs : ends s) (hstop : separator? s = none)
    {first : List Token} {a : α} (hfirst : Reads operand ends first a)
    (parts : List (List Token × α))
    (hparts : ∀ part ∈ parts, Reads operand ends part.1 part.2) :
    joined separator? operand join (first ++ (parts.flatMap (fun part ↦ t :: part.1) ++ s)) =
      some (parts.foldl (fun l part ↦ join l part.2) a, s) := by
  have hcount : parts.length ≤ (parts.flatMap (fun part ↦ t :: part.1) ++ s).length := by
    clear hparts
    induction parts with
    | nil => simp
    | cons part parts ih => simp at ih ⊢; omega
  rw [joined, hfirst _ (ends_parts hends hs parts), Option.bind_some]
  exact more_parts hstep hends hs hstop parts hparts _ hcount a

theorem joined_single {rest : List Token} {a : α} (hfirst : operand s = some (a, rest))
    (hstop : separator? rest = none) : joined separator? operand join s = some (a, rest) := by
  rw [joined, hfirst, Option.bind_some]
  exact more_stop hstop _ _

end Joined

/-! ## Terms -/

variable {d : Dialect} {s : List Token} {depth : Nat}

/-- No function and no concatenation goes on into such a rest. -/
structure TermEnds (s : List Token) : Prop where
  opening : s.head? ≠ some .opening
  join : s.head? ≠ some .join

theorem sign_eq_none {t : Token} (h : s.head? ≠ some t) : sign t s = none := by
  cases s with
  | nil => rfl
  | cons u s =>
    have hne : u ≠ t := by simpa using h
    rw [sign, if_neg hne]

theorem sign_cons (t : Token) (s : List Token) : sign t (t :: s) = some s := if_pos rfl

theorem term_of_operand {tokens : List Token} {t : Term} {rest : List Token}
    (h : operand (term depth) tokens = some (t, rest)) (hrest : rest.head? ≠ some .join) :
    term (depth + 1) tokens = some (t, rest) :=
  joined_single h (sign_eq_none hrest)

theorem operand_word {nested : Reader Term} {name : String} (hs : s.head? ≠ some .opening) :
    operand nested (.word name :: s) =
      if sameIgnoringCase name "NULL" then some (.null, s)
      else if isReserved name then none
      else some (.column name, s) := by
  cases s with
  | nil => rfl
  | cons t s => cases t <;> first | rfl | exact absurd rfl hs

theorem not_sameIgnoringCase_of_not_isReserved {name : String} (h : isReserved name = false)
    (word : String) (hword : word ∈ reservedWords) : sameIgnoringCase name word = false := by
  rw [isReserved, List.any_eq_false] at h
  simpa using h word hword

/-- An identifier is a column, since no reserved word stands without quotes. -/
theorem operand_identifier {nested : Reader Term} (name : String)
    (hs : s.head? ≠ some .opening) :
    operand nested (identifierToken name :: s) = some (.column name, s) := by
  unfold identifierToken
  cases hr : isReserved name with
  | true => rfl
  | false =>
    have hnull := not_sameIgnoringCase_of_not_isReserved hr "NULL" (by decide)
    rw [if_neg (by decide), operand_word hs, hnull, hr]
    rfl

theorem term_identifier (name : String) (hs : TermEnds s) :
    term (depth + 1) (identifierToken name :: s) = some (.column name, s) :=
  term_of_operand (operand_identifier name hs.opening) hs.join

theorem term_param (name : String) (hs : TermEnds s) :
    term (depth + 1) (.param name :: s) = some (.param name, s) :=
  term_of_operand rfl hs.join

theorem term_number (n : Nat) (hs : TermEnds s) :
    term (depth + 1) (.number n :: s) = some (.number n, s) :=
  term_of_operand rfl hs.join

theorem term_null (hs : TermEnds s) : term (depth + 1) (.word "NULL" :: s) = some (.null, s) := by
  refine term_of_operand ?_ hs.join
  rw [operand_word hs.opening, if_pos (by decide)]

theorem termEnds_closing (s : List Token) : TermEnds (.closing :: s) := ⟨by simp, by simp⟩

/-- A function that makes text upper case, whichever of its names it has. -/
theorem operand_upper {tokens : List Token} {t : Term}
    (h : term depth (tokens ++ .closing :: s) = some (t, .closing :: s)) :
    operand (term depth) (upperTokens d tokens ++ s) = some (.upper t, s) := by
  have hname : (sameIgnoringCase d.style.upperFunction "UPPER" ||
      sameIgnoringCase d.style.upperFunction "UCASE") = true := by
    cases d <;> decide
  simp only [upperTokens, List.cons_append, List.append_assoc, List.nil_append, operand, call,
    if_pos hname, h, Option.bind_some, closed, Option.map_some]

/-! ## Concatenations -/

/-- Tokens that are read as an operand whatever follows, where brackets may nest once. -/
def IsOperand (tokens : List Token) (t : Term) : Prop :=
  ∀ depth, Reads (operand (term (depth + 1))) (fun _ ↦ True) tokens t

theorem isOperand_wildcard : IsOperand [.string "%"] (.string "%") := fun _ _ _ ↦ rfl

theorem isOperand_upper_param (name : String) :
    IsOperand (upperTokens d [.param name]) (.upper (.param name)) :=
  fun _ s _ ↦ operand_upper (term_param name (termEnds_closing s))

theorem intercalate_cons (t : Token) (first : List Token) (parts : List (List Token)) :
    [t].intercalate (first :: parts) = first ++ parts.flatMap (t :: ·) := by
  induction parts generalizing first with
  | nil => simp
  | cons part parts ih =>
    rw [List.intercalate_cons_cons, ih]
    simp

/-- The concatenation of a dialect is read as its parts joined from the left, whether it has a sign
or a function for that. -/
theorem term_concat {first : List Token} {t : Term} (parts : List (List Token × Term))
    (hfirst : IsOperand first t) (hparts : ∀ part ∈ parts, IsOperand part.1 part.2)
    (hs : s.head? ≠ some .join) :
    term (depth + 3) (concatTokens d (first :: parts.map (·.1)) ++ s) =
      some (parts.foldl (fun l part ↦ .join l part.2) t, s) := by
  unfold concatTokens
  split
  · have h := joined_parts Term.join (sign_cons .join) (fun _ ↦ trivial) trivial
      (sign_eq_none hs) (hfirst (depth + 1)) parts (fun part hp ↦ hparts part hp (depth + 1))
    simpa [term, intercalate_cons, List.flatMap_map] using h
  · next function hform =>
    have hname : function = "CONCAT" := by
      cases d <;> cases hform
      rfl
    have hread {tokens : List Token} {u : Term} (h : IsOperand tokens u) :
        Reads (term (depth + 2)) (fun s ↦ s.head? ≠ some .join) tokens u :=
      fun s hs ↦ term_of_operand (h depth s trivial) hs
    have h := joined_parts (s := .closing :: s) Term.join (sign_cons .comma)
      (fun _ ↦ by simp) (by simp) (sign_eq_none (by simp)) (hread hfirst) parts
      (fun part hp ↦ hread (hparts part hp))
    refine term_of_operand ?_ hs
    have hupper :
        (sameIgnoringCase "CONCAT" "UPPER" || sameIgnoringCase "CONCAT" "UCASE") = false := by
      decide
    have hconcat : sameIgnoringCase "CONCAT" "CONCAT" = true := by decide
    simp only [hname, intercalate_cons, List.flatMap_map, List.cons_append, List.append_assoc,
      List.nil_append, operand, call, hupper, hconcat, if_true, h, Option.bind_some, closed]
    rfl

/-! ## Predicates -/

def patternTerm (method : StringMethod) (t : Term) : Term :=
  match method with
  | .contains => .join (.join (.string "%") t) (.string "%")
  | .startsWith => .join t (.string "%")
  | .endsWith => .join (.string "%") t

/-- The pattern of a string method is read as the needle between its wildcards. -/
theorem term_pattern (method : StringMethod) (param : String) (hs : s.head? ≠ some .join) :
    term (depth + 3) (patternTokens d method (upperTokens d [.param param]) ++ s) =
      some (patternTerm method (.upper (.param param)), s) := by
  have hwildcard := isOperand_wildcard
  have hparam := isOperand_upper_param (d := d) param
  cases method with
  | contains =>
    exact term_concat
      [(upperTokens d [.param param], .upper (.param param)), ([.string "%"], .string "%")]
      hwildcard (by simp [hparam, hwildcard]) hs
  | startsWith => exact term_concat [([.string "%"], .string "%")] hparam (by simp [hwildcard]) hs
  | endsWith =>
    exact term_concat [(upperTokens d [.param param], .upper (.param param))] hwildcard
      (by simp [hparam]) hs

/-- A predicate ends here: at the end, at a closing bracket or before a connective. -/
inductive PredicateEnds : List Token → Prop
  | nil : PredicateEnds []
  | closing (s : List Token) : PredicateEnds (.closing :: s)
  | connective (op : Connective) (s : List Token) : PredicateEnds (.word op.sqlKeyword :: s)

theorem PredicateEnds.termEnds (hs : PredicateEnds s) : TermEnds s := by
  cases hs <;> exact ⟨by simp, by simp⟩

theorem termEnds_word (word : String) (s : List Token) : TermEnds (.word word :: s) :=
  ⟨by simp, by simp⟩

theorem termEnds_compare (op : CompareOp) (s : List Token) : TermEnds (.compare op :: s) :=
  ⟨by simp, by simp⟩

theorem predicateOf_flag {term : Reader Term} (t : Term) (hs : PredicateEnds s) :
    predicateOf term t s = some (.flag t, s) := by
  cases hs with
  | nil => rfl
  | closing s => rfl
  | connective op s => cases op <;> rfl

theorem predicateOf_like {term : Reader Term} (t : Term) (s : List Token) :
    predicateOf term t (.word "LIKE" :: s) =
      (term s).map fun pattern ↦ (.like t pattern.1, pattern.2) := rfl

theorem keyword?_self (word : String) (s : List Token) :
    keyword? word (.word word :: s) = some s := by
  simp [keyword?, sameIgnoringCase]

/-- No identifier is taken for a keyword. -/
theorem keyword?_identifierToken {word : String} (hword : word ∈ reservedWords) (name : String)
    (s : List Token) : keyword? word (identifierToken name :: s) = none := by
  unfold identifierToken
  cases hr : isReserved name with
  | true => rfl
  | false =>
    rw [if_neg (by decide), keyword?, not_sameIgnoringCase_of_not_isReserved hr word hword]
    rfl

theorem negation_of_predicate {term : Reader Term} {nested : Reader Clause}
    {tokens : List Token} (hnot : keyword? "NOT" tokens = none)
    (hopening : tokens.head? ≠ some .opening) :
    negation term nested tokens = predicate term tokens := by
  cases tokens with
  | nil => rfl
  | cons t tokens =>
    cases t with
    | word name =>
      have hname : ¬ sameIgnoringCase name "NOT" = true := by
        intro h
        simp [keyword?, h] at hnot
      rw [negation, if_neg hname]
      rfl
    | opening => exact absurd rfl hopening
    | _ => rfl

theorem predicate_compare {term : Reader Term} {a b : Term} {op : CompareOp}
    {tokens rest : List Token} (ha : term tokens = some (a, .compare op :: rest))
    (hb : term rest = some (b, s)) : predicate term tokens = some (.compare op a b, s) := by
  rw [predicate, ha, Option.bind_some, predicateOf, hb]
  rfl

end EntitySql.ConditionText

namespace EntitySql.Condition

open ConditionText

def toClause : Condition → Clause
  | .always holds => .compare .eq (.number 1) (.number (if holds then 1 else 0))
  | .flag column => .flag (.column column)
  | .isNull column => .isNull (.column column)
  | .isNotNull column => .isNotNull (.column column)
  | .compareNull column op => .compare op (.column column) .null
  | .compareParam column op param => .compare op (.column column) (.param param)
  | .compareColumns left op right => .compare op (.column left) (.column right)
  | .like column method param =>
    .like (.upper (.column column)) (patternTerm method (.upper (.param param)))
  | .not inner => .not inner.toClause
  | .connect op left right => .connect op left.toClause right.toClause

/-- How deep brackets nest in the text of a condition. -/
def nesting : Condition → Nat
  | .like .. => 2
  | .not inner => inner.nesting + 1
  | .connect _ left right => max left.nesting right.nesting + 1
  | _ => 0

variable {d : Dialect} {s : List Token}

/-- A condition without connectives is read as its clause. -/
theorem reads_predicate (c : Condition) (hc : c.isCompound = false) {depth : Nat}
    (hdepth : c.nesting ≤ depth) (hs : PredicateEnds s) :
    predicate (term (depth + 1)) (c.tokens d ++ s) = some (c.toClause, s) := by
  have hends := hs.termEnds
  cases c with
  | always holds =>
    exact predicate_compare (term_number 1 (termEnds_compare _ _)) (term_number _ hends)
  | flag column =>
    rw [predicate]
    simp only [tokens, List.cons_append, List.nil_append, term_identifier column hends,
      Option.bind_some]
    exact predicateOf_flag _ hs
  | isNull column =>
    rw [predicate]
    simp only [tokens, List.cons_append, List.nil_append,
      term_identifier column (termEnds_word _ _), Option.bind_some]
    rfl
  | isNotNull column =>
    rw [predicate]
    simp only [tokens, List.cons_append, List.nil_append,
      term_identifier column (termEnds_word _ _), Option.bind_some]
    rfl
  | compareNull column op =>
    exact predicate_compare (term_identifier column (termEnds_compare _ _)) (term_null hends)
  | compareParam column op param =>
    exact predicate_compare (term_identifier column (termEnds_compare _ _)) (term_param _ hends)
  | compareColumns left op right =>
    exact predicate_compare (term_identifier left (termEnds_compare _ _))
      (term_identifier right hends)
  | like column method param =>
    obtain ⟨n, rfl⟩ : ∃ n, depth = n + 2 := Nat.exists_eq_add_of_le' hdepth
    have htext (rest : List Token) :
        term (n + 3) (upperTokens d [identifierToken column] ++ .word "LIKE" :: rest) =
          some (.upper (.column column), .word "LIKE" :: rest) :=
      term_of_operand (operand_upper (term_identifier column (termEnds_closing _))) (by simp)
    rw [tokens, predicate, List.append_assoc, List.cons_append, htext, Option.bind_some]
    rw [predicateOf_like, term_pattern method param hends.join]
    rfl
  | not inner => cases hc
  | connect op left right => cases hc

theorem tokens_head {c : Condition} (hc : c.isCompound = false) (s : List Token) :
    keyword? "NOT" (c.tokens d ++ s) = none ∧ (c.tokens d ++ s).head? ≠ some .opening := by
  have hidentifier (name : String) (s : List Token) :
      keyword? "NOT" (identifierToken name :: s) = none ∧
        (identifierToken name :: s).head? ≠ some .opening := by
    refine ⟨keyword?_identifierToken (by decide) name s, ?_⟩
    unfold identifierToken
    split <;> simp
  cases c with
  | always holds => exact ⟨rfl, by simp [tokens]⟩
  | like column method param => exact ⟨by cases d <;> rfl, by simp [tokens, upperTokens]⟩
  | not inner => cases hc
  | connect op left right => cases hc
  | _ => exact hidentifier _ _

/-- What stands under a connective is read as an operand of it. -/
theorem reads_bracketed {c : Condition} {depth : Nat} (hdepth : c.nesting ≤ depth)
    (hinner : ∀ s, c.isCompound = true →
      clause depth (c.tokens d ++ .closing :: s) = some (c.toClause, .closing :: s))
    (hs : PredicateEnds s) :
    negation (term (depth + 1)) (clause depth) (bracketed c (c.tokens d) ++ s) =
      some (c.toClause, s) := by
  unfold bracketed
  cases hc : c.isCompound with
  | true =>
    simp only [if_true, List.cons_append, List.append_assoc, List.nil_append, negation, primary,
      hinner s hc, Option.bind_some, closed]
  | false =>
    have hhead := tokens_head (d := d) hc s
    rw [if_neg (by decide), negation_of_predicate hhead.1 hhead.2]
    exact reads_predicate c hc hdepth hs

/-- A clause ends at the end or at a closing bracket. -/
inductive ClauseEnds : List Token → Prop
  | nil : ClauseEnds []
  | closing (s : List Token) : ClauseEnds (.closing :: s)

theorem ClauseEnds.predicateEnds (hs : ClauseEnds s) : PredicateEnds s := by
  cases hs with
  | nil => exact .nil
  | closing s => exact .closing s

theorem ClauseEnds.keyword? (hs : ClauseEnds s) (word : String) : keyword? word s = none := by
  cases hs <;> rfl

theorem clause_of_negation {depth : Nat} {tokens : List Token} {c : Clause}
    (h : negation (term (depth + 1)) (clause depth) tokens = some (c, s)) (hs : ClauseEnds s) :
    clause (depth + 1) tokens = some (c, s) :=
  joined_single (joined_single h (hs.keyword? "AND")) (hs.keyword? "OR")

theorem clause_of_predicate {c : Condition} (hc : c.isCompound = false) {depth : Nat}
    (hdepth : c.nesting ≤ depth) (hs : ClauseEnds s) :
    clause (depth + 1) (c.tokens d ++ s) = some (c.toClause, s) := by
  have hhead := tokens_head (d := d) hc s
  refine clause_of_negation ?_ hs
  rw [negation_of_predicate hhead.1 hhead.2]
  exact reads_predicate c hc hdepth hs.predicateEnds

/-- A negation has its operand in brackets. -/
theorem negation_not {term : Reader Term} {nested : Reader Clause} {tokens : List Token}
    {c : Clause} (h : nested (tokens ++ .closing :: s) = some (c, .closing :: s)) :
    negation term nested (.word "NOT" :: .opening :: (tokens ++ [.closing]) ++ s) =
      some (.not c, s) := by
  have hnot : Text.sameIgnoringCase "NOT" "NOT" = true := by decide
  simp only [List.cons_append, List.append_assoc, List.nil_append, negation, hnot, if_true,
    primary, h, Option.bind_some, closed, Option.map_some]

/-- Two operands of a connective, of which neither reaches further than its own tokens. -/
theorem clause_connect {op : Connective} {depth : Nat} {left right : List Token} {a b : Clause}
    (hleft : Reads (negation (term (depth + 1)) (clause depth)) PredicateEnds left a)
    (hright : Reads (negation (term (depth + 1)) (clause depth)) PredicateEnds right b)
    (hs : ClauseEnds s) :
    clause (depth + 1) (left ++ .word op.sqlKeyword :: right ++ s) =
      some (.connect op a b, s) := by
  cases op with
  | and =>
    have h := joined_parts (Clause.connect .and) (keyword?_self "AND")
      (fun s ↦ .connective .and s) hs.predicateEnds
      (hs.keyword? "AND") hleft [(right, b)] (by simpa using hright)
    refine joined_single ?_ (hs.keyword? "OR")
    simpa [conjunction, Connective.sqlKeyword] using h
  | or =>
    have hsingle {tokens : List Token} {c : Clause}
        (h : Reads (negation (term (depth + 1)) (clause depth)) PredicateEnds tokens c) :
        Reads (conjunction (term (depth + 1)) (clause depth))
          (fun s ↦ PredicateEnds s ∧ keyword? "AND" s = none) tokens c :=
      fun s hs ↦ joined_single (h s hs.1) hs.2
    have h := joined_parts (Clause.connect .or) (keyword?_self "OR")
      (fun s ↦ ⟨.connective .or s, rfl⟩)
      ⟨hs.predicateEnds, hs.keyword? "AND"⟩ (hs.keyword? "OR") (hsingle hleft) [(right, b)]
      (by simpa using hsingle hright)
    simpa [clause, disjunction, Connective.sqlKeyword] using h

/-- The tokens of a condition are read as its clause, where brackets may nest as deep as they
do in it. -/
theorem reads_clause (c : Condition) {depth : Nat} (hdepth : c.nesting ≤ depth)
    (hs : ClauseEnds s) : clause (depth + 1) (c.tokens d ++ s) = some (c.toClause, s) := by
  induction c generalizing depth s with
  | not inner ih =>
    obtain ⟨depth, rfl⟩ : ∃ n, depth = n + 1 := Nat.exists_eq_add_of_le' (by
      rw [nesting] at hdepth; omega)
    have hinner := ih (s := .closing :: s) (Nat.le_of_succ_le_succ hdepth) (.closing s)
    exact clause_of_negation (negation_not hinner) hs
  | connect op left right ihl ihr =>
    obtain ⟨depth, rfl⟩ : ∃ n, depth = n + 1 := Nat.exists_eq_add_of_le' (by
      rw [nesting] at hdepth; omega)
    have hmax : max left.nesting right.nesting ≤ depth := Nat.le_of_succ_le_succ hdepth
    have hl : left.nesting ≤ depth := by omega
    have hr : right.nesting ≤ depth := by omega
    refine clause_connect ?_ ?_ hs
    · intro s hs
      exact reads_bracketed (by omega) (fun s _ ↦ ihl hl (.closing s)) hs
    · intro s hs
      exact reads_bracketed (by omega) (fun s _ ↦ ihr hr (.closing s)) hs
  | _ => exact clause_of_predicate (by rfl) hdepth hs

/-- A text has more tokens than levels of brackets. -/
theorem nesting_lt (c : Condition) : c.nesting < (c.tokens d).length + 1 := by
  induction c with
  | like column method param =>
    simp only [nesting, tokens, upperTokens, List.length_append, List.length_cons]
    omega
  | not inner ih =>
    simp only [nesting, tokens, List.length_append, List.length_cons]
    omega
  | connect op left right ihl ihr =>
    have hbracketed (c : Condition) : (c.tokens d).length ≤ (bracketed c (c.tokens d)).length := by
      unfold bracketed
      split
      · simp only [List.length_cons, List.length_append]
        omega
      · exact Nat.le_refl _
    have hl := hbracketed left
    have hr := hbracketed right
    simp only [nesting, tokens, List.length_append, List.length_cons]
    omega
  | _ => simp [nesting, tokens]

/-- The text of a condition is read as the clause that the condition stands for. -/
theorem read_render (c : Condition)
    (hcolumns : ∀ column ∈ c.columns, Text.isAsciiName column.toList = true)
    (hparams : ∀ param ∈ c.params, IsParamName param) :
    Clause.read? d (c.render d.style) = some c.toClause := by
  have hlex : lex d (c.render d.style).toList = some (c.tokens d) := by
    simpa using lexes_render (d := d) c hcolumns hparams [] (by simp)
  have hread := reads_clause (d := d) (s := []) c (Nat.le_of_lt_succ (c.nesting_lt (d := d))) .nil
  rw [List.append_nil] at hread
  rw [Clause.read?, hlex]
  simp only [hread]

end EntitySql.Condition
