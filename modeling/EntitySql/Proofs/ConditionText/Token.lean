import EntitySql.Number.Reading
import EntitySql.Filter.Expr
import EntitySql.Proofs.Sql.Identifier

/-!
# The tokens of an SQL condition

The text of a condition taken apart as a database does it: words, quoted identifiers, strings,
numbers, parameters and signs, with blanks between them. The quotes of identifiers and the sign
that joins strings are those of the dialect. Reading a token that is followed by a blank, a
bracket, a comma or the end gives that token and goes on behind it.
-/

namespace EntitySql.ConditionText

open Text

inductive Token
  | word (name : String)
  | quoted (name : String)
  | string (text : String)
  | number (n : Nat)
  | param (name : String)
  | compare (op : CompareOp)
  | join
  | opening
  | closing
  | comma
  deriving DecidableEq

def quotes : Dialect → Char × Char
  | .mySql => ('\x60', '\x60')
  | .sqlServer => ('[', ']')
  | .sqlCe => ('[', ']')
  | _ => ('\x22', '\x22')

/-- The sign that joins two strings; one dialect has a function only. -/
def joinSign? : Dialect → Option (List Char)
  | .mySql => none
  | .sqlServer => some ['+']
  | .sqlCe => some ['+']
  | _ => some ['|', '|']

/-- The signs of a dialect, the longer ones before those that begin them. -/
def signs (d : Dialect) : List (List Char × Token) :=
  [(['<', '>'], .compare .ne), (['>', '='], .compare .gte), (['<', '='], .compare .lte),
    (['='], .compare .eq), (['>'], .compare .gt), (['<'], .compare .lt), (['('], .opening),
    ([')'], .closing), ([','], .comma)] ++ ((joinSign? d).map (·, .join)).toList

def sign? (d : Dialect) (s : List Char) : Option (Token × List Char) :=
  ((signs d).find? fun sign ↦ sign.1.isPrefixOf s).map fun sign ↦
    (sign.2, s.drop sign.1.length)

/-- The token that begins with a character, and what follows it. -/
def token? (d : Dialect) (c : Char) (s : List Char) : Option (Token × List Char) :=
  if c.isAlpha || c == '_' then
    some (.word (String.ofList (c :: s.takeWhile isAsciiWordPart)), s.dropWhile isAsciiWordPart)
  else if c.isDigit then
    some (.number (Number.ofDigits (c :: s.takeWhile Char.isDigit)), s.dropWhile Char.isDigit)
  else if c = '@' then
    match s.takeWhile isAsciiWordPart with
    | [] => none
    | name => some (.param (String.ofList name), s.dropWhile isAsciiWordPart)
  else if c = '\x27' then
    (quotedBody? '\x27' s).map fun body ↦ (.string (String.ofList body.1), body.2)
  else if c = (quotes d).1 then
    (quotedBody? (quotes d).2 s).map fun body ↦ (.quoted (String.ofList body.1), body.2)
  else sign? d (c :: s)

/-- The tokens of a text, after `skipped` characters that belong to a token already read. -/
def lexFrom (d : Dialect) : (skipped : Nat) → List Char → Option (List Token)
  | _, [] => some []
  | skipped + 1, _ :: s => lexFrom d skipped s
  | 0, c :: s =>
    if c = ' ' then lexFrom d 0 s
    else
      match token? d c s with
      | none => none
      | some (t, rest) => (lexFrom d (s.length - rest.length) s).map (t :: ·)

def lex (d : Dialect) (s : List Char) : Option (List Token) := lexFrom d 0 s

/-- A text that no token goes on into. -/
def Delimited (s : List Char) : Prop := ∀ c ∈ s.head?, c = ' ' ∨ c = ')' ∨ c = ','

variable {d : Dialect} {s : List Char}

@[simp]
theorem delimited_nil : Delimited [] := by simp [Delimited]

@[simp]
theorem delimited_cons {c : Char} : Delimited (c :: s) ↔ c = ' ' ∨ c = ')' ∨ c = ',' := by
  simp [Delimited]

theorem Delimited.stops {p : Char → Bool} (h : Delimited s) (hblank : p ' ' = false)
    (hclosing : p ')' = false) (hcomma : p ',' = false) : Stops p s := by
  intro c hc
  rcases h c hc with rfl | rfl | rfl
  · exact hblank
  · exact hclosing
  · exact hcomma

theorem Delimited.stops_word (h : Delimited s) : Stops isAsciiWordPart s :=
  h.stops (by decide) (by decide) (by decide)

theorem Delimited.stops_quote (h : Delimited s) : Stops (· == (quotes d).2) s := by
  cases d <;> exact h.stops (by decide) (by decide) (by decide)

/-! ## Reading one token -/

/-- The characters of a token that was read are passed over one by one. -/
theorem lexFrom_skip (a s : List Char) : lexFrom d a.length (a ++ s) = lex d s := by
  induction a with
  | nil => rfl
  | cons c a ih => exact ih

@[simp]
theorem lex_nil : lex d [] = some [] := rfl

@[simp]
theorem lex_blank : lex d (' ' :: s) = lex d s := rfl

/-- A token at the head of a text comes before the tokens of the rest. -/
theorem lex_cons {c : Char} {a : List Char} {t : Token} (hc : c ≠ ' ')
    (h : token? d c (a ++ s) = some (t, s)) :
    lex d (c :: (a ++ s)) = (lex d s).map (t :: ·) := by
  have hlength : (a ++ s).length - s.length = a.length := by simp
  rw [lex, lexFrom, if_neg hc]
  simp only [h]
  rw [hlength, lexFrom_skip]

/-- A name goes as far as its letters do. -/
theorem lex_word (name : String) (hname : isAsciiName name.toList = true)
    (hs : Stops isAsciiWordPart s) :
    lex d (name.toList ++ s) = (lex d s).map (.word name :: ·) := by
  have hparts : ∀ c ∈ name.toList, isAsciiWordPart c = true :=
    fun c hc ↦ isAsciiWordPart_of_mem hname hc
  have hword : String.ofList name.toList = name := String.ofList_toList
  revert hname hparts hword
  generalize name.toList = w
  intro hname hparts hword
  cases w with
  | nil => simp [isAsciiName] at hname
  | cons c w =>
    simp only [isAsciiName, Bool.and_eq_true] at hname
    have htail : ∀ x ∈ w, isAsciiWordPart x = true := fun x hx ↦ hparts x (by simp [hx])
    have hc : c ≠ ' ' := by rintro rfl; simp at hname
    refine lex_cons hc ?_
    rw [token?, if_pos hname.1, takeWhile_run htail hs, dropWhile_run htail hs, hword]

theorem lex_param (name : String) (hne : name.toList ≠ [])
    (hname : ∀ c ∈ name.toList, isAsciiWordPart c = true) (hs : Stops isAsciiWordPart s) :
    lex d ((marker name).toList ++ s) = (lex d s).map (.param name :: ·) := by
  have htext : (marker name).toList ++ s = '@' :: (name.toList ++ s) := by simp [marker]
  rw [htext]
  refine lex_cons (by decide) ?_
  have hstart : ('@'.isAlpha || '@' == '_') = false := by decide
  rw [token?, hstart, if_neg (by decide), if_neg (by decide), if_pos rfl, takeWhile_run hname hs,
    dropWhile_run hname hs]
  split
  · exact absurd ‹_› hne
  · rw [String.ofList_toList]

theorem lex_digit (n : Nat) {c : Char} (hc : c.isDigit = true) (hn : Number.ofDigits [c] = n)
    (hs : Delimited s) : lex d (c :: s) = (lex d s).map (.number n :: ·) := by
  have hstops : Stops Char.isDigit s := hs.stops (by decide) (by decide) (by decide)
  have hblank : c ≠ ' ' := by rintro rfl; exact absurd hc (by decide)
  have hstart : ¬ (c.isAlpha || c == '_') = true := not_isNameStart_of_isDigit hc
  refine lex_cons (a := []) hblank ?_
  rw [List.nil_append, token?, if_neg hstart, if_pos hc, hstops.takeWhile_eq, hstops.dropWhile_eq,
    hn]

theorem lex_opening : lex d ('(' :: s) = (lex d s).map (.opening :: ·) := by
  refine lex_cons (a := []) (by decide) ?_
  cases d <;> rfl

theorem lex_closing : lex d (')' :: s) = (lex d s).map (.closing :: ·) := by
  refine lex_cons (a := []) (by decide) ?_
  cases d <;> rfl

theorem lex_comma : lex d (',' :: s) = (lex d s).map (.comma :: ·) := by
  refine lex_cons (a := []) (by decide) ?_
  cases d <;> rfl

theorem Delimited.cases (h : Delimited s) :
    s = [] ∨ (∃ t, s = ' ' :: t) ∨ (∃ t, s = ')' :: t) ∨ ∃ t, s = ',' :: t := by
  cases s with
  | nil => exact .inl rfl
  | cons c t =>
    rcases delimited_cons.1 h with rfl | rfl | rfl
    · exact .inr (.inl ⟨t, rfl⟩)
    · exact .inr (.inr (.inl ⟨t, rfl⟩))
    · exact .inr (.inr (.inr ⟨t, rfl⟩))

/-- A sign is read as far as it goes, for what follows is no sign that goes on with it. -/
theorem lex_compare (op : CompareOp) (hs : Delimited s) :
    lex d (op.sqlSymbol.toList ++ s) = (lex d s).map (.compare op :: ·) := by
  have hsign (c : Char) (a : List Char) (hc : c ≠ ' ')
      (h : token? d c (a ++ s) = some (.compare op, s)) :
      lex d (c :: (a ++ s)) = (lex d s).map (.compare op :: ·) := lex_cons hc h
  rcases hs.cases with rfl | ⟨t, rfl⟩ | ⟨t, rfl⟩ | ⟨t, rfl⟩ <;>
    cases op with
    | eq => exact hsign '=' [] (by decide) (by cases d <;> rfl)
    | gt => exact hsign '>' [] (by decide) (by cases d <;> rfl)
    | lt => exact hsign '<' [] (by decide) (by cases d <;> rfl)
    | ne => exact hsign '<' ['>'] (by decide) (by cases d <;> rfl)
    | gte => exact hsign '>' ['='] (by decide) (by cases d <;> rfl)
    | lte => exact hsign '<' ['='] (by decide) (by cases d <;> rfl)

/-- The string that stands for any run of characters in a pattern. -/
theorem lex_wildcard (hs : Stops (· == '\x27') s) :
    lex d ("'%'".toList ++ s) = (lex d s).map (.string "%" :: ·) := by
  have htext : "'%'".toList ++ s = '\x27' :: (['%', '\x27'] ++ s) := rfl
  rw [htext]
  refine lex_cons (by decide) ?_
  have hbody : quotedBody? '\x27' (['%', '\x27'] ++ s) = some (['%'], s) :=
    quotedBody?_doubled ['%'] hs
  rw [token?, if_neg (by decide), if_neg (by decide), if_neg (by decide), if_pos rfl, hbody]
  rfl

theorem lex_join {c : Char} {a : List Char} (h : joinSign? d = some (c :: a)) :
    lex d (c :: (a ++ s)) = (lex d s).map (.join :: ·) := by
  cases d <;> cases h <;> exact lex_cons (by decide) rfl

/-- A name in quotes ends at the first closing quote that is not doubled. -/
theorem lex_quoted (name : List Char) (hs : Stops (· == (quotes d).2) s) :
    lex d ((quotes d).1 :: (doubled (quotes d).2 name ++ [(quotes d).2] ++ s)) =
      (lex d s).map (.quoted (String.ofList name) :: ·) := by
  refine lex_cons (by cases d <;> decide) ?_
  have hbody : quotedBody? (quotes d).2 (doubled (quotes d).2 name ++ [(quotes d).2] ++ s) =
      some (name, s) := by
    rw [List.append_assoc]
    exact quotedBody?_doubled name hs
  rw [token?, if_neg (by cases d <;> decide), if_neg (by cases d <;> decide),
    if_neg (by cases d <;> decide), if_neg (by cases d <;> decide), if_pos rfl, hbody]
  rfl

/-! ## Identifiers -/

/-- The lexer and the style of a dialect agree about the quotes of identifiers. -/
theorem quotes_eq (d : Dialect) : quotes d = (d.style.opening, d.style.closing) := by
  cases d <;> rfl

def identifierToken (name : String) : Token :=
  if isReserved name then .quoted name else .word name

/-- An identifier is a single token, with its quotes or without. -/
theorem lex_identifier (name : String) (hname : isAsciiName name.toList = true)
    (hs : Delimited s) :
    lex d ((d.style.identifier name).toList ++ s) = (lex d s).map (identifierToken name :: ·) := by
  unfold identifierToken
  cases hr : isReserved name with
  | false =>
    rw [Style.identifier_of_not_isReserved _ hr]
    exact lex_word name hname hs.stops_word
  | true =>
    have h := lex_quoted (d := d) (s := s) name.toList hs.stops_quote
    rw [quotes_eq, String.ofList_toList] at h
    rw [Style.toList_identifier_of_isReserved _ hr]
    exact h

end EntitySql.ConditionText
