import EntitySql.Proofs.ConditionText.Pattern
import EntitySql.Proofs.Outcome
import EntitySql.Proofs.Text.LetterCase
import EntitySql.Proofs.Text.Run
import EntitySql.Sql.Marker
import EntitySql.Sql.Paging
import EntitySql.Text.Blank

/-!
# Where a text has an ORDER BY

The words ORDER BY of a statement, in any case and with any white space between them, each with its
place: in quotes, in parentheses, or outside of both, where it sorts the rows that are paged.
Paging looks for the two words between single blanks and nowhere minds the place. So it supplies
an ORDER BY exactly where one is missing for texts that write it so outside, and not inside only.
-/

namespace EntitySql

open Text

/-- Where a place of a text lies: in which quotes, by the character that closes them, and in how
many parentheses. -/
structure Place where
  quote : Option Char
  depth : Nat
  deriving DecidableEq

namespace Place

def outside : Place := ⟨none, 0⟩

/-- The quotes that are open behind a character. A closing bracket outside of them stands behind
another one, and the two are a bracket in the name. -/
def nextQuote : Option Char → Char → Option Char
  | some closing, c => if c = closing then none else some closing
  | none, c => if c = ']' then some ']' else Marker.closing? c

def nextDepth (depth : Nat) (c : Char) : Nat :=
  if c = '(' then depth + 1 else if c = ')' then depth - 1 else depth

def next (p : Place) (c : Char) : Place :=
  ⟨nextQuote p.quote c, if p.quote = none then nextDepth p.depth c else p.depth⟩

def after (p : Place) (s : List Char) : Place := s.foldl next p

theorem after_append (p : Place) (a b : List Char) : p.after (a ++ b) = (p.after a).after b :=
  List.foldl_append

end Place

/-! ## The words -/

def isNamePart (c : Char) : Bool := isIdentifierPart c || c ∈ ['@', '#', '$']

/-- What follows a word, given in lower case, at the head of a text. -/
def afterWord? (word s : List Char) : Option (List Char) :=
  if foldAscii (s.take word.length) = word then some (s.drop word.length) else none

def afterOrderBy? (s : List Char) : Option (List Char) :=
  (afterWord? "order".toList s).bind fun gap ↦
    if Stops isBlank gap then none
    else (afterWord? "by".toList (gap.dropWhile isBlank)).filter fun behind ↦
      decide (Stops isNamePart behind)

/-- Each ORDER BY of a text that begins at this place, with its place and what follows it. -/
def orderBysFrom (p : Place) (inName : Bool) : List Char → List (Place × List Char)
  | [] => []
  | c :: s =>
    (if inName then none else (afterOrderBy? (c :: s)).map (p, ·)).toList ++
      orderBysFrom (p.next c) (isNamePart c) s

def orderBys (sql : String) : List (Place × List Char) := orderBysFrom .outside false sql.toList

def IsOrdered (sql : String) : Prop := ∃ clause ∈ orderBys sql, clause.1 = .outside

instance (sql : String) : Decidable (IsOrdered sql) :=
  List.decidableBEx (fun clause : Place × List Char ↦ clause.1 = .outside) _

theorem isBlank_toLower (c : Char) : isBlank c.toLower = isBlank c :=
  apply_toLower isBlank (by decide) c

theorem toLower_eq_blank {c : Char} (h : c.toLower = ' ') : c = ' ' := by
  have hsame := apply_toLower (· == ' ') (by decide) c
  simpa [h] using hsame

theorem afterWord?_eq_some {word s t : List Char} :
    afterWord? word s = some t ↔ ∃ w, s = w ++ t ∧ foldAscii w = word := by
  unfold afterWord?
  constructor
  · intro h
    split at h
    · next hword =>
      cases h
      exact ⟨s.take word.length, (List.take_append_drop _ _).symm, hword⟩
    · cases h
  · rintro ⟨w, rfl, rfl⟩
    have hlength : (foldAscii w).length = w.length := List.length_map _
    rw [hlength, List.take_left, List.drop_left, if_pos rfl]

/-- The words may be in any case, and any white space may stand between them. -/
theorem afterOrderBy?_eq_some {s t : List Char} : afterOrderBy? s = some t ↔
    ∃ first gap second, s = first ++ (gap ++ (second ++ t)) ∧
      foldAscii first = "order".toList ∧ gap ≠ [] ∧ (∀ c ∈ gap, isBlank c = true) ∧
      foldAscii second = "by".toList ∧ Stops isNamePart t := by
  unfold afterOrderBy?
  simp only [Option.bind_eq_some_iff, afterWord?_eq_some]
  constructor
  · rintro ⟨rest, ⟨first, rfl, hfirst⟩, h⟩
    split at h
    · cases h
    · next hgap =>
      obtain ⟨h, hstops⟩ := Option.filter_eq_some_iff.1 h
      obtain ⟨second, hrest, hsecond⟩ := afterWord?_eq_some.1 h
      refine ⟨first, rest.takeWhile isBlank, second, ?_, hfirst, ?_, ?_, hsecond,
        of_decide_eq_true hstops⟩
      · rw [← hrest, List.takeWhile_append_dropWhile]
      · exact fun hnil ↦ hgap (stops_of_takeWhile_eq hnil)
      · exact fun c hc ↦ List.mem_takeWhile_imp hc
  · rintro ⟨first, gap, second, rfl, hfirst, hne, hblank, hsecond, hstops⟩
    have hword : Stops isBlank (second ++ t) := by
      obtain ⟨c, w, rfl, hc, -⟩ := List.map_eq_cons_iff.1 hsecond
      rw [List.cons_append, stops_cons, ← isBlank_toLower, hc]
      decide
    refine ⟨gap ++ (second ++ t), ⟨first, rfl, hfirst⟩, ?_⟩
    rw [if_neg, dropWhile_run hblank hword, Option.filter_eq_some_iff]
    · exact ⟨afterWord?_eq_some.2 ⟨second, rfl, hsecond⟩, decide_eq_true hstops⟩
    · intro hgap
      exact hne (by rw [← takeWhile_run hblank hword, hgap.takeWhile_eq])

/-! ## What paging looks for -/

/-- The words ORDER BY between single blanks, as paging looks for them, behind a part of a text. -/
def IsBlankedAt (sql : String) (before : List Char) : Prop :=
  ∃ words behind, sql.toList = before ++ (words ++ behind) ∧
    foldAscii words = " order by ".toList

theorem hasOrderBy_iff {sql : String} :
    hasOrderBy sql = true ↔ ∃ before, IsBlankedAt sql before := by
  unfold hasOrderBy IsBlankedAt foldAscii
  rw [ConditionText.occursIn_iff]
  constructor
  · rintro ⟨_, ⟨first, hfirst⟩, ⟨last, rfl⟩⟩
    obtain ⟨before, rest, hsql, rfl, hrest⟩ := List.map_eq_append_iff.1 hfirst.symm
    obtain ⟨words, behind, rfl, hwords, rfl⟩ := List.map_eq_append_iff.1 hrest
    exact ⟨before, words, behind, hsql, hwords⟩
  · rintro ⟨before, words, behind, hsql, hwords⟩
    refine ⟨words.map Char.toLower ++ behind.map Char.toLower,
      ⟨before.map Char.toLower, ?_⟩, ⟨behind.map Char.toLower, ?_⟩⟩
    · rw [hsql, List.map_append, List.map_append]
    · rw [hwords]

variable {sql : String} {before : List Char}

/-- What stands behind a character that is no part of a name is read as by itself. -/
theorem mem_orderBysFrom_append {clause : Place × List Char} {p : Place} {inName : Bool} {c : Char}
    {s : List Char} (before : List Char) (hc : isNamePart c = false)
    (h : clause ∈ orderBysFrom (p.after (before ++ [c])) false s) :
    clause ∈ orderBysFrom p inName (before ++ c :: s) := by
  induction before generalizing p inName with
  | nil =>
    rw [← hc] at h
    exact List.mem_append_right _ h
  | cons d before ih => exact List.mem_append_right _ (ih h)

theorem mem_orderBysFrom_of_afterOrderBy? {p : Place} {s t : List Char}
    (h : afterOrderBy? s = some t) : (p, t) ∈ orderBysFrom p false s := by
  cases s with
  | nil => simp [afterOrderBy?, afterWord?, foldAscii] at h
  | cons c s => simp [orderBysFrom, h]

/-- Wherever paging finds the words, there is an ORDER BY. -/
theorem exists_clause_of_isBlankedAt (h : IsBlankedAt sql before) :
    ∃ behind, (Place.outside.after (before ++ [' ']), behind) ∈ orderBys sql := by
  obtain ⟨words, behind, hsql, hwords⟩ := h
  have hsplit : " order by ".toList = ' ' :: ("order".toList ++ ' ' :: ("by".toList ++ [' '])) :=
    rfl
  rw [hsplit] at hwords
  obtain ⟨c, _, rfl, hc, hwords⟩ := List.map_eq_cons_iff.1 hwords
  obtain ⟨first, _, rfl, hfirst, hwords⟩ := List.map_eq_append_iff.1 hwords
  obtain ⟨d, _, rfl, hd, hwords⟩ := List.map_eq_cons_iff.1 hwords
  obtain ⟨second, _, rfl, hsecond, hwords⟩ := List.map_eq_append_iff.1 hwords
  obtain ⟨e, _, rfl, he, hwords⟩ := List.map_eq_cons_iff.1 hwords
  obtain rfl := List.map_eq_nil_iff.1 hwords
  obtain rfl := toLower_eq_blank hc
  obtain rfl := toLower_eq_blank hd
  obtain rfl := toLower_eq_blank he
  refine ⟨' ' :: behind, ?_⟩
  have hfound : afterOrderBy? (first ++ ([' '] ++ (second ++ ' ' :: behind))) =
      some (' ' :: behind) :=
    afterOrderBy?_eq_some.2 ⟨first, [' '], second, rfl, hfirst, by simp,
      List.forall_mem_singleton.2 rfl, hsecond, stops_cons.2 (by decide)⟩
  have hclause : (Place.outside.after (before ++ [' ']), ' ' :: behind) ∈
      orderBysFrom .outside false
        (before ++ ' ' :: (first ++ ([' '] ++ (second ++ ' ' :: behind)))) :=
    mem_orderBysFrom_append before (by decide) (mem_orderBysFrom_of_afterOrderBy? hfound)
  rw [orderBys, hsql]
  simpa using hclause

theorem isOrdered_of_isBlankedAt (h : IsBlankedAt sql before)
    (houtside : Place.outside.after before = .outside) : IsOrdered sql := by
  obtain ⟨behind, hclause⟩ := exists_clause_of_isBlankedAt h
  have hblank : Place.outside.after (before ++ [' ']) = .outside := by
    rw [Place.after_append, houtside]
    rfl
  exact ⟨_, hclause, hblank⟩

theorem orderBys_ne_nil_of_hasOrderBy (h : hasOrderBy sql = true) : orderBys sql ≠ [] := by
  obtain ⟨before, hbefore⟩ := hasOrderBy_iff.1 h
  obtain ⟨behind, hclause⟩ := exists_clause_of_isBlankedAt hbefore
  exact List.ne_nil_of_mem hclause

/-! ## What paging supplies -/

/-- The clause that skips rows and limits their number, with its parameters. -/
def offsetClause : Dialect → String
  | .sqlServer | .sqlCe | .firebird => " OFFSET @skip ROWS FETCH NEXT @top ROWS ONLY"
  | .db2 | .postgres | .mySql | .sqlite => " LIMIT @top OFFSET @skip"

/-- The style of each dialect writes the clause with the markers of the page. -/
theorem paging_eq_offsetClause (d : Dialect) :
    d.style.paging (marker "top") (marker "skip") = offsetClause d := by
  cases d <;> rfl

/-- Paging takes a text for ordered where it is: an ORDER BY outside of quotes and parentheses
comes with one between single blanks, and one between single blanks inside of them with one outside
of them. -/
structure IsRecognized (sql : String) : Prop where
  found : IsOrdered sql → ∃ before, IsBlankedAt sql before
  placed : ∀ before, IsBlankedAt sql before → Place.outside.after before ≠ .outside →
    IsOrdered sql

theorem hasOrderBy_iff_isOrdered_iff :
    (hasOrderBy sql = true ↔ IsOrdered sql) ↔ IsRecognized sql := by
  rw [hasOrderBy_iff]
  constructor
  · intro h
    exact ⟨h.2, fun before hbefore _ ↦ h.1 ⟨before, hbefore⟩⟩
  · intro h
    refine ⟨?_, h.found⟩
    rintro ⟨before, hbefore⟩
    by_cases houtside : Place.outside.after before = .outside
    · exact isOrdered_of_isBlankedAt hbefore houtside
    · exact h.placed before hbefore houtside

theorem paginate_eq_ok {d : Dialect} {number : Option Int64} {size : Int64} {paged : String}
    {bag : ParamBag} (h : paginate sql number size d = .ok (paged, bag)) :
    ∃ page, Page.ofNumber number size = .ok page ∧ paged = sql ++ pagingClause d sql ∧
      bag = page.params := by
  obtain ⟨page, hpage, h⟩ := bind_eq_ok.1 h
  cases h
  exact ⟨page, hpage, rfl, rfl⟩

theorem pagingClause_of_needsOrder {d : Dialect} (hd : d.style.pagingNeedsOrder = true)
    (sql : String) : pagingClause d sql =
      if hasOrderBy sql then offsetClause d else " ORDER BY (SELECT NULL)" ++ offsetClause d := by
  unfold pagingClause
  rw [hd, paging_eq_offsetClause]
  cases hasOrderBy sql with
  | true => exact String.empty_append
  | false => rfl

theorem pagingClause_of_not_needsOrder {d : Dialect} (hd : d.style.pagingNeedsOrder = false)
    (sql : String) : pagingClause d sql = offsetClause d := by
  unfold pagingClause
  rw [hd, paging_eq_offsetClause]
  exact String.empty_append

theorem supplied_iff {d : Dialect} (hd : d.style.pagingNeedsOrder = true) (sql : String) :
    sql ++ pagingClause d sql = sql ++ " ORDER BY (SELECT NULL)" ++ offsetClause d ↔
      ¬ hasOrderBy sql = true := by
  rw [pagingClause_of_needsOrder hd]
  by_cases h : hasOrderBy sql = true
  · rw [if_pos h]
    refine iff_of_false (fun heq ↦ ?_) (not_not_intro h)
    have hlength := congrArg String.length heq
    have hnothing : " ORDER BY (SELECT NULL)".length = 23 := by decide
    simp only [String.length_append] at hlength
    omega
  · rw [if_neg h, String.append_assoc]
    exact iff_of_true rfl h

/-- A dialect that pages ordered rows only gets an ORDER BY exactly where none stands outside of
quotes and parentheses, for texts that paging recognizes as ordered or not, and for no others. -/
theorem order_supplied_iff_missing {d : Dialect} (hd : d ∈ [Dialect.sqlServer, .sqlCe])
    {number : Option Int64} {size : Int64} {paged : String} {bag : ParamBag}
    (h : paginate sql number size d = .ok (paged, bag)) :
    (paged = sql ++ " ORDER BY (SELECT NULL)" ++ offsetClause d ∨ paged = sql ++ offsetClause d) ∧
    ((paged = sql ++ " ORDER BY (SELECT NULL)" ++ offsetClause d ↔ ¬ IsOrdered sql) ↔
      IsRecognized sql) := by
  have hneeds : d.style.pagingNeedsOrder = true := by
    revert hd
    cases d <;> decide
  obtain ⟨page, -, rfl, -⟩ := paginate_eq_ok h
  constructor
  · rw [pagingClause_of_needsOrder hneeds]
    split
    · exact .inr rfl
    · exact .inl String.append_assoc.symm
  · rw [supplied_iff hneeds, not_iff_not, hasOrderBy_iff_isOrdered_iff]

/-- An ORDER BY in a sub-query and another one, in mixed case, behind it. -/
theorem order_supplied_iff_missing_nested :
    let sql := "select ID from (select top 3 ID from T order by A) S Order By [ORDER] DESC"
    ∃ paged bag, paginate sql (some 2) 5 .sqlServer = .ok (paged, bag) ∧ IsRecognized sql ∧
      (paged = sql ++ " ORDER BY (SELECT NULL)" ++ offsetClause .sqlServer ↔ ¬ IsOrdered sql) := by
  intro sql
  have hordered : IsOrdered sql := by decide +kernel
  have hrecognized : IsRecognized sql :=
    ⟨fun _ ↦ hasOrderBy_iff.1 (by decide +kernel), fun _ _ _ ↦ hordered⟩
  have h : paginate sql (some 2) 5 .sqlServer =
      .ok (sql ++ pagingClause .sqlServer sql, Page.params ⟨5, 5⟩) := rfl
  exact ⟨_, _, h, hrecognized, (order_supplied_iff_missing (by decide) h).2.2 hrecognized⟩

/-- A text whose ORDER BY has a tab in it gets a second one, and a text with an ORDER BY in a
sub-query alone gets none. -/
theorem order_by_misjudged :
    let tabbed := "select ID from T ORDER	BY ID"
    let nested := "select ID from (select top 3 ID from T order by A) S"
    IsOrdered tabbed ∧ ¬ IsOrdered nested ∧
      (paginate tabbed none 5 .sqlServer).map (·.1) =
        .ok (tabbed ++ " ORDER BY (SELECT NULL)" ++ offsetClause .sqlServer) ∧
      (paginate nested none 5 .sqlServer).map (·.1) =
        .ok (nested ++ offsetClause .sqlServer) := by
  decide +kernel

end EntitySql
