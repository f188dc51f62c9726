import EntitySql.Proofs.Outcome
import EntitySql.Proofs.Sql.Marker
import EntitySql.Sql.Statement
import Mathlib.Data.List.Forall2

/-!
# The names in a statement

The table and the columns of an entity stand in its statements as identifiers, none of which has a
marker in it. A read is the list of its columns, a filter, an order and perhaps a page. What a
statement should say is spelt out from the columns of properties, one text for each of them.
-/

namespace EntitySql

open Text Marker

/-- The table and the columns of an entity have names of ASCII. -/
structure EntityMeta.Named (m : EntityMeta) : Prop where
  table : isAsciiName m.table.toList = true
  column : ∀ p ∈ m.properties, isAsciiName p.column.toList = true

theorem EntityMeta.column_eq_ok {m : EntityMeta} {property column : String}
    (h : m.column property = .ok column) : ∃ p ∈ m.properties, p.column = column := by
  unfold EntityMeta.column property? at h
  split at h
  · next p hp =>
    cases h
    rcases Option.or_eq_some_iff.1 hp with hfind | ⟨-, hfind⟩
    · exact ⟨p, List.mem_of_find?_eq_some hfind, rfl⟩
    · exact ⟨p, List.mem_of_find?_eq_some hfind, rfl⟩
  · cases h

theorem EntityMeta.Named.isAsciiName_column {m : EntityMeta} (hm : m.Named)
    {property column : String} (h : m.column property = .ok column) :
    isAsciiName column.toList = true := by
  obtain ⟨p, hp, rfl⟩ := EntityMeta.column_eq_ok h
  exact hm.column p hp

namespace EntityMeta

variable {m : EntityMeta}

theorem selectProperties_subset : m.selectProperties ⊆ m.properties :=
  List.filter_sublist.subset

theorem insertProperties_subset : m.insertProperties ⊆ m.properties :=
  List.filter_sublist.subset

theorem updateProperties_subset : m.updateProperties ⊆ m.properties :=
  List.filter_sublist.subset

end EntityMeta

namespace StatementBuilder

/-- The columns of properties as the dialect writes them, one for each property. -/
def columnTexts (b : StatementBuilder) (properties : List ResolvedProperty) : List String :=
  properties.map fun p ↦ b.dialect.style.identifier p.column

/-- Each column against the marker that is called as its property. -/
def markedColumns (b : StatementBuilder) (properties : List ResolvedProperty) : List String :=
  properties.map fun p ↦ b.dialect.style.identifier p.column ++ " = @" ++ p.name

variable {b : StatementBuilder} {properties : List ResolvedProperty}

/-- A list of columns is their identifiers with the separator between them. -/
theorem columnList_eq (b : StatementBuilder) (separator : String)
    (properties : List ResolvedProperty) :
    b.columnList separator properties = separator.intercalate (b.columnTexts properties) := rfl

/-- A list of assignments is column = marker, with the separator between them. -/
theorem assignments_eq (b : StatementBuilder) (separator : String)
    (properties : List ResolvedProperty) :
    b.assignments separator properties = separator.intercalate (b.markedColumns properties) := by
  have hmark : " = @" = " = " ++ "@" := rfl
  simp only [assignments, markedColumns, column, marker, hmark, String.append_assoc]

theorem isInert_table (hm : b.entity.Named) : isInert b.table.toList = true :=
  isInert_identifier _ hm.table

theorem isInert_column (hm : b.entity.Named) {p : ResolvedProperty} (hp : p ∈ b.entity.properties) :
    isInert (b.column p).toList = true :=
  isInert_identifier _ (hm.column p hp)

theorem isInert_columnList (hm : b.entity.Named) (separator : String)
    (hseparator : isInert separator.toList = true)
    (hproperties : properties ⊆ b.entity.properties) :
    isInert (b.columnList separator properties).toList = true := by
  unfold columnList
  rw [String.toList_intercalate, List.map_map]
  apply isInert_intercalate hseparator
  intro part hpart
  obtain ⟨p, hp, rfl⟩ := List.mem_map.1 hpart
  exact isInert_column hm (hproperties hp)

theorem isInert_selectText (hm : b.entity.Named) : isInert b.selectText.toList = true := by
  have hcolumns := isInert_columnList hm "," (by decide) EntityMeta.selectProperties_subset
  have hselect := isInert_append_string (a := "select ") (by decide) hcolumns
  exact isInert_append_string (isInert_append_string hselect (by decide)) (isInert_table hm)

theorem isInert_insertInto (hm : b.entity.Named) :
    isInert ("INSERT INTO " ++ b.table).toList = true :=
  isInert_append_string (by decide) (isInert_table hm)

theorem isInert_countText (hm : b.entity.Named) : isInert b.countText.toList = true :=
  isInert_append_string (by decide) (isInert_table hm)

def directionText : SortOrder → String
  | .asc => " ASC"
  | .desc => " DESC"

/-- The terms of an order: for each property its column, as the dialect writes it, and the
direction. -/
def Sorts (b : StatementBuilder) (order : OrderBy) (terms : List String) : Prop :=
  List.Forall₂ (fun entry term ↦ ∃ column, b.entity.column entry.1 = .ok column ∧
    term = b.dialect.style.identifier column ++ directionText entry.2) order terms

section Order

variable {order : OrderBy} {terms : List String} {term : String}

theorem sorts_orderTerms (h : b.orderTerms order = .ok terms) : b.Sorts order terms := by
  induction order generalizing terms with
  | nil =>
    cases h
    exact .nil
  | cons first rest ih =>
    rw [orderTerms] at h
    obtain ⟨column, hcolumn, h⟩ := bind_eq_ok.1 h
    obtain ⟨others, hothers, h⟩ := bind_eq_ok.1 h
    cases h
    have hdirection : " " ++ first.2.keyword = directionText first.2 := by
      cases first.2 <;> rfl
    refine .cons ⟨column, hcolumn, ?_⟩ (ih hothers)
    rw [String.append_assoc, hdirection]

/-- A term of an order is a column of the entity and a direction. -/
theorem Sorts.exists_of_mem (h : b.Sorts order terms) (hterm : term ∈ terms) :
    ∃ p ∈ b.entity.properties, ∃ direction, term = b.column p ++ directionText direction := by
  induction h with
  | nil => cases hterm
  | cons hentry _ ih =>
    rcases List.mem_cons.1 hterm with rfl | hterm
    · obtain ⟨column, hcolumn, rfl⟩ := hentry
      obtain ⟨p, hp, rfl⟩ := EntityMeta.column_eq_ok hcolumn
      exact ⟨p, hp, _, rfl⟩
    · exact ih hterm

theorem isInert_orderTerms (hm : b.entity.Named) (h : b.orderTerms order = .ok terms) :
    ∀ term ∈ terms, isInert term.toList = true := by
  intro term hterm
  obtain ⟨p, hp, direction, rfl⟩ := (sorts_orderTerms h).exists_of_mem hterm
  have hdirection : isInert (directionText direction).toList = true := by
    cases direction <;> decide
  exact isInert_append_string (isInert_column hm hp) hdirection

end Order

/-- The ORDER BY clause has no marker in it and stands apart from what comes before it. -/
theorem isInert_orderBy (hm : b.entity.Named) {order : OrderBy} {clause : String}
    (h : b.orderBy order = .ok clause) :
    isInert clause.toList = true ∧ Stops isAsciiWordPart clause.toList := by
  unfold orderBy at h
  obtain ⟨terms, hterms, h⟩ := bind_eq_ok.1 h
  cases h
  split
  · exact ⟨rfl, by decide⟩
  · constructor
    · apply isInert_append_string (by decide)
      rw [String.toList_intercalate]
      apply isInert_intercalate (by decide)
      intro part hpart
      obtain ⟨term, hterm, rfl⟩ := List.mem_map.1 hpart
      exact isInert_orderTerms hm hterms term hterm
    · rw [String.toList_append]
      exact stops_cons.2 (by decide)

/-! ## The parts of a read -/

/-- The statement that reads one page of the rows that a text finds. -/
def pageOf (d : Dialect) (sql : String) (bag : ParamBag) (page : Page) : Statement :=
  ⟨sql ++ pagingClause d sql, .single (bag.extend page.params)⟩

section Select

variable {query : Query} {sql clause : String} {bag : ParamBag}

theorem select_unpaged (hfiltered : b.filtered b.selectText query.filter = .ok (sql, bag))
    (horder : b.orderBy query.order = .ok clause) (hsize : query.pageSize = none) :
    b.select query = .ok ⟨sql ++ clause, .single bag⟩ := by
  unfold select
  rw [hfiltered, horder, hsize]
  rfl

/-- A page is cut from a read when its number and size are in range. -/
theorem select_paged (query : Query)
    (hfiltered : b.filtered b.selectText query.filter = .ok (sql, bag))
    (horder : b.orderBy query.order = .ok clause) {size : Int64}
    (hsize : query.pageSize = some size) : b.select query =
      (Page.ofNumber query.page size).map (pageOf b.dialect (sql ++ clause) bag) := by
  unfold select
  rw [hfiltered, horder, hsize]
  change (paginate (sql ++ clause) query.page size b.dialect >>= _) = _
  unfold paginate
  cases Page.ofNumber query.page size <;> rfl

/-- A read that is built has a valid filter and order, and a valid page where it asks for one. -/
theorem select_eq_ok {st : Statement} (h : b.select query = .ok st) :
    ∃ sql bag clause, b.filtered b.selectText query.filter = .ok (sql, bag) ∧
      b.orderBy query.order = .ok clause ∧
      ((query.pageSize = none ∧ st = ⟨sql ++ clause, .single bag⟩) ∨
        ∃ size page, query.pageSize = some size ∧ Page.ofNumber query.page size = .ok page ∧
          st = pageOf b.dialect (sql ++ clause) bag page) := by
  have hparts := h
  unfold select at hparts
  obtain ⟨⟨sql, bag⟩, hfiltered, hparts⟩ := bind_eq_ok.1 hparts
  obtain ⟨clause, horder, -⟩ := bind_eq_ok.1 hparts
  refine ⟨sql, bag, clause, hfiltered, horder, ?_⟩
  cases hsize : query.pageSize with
  | none =>
    rw [select_unpaged hfiltered horder hsize] at h
    exact .inl ⟨rfl, (Except.ok.inj h).symm⟩
  | some size =>
    rw [select_paged query hfiltered horder hsize] at h
    obtain ⟨page, hpage, hst⟩ := map_eq_ok.1 h
    exact .inr ⟨size, page, rfl, hpage, hst.symm⟩

end Select

end StatementBuilder

end EntitySql
