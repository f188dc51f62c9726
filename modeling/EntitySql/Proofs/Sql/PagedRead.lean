import EntitySql.Proofs.Sql.Unordered

/-!
# Reads of one page

A read with a page size is built exactly where its page is in range, and goes on where the read of
all rows ends: its text with the paging clause of the dialect, its parameters with the bounds of the
page. In the dialects that page ordered rows only it has one ORDER BY, outside of quotes and
parentheses, whatever its filter and its names are. The rows of a page are positions in what the
server finds, counted in the order in which it finds them.
-/

namespace EntitySql

open Text

namespace StatementBuilder

variable {b : StatementBuilder} {filter : Option Expr} {query : Query} {unpaged st : Statement}
  {text sql clause : String} {bag : ParamBag} {size : Int64} {terms : List String}

/-! ## The text before the page -/

theorem unordered_selectText (hm : b.entity.Named) : Unordered b.selectText := by
  have hcolumns : Unordered (b.columnList "," b.entity.selectProperties) := by
    refine unordered_intercalate (by decide) fun part hpart ↦ ?_
    obtain ⟨p, hp, rfl⟩ := List.mem_map.1 hpart
    exact unordered_identifier _ (hm.column p (EntityMeta.selectProperties_subset hp))
  have htable : Unordered b.table := unordered_identifier _ hm.table
  have hlead : isLead "select ".toList = true := by decide
  have hfrom : isSeparator " from ".toList = true := by decide
  have hall := (hcolumns.separated hfrom htable).lead_append hlead
  simpa only [selectText, String.append_assoc] using hall

theorem unordered_filtered (hm : b.entity.Named) (htext : Unordered text)
    (h : b.filtered text filter = .ok (sql, bag)) : Unordered sql := by
  cases filter with
  | none =>
    cases h
    exact htext.append (unordered_of_isOrderless rfl) (stops_nil _)
  | some e =>
    obtain ⟨c, bs, hlowered, rfl, -, hcolumns⟩ := filtered_eq_ok hm h
    have hwhere : isSeparator " WHERE ".toList = true := by decide
    exact htext.separated hwhere (unordered_render c hcolumns hlowered.isParamName)

theorem unordered_orderTerms (hm : b.entity.Named) {order : OrderBy}
    (h : b.orderTerms order = .ok terms) : ∀ term ∈ terms, Unordered term := by
  intro term hterm
  obtain ⟨p, hp, direction, rfl⟩ := (sorts_orderTerms h).exists_of_mem hterm
  have hdirection : isOrderless (directionText direction).toList = true ∧
      Stops isNamePart (directionText direction).toList := by
    cases direction <;> decide
  have hcolumn : Unordered (b.column p) := unordered_identifier _ (hm.column p hp)
  exact hcolumn.append (unordered_of_isOrderless hdirection.1) hdirection.2

theorem isEmpty_orderTerms {order : OrderBy} (h : b.orderTerms order = .ok terms) :
    terms.isEmpty = true ↔ order = [] := by
  rw [List.isEmpty_iff, ← List.length_eq_zero_iff, ← (sorts_orderTerms h).length_eq,
    List.length_eq_zero_iff]

theorem orderBy_of_orderTerms {order : OrderBy} (h : b.orderTerms order = .ok terms) :
    b.orderBy order =
      .ok (if terms.isEmpty then "" else " ORDER BY " ++ ", ".intercalate terms) := by
  unfold orderBy
  rw [h]
  rfl

/-! ## The page behind it -/

/-- A text without an ORDER BY is given one that sorts by nothing. -/
theorem pagingClause_unordered {d : Dialect} (hd : d.style.pagingNeedsOrder = true)
    (h : Unordered sql) : pagingClause d sql = " ORDER BY (SELECT NULL)" ++ offsetClause d := by
  rw [pagingClause_of_needsOrder hd, if_neg]
  exact fun hfound ↦ orderBys_ne_nil_of_hasOrderBy hfound h.orderBys_eq_nil

/-- A text that ends in the terms of a query is given no other ORDER BY. -/
theorem pagingClause_ordered {d : Dialect} (hd : d.style.pagingNeedsOrder = true)
    (sql keys : String) : pagingClause d (sql ++ (" ORDER BY " ++ keys)) = offsetClause d := by
  rw [pagingClause_of_needsOrder hd, if_pos]
  refine hasOrderBy_iff.2 ⟨sql.toList, " ORDER BY ".toList, keys.toList, ?_, by decide⟩
  rw [String.toList_append, String.toList_append]

/-- The ORDER BY that paging supplies: one that sorts by nothing, in the dialects that page ordered
rows only, for a query that has no terms. -/
def suppliedOrder (d : Dialect) (order : OrderBy) : String :=
  if (d = .sqlServer ∨ d = .sqlCe) ∧ order = [] then " ORDER BY (SELECT NULL)" else ""

theorem needsOrder_iff {d : Dialect} :
    d.style.pagingNeedsOrder = true ↔ d = .sqlServer ∨ d = .sqlCe := by
  cases d <;> decide

/-- Paging tells apart a text that goes on with the terms of the query and one that does not. -/
theorem pagingClause_query {d : Dialect} (hsql : Unordered sql)
    (hterms : b.orderTerms query.order = .ok terms)
    (horder : b.orderBy query.order = .ok clause) :
    pagingClause d (sql ++ clause) = suppliedOrder d query.order ++ offsetClause d := by
  rw [orderBy_of_orderTerms hterms] at horder
  obtain rfl := Except.ok.inj horder
  unfold suppliedOrder
  by_cases hd : d = .sqlServer ∨ d = .sqlCe
  · have hneeds := needsOrder_iff.2 hd
    by_cases hempty : query.order = []
    · rw [if_pos ((isEmpty_orderTerms hterms).2 hempty), if_pos ⟨hd, hempty⟩, String.append_empty,
        pagingClause_unordered hneeds hsql]
    · rw [if_neg (mt (isEmpty_orderTerms hterms).1 hempty), if_neg fun h ↦ hempty h.2,
        pagingClause_ordered hneeds, String.empty_append]
  · rw [pagingClause_of_not_needsOrder (Bool.eq_false_iff.2 (mt needsOrder_iff.1 hd)),
      if_neg fun h ↦ hd h.1, String.empty_append]

/-- A statement that reads one page of the rows of another: its text goes on where that of the other
ends, with the clause of the dialect, and its parameters with the bounds of the page. -/
structure ReadsPage (b : StatementBuilder) (order : OrderBy) (unpaged : Statement) (page : Page)
    (st : Statement) : Prop where
  text : st.sql = unpaged.sql ++ suppliedOrder b.dialect order ++ offsetClause b.dialect
  params : ∃ bag all, unpaged.params = .single bag ∧ st.params = .single all ∧
    all.entries = bag.entries ++ [("top", .int page.size), ("skip", .int page.skip)]

/-- Cutting a page from a read leaves its text and its parameters in front. -/
theorem readsPage_pageOf (hm : b.entity.Named)
    (hfiltered : b.filtered b.selectText query.filter = .ok (sql, bag))
    (horder : b.orderBy query.order = .ok clause) (page : Page) :
    b.ReadsPage query.order ⟨sql ++ clause, .single bag⟩ page
      (pageOf b.dialect (sql ++ clause) bag page) := by
  have hsql := unordered_filtered hm (unordered_selectText hm) hfiltered
  obtain ⟨names, hfilters⟩ := filters_of_filtered hm (isInert_selectText hm) hfiltered
  obtain ⟨terms, hterms, -⟩ := bind_eq_ok.1 horder
  constructor
  · rw [pageOf, pagingClause_query hsql hterms horder, ← String.append_assoc]
  · exact ⟨bag, _, rfl, rfl, hfilters.extend_page page⟩

/-! ## Its ORDER BY -/

/-- What the rows of a page are sorted by: the terms of the query, or nothing. -/
def sortedBy (terms : List String) : String :=
  if terms.isEmpty then "(SELECT NULL)" else ", ".intercalate terms

theorem unordered_sortedBy (hterms : ∀ term ∈ terms, Unordered term) :
    Unordered (sortedBy terms) := by
  unfold sortedBy
  split
  · have hnull : Unordered "SELECT NULL" := unordered_of_isOrderless (by decide)
    exact hnull.parenthesized
  · exact unordered_intercalate (by decide) hterms

/-- The terms of the query and what paging supplies make one ORDER BY. -/
theorem clause_append_suppliedOrder {d : Dialect} (hd : d = .sqlServer ∨ d = .sqlCe)
    (hterms : b.orderTerms query.order = .ok terms)
    (horder : b.orderBy query.order = .ok clause) :
    clause ++ suppliedOrder d query.order = " ORDER BY" ++ (" " ++ sortedBy terms) := by
  rw [orderBy_of_orderTerms hterms] at horder
  obtain rfl := Except.ok.inj horder
  unfold suppliedOrder sortedBy
  by_cases hempty : query.order = []
  · have hnil := (isEmpty_orderTerms hterms).2 hempty
    rw [if_pos hnil, if_pos hnil, if_pos ⟨hd, hempty⟩]
    rfl
  · have hcons := mt (isEmpty_orderTerms hterms).1 hempty
    have hwords : " ORDER BY " = " ORDER BY" ++ " " := rfl
    rw [if_neg hcons, if_neg hcons, if_neg fun h ↦ hempty h.2, String.append_empty, hwords,
      String.append_assoc]

theorem paged_text {d : Dialect} (hd : d = .sqlServer ∨ d = .sqlCe) (hsql : Unordered sql)
    (hterms : b.orderTerms query.order = .ok terms)
    (horder : b.orderBy query.order = .ok clause) :
    sql ++ clause ++ pagingClause d (sql ++ clause) =
      sql ++ (" ORDER BY" ++ (" " ++ (sortedBy terms ++ offsetClause d))) := by
  calc
    sql ++ clause ++ pagingClause d (sql ++ clause) =
        sql ++ (clause ++ suppliedOrder d query.order) ++ offsetClause d := by
      rw [pagingClause_query hsql hterms horder]
      simp only [String.append_assoc]
    _ = sql ++ (" ORDER BY" ++ (" " ++ (sortedBy terms ++ offsetClause d))) := by
      rw [clause_append_suppliedOrder hd hterms horder]
      simp only [String.append_assoc]

/-- What stands behind the ORDER BY has no other one in it. -/
theorem unordered_behind (d : Dialect) (hterms : ∀ term ∈ terms, Unordered term) :
    Unordered (" " ++ (sortedBy terms ++ offsetClause d)) := by
  have hoffset : isOrderless (offsetClause d).toList = true ∧
      Stops isNamePart (offsetClause d).toList := by
    cases d <;> decide
  have hlead : isLead " ".toList = true := by decide
  have hbehind := (unordered_sortedBy hterms).append (unordered_of_isOrderless hoffset.1) hoffset.2
  exact hbehind.lead_append hlead

/-- A page has one ORDER BY, with what it sorts by and the clause of the page behind it. -/
theorem orderBys_paged {d : Dialect} (hd : d = .sqlServer ∨ d = .sqlCe) (hm : b.entity.Named)
    (hfiltered : b.filtered b.selectText query.filter = .ok (sql, bag))
    (hterms : b.orderTerms query.order = .ok terms) (horder : b.orderBy query.order = .ok clause) :
    orderBys (sql ++ clause ++ pagingClause d (sql ++ clause)) =
      [(.outside, (" " ++ (sortedBy terms ++ offsetClause d)).toList)] := by
  have hsql := unordered_filtered hm (unordered_selectText hm) hfiltered
  have hbehind := unordered_behind d (unordered_orderTerms hm hterms)
  have hstops : Stops isNamePart (" " ++ (sortedBy terms ++ offsetClause d)).toList := by
    rw [String.toList_append]
    exact stops_cons.2 (by decide)
  rw [paged_text hd hsql hterms horder]
  exact orderBys_append_clause hsql hbehind hstops

/-! ## All of a paged read -/

/-- A read with a page size against the read of all rows: it is built exactly where the page is in
range, has the bounds of that page, and tiles the rows with the pages before it; a dialect that
pages ordered rows only gets one ORDER BY, directly before its terms and the paging clause. -/
structure PagesExactly (b : StatementBuilder) (query : Query) (size : Int64) (unpaged : Statement) :
    Prop where
  accepted : (∃ st, b.select query = .ok st) ↔ Page.InRange query.page size
  refused : ∀ error, b.select query = .error error → ∃ cause, error = .validation cause
  bounds : ∀ st, b.select query = .ok st → ∃ page : Page, page.size = size ∧
    page.skip.toInt = Page.rowsBefore query.page size ∧ b.ReadsPage query.order unpaged page st
  windows : ∀ number, Page.InRange (some number) size → ∃ pages : List Page,
    pages.length = number.toInt.toNat ∧
    (∀ k (hk : k < pages.length), ∃ st,
      b.select { query with page := some (Int64.ofInt (k + 1)) } = .ok st ∧
        b.ReadsPage query.order unpaged pages[k] st) ∧
    pages.flatMap Page.rows = List.range (number.toInt.toNat * size.toInt.toNat)
  ordered : b.dialect = .sqlServer ∨ b.dialect = .sqlCe → ∀ st, b.select query = .ok st →
    ∃ terms, b.Sorts query.order terms ∧
      orderBys st.sql = [(.outside, (" " ++ (sortedBy terms ++ offsetClause b.dialect)).toList)]

end StatementBuilder

/-- A query whose filter and order are valid is paged exactly, whatever names of ASCII the entity
has, reserved words included. -/
theorem paging_exact {b : StatementBuilder} (hm : b.entity.Named) {query : Query} {size : Int64}
    (hsize : query.pageSize = some size) {unpaged : Statement}
    (hvalid : b.select { query with pageSize := none } = .ok unpaged) :
    b.PagesExactly query size unpaged := by
  obtain ⟨sql, bag, clause, hfiltered, horder, hst⟩ := StatementBuilder.select_eq_ok hvalid
  obtain ⟨-, rfl⟩ | ⟨_, _, hnone, -, -⟩ := hst
  case inr => cases hnone
  dsimp only at hfiltered horder
  have hselect := StatementBuilder.select_paged query hfiltered horder hsize
  have hreads := StatementBuilder.readsPage_pageOf hm hfiltered horder
  constructor
  case accepted =>
    rw [hselect, ← Page.exists_page_iff]
    constructor
    · rintro ⟨st, hst⟩
      obtain ⟨page, hpage, -⟩ := map_eq_ok.1 hst
      exact ⟨page, hpage⟩
    · rintro ⟨page, hpage⟩
      exact ⟨_, map_eq_ok.2 ⟨page, hpage, rfl⟩⟩
  case refused =>
    intro error herror
    rw [hselect] at herror
    exact Page.ofNumber_eq_error (map_eq_error.1 herror)
  case bounds =>
    intro st hst
    rw [hselect] at hst
    obtain ⟨page, hpage, rfl⟩ := map_eq_ok.1 hst
    obtain ⟨-, hpagesize, hskip⟩ := Page.ofNumber_eq_ok_iff.1 hpage
    exact ⟨page, hpagesize, hskip, hreads page⟩
  case windows =>
    intro number hnumber
    obtain ⟨pages, hlength, hpages, hrows⟩ := Page.exists_pages hnumber
    refine ⟨pages, hlength, fun k hk ↦ ⟨_, ?_, hreads pages[k]⟩, hrows⟩
    have hnumbered := StatementBuilder.select_paged
      { query with page := some (Int64.ofInt (k + 1)) } hfiltered horder hsize
    exact hnumbered.trans (map_eq_ok.2 ⟨pages[k], hpages k hk, rfl⟩)
  case ordered =>
    intro hd st hst
    rw [hselect] at hst
    obtain ⟨page, -, rfl⟩ := map_eq_ok.1 hst
    obtain ⟨terms, hterms, -⟩ := bind_eq_ok.1 horder
    exact ⟨terms, StatementBuilder.sorts_orderTerms hterms,
      StatementBuilder.orderBys_paged hd hm hfiltered hterms horder⟩

/-- The second page of a read from a table ORDER, filtered and sorted by columns BY and ORDER_BY. -/
theorem paging_exact_reserved :
    let b : StatementBuilder := ⟨⟨"Order", "ORDER", [⟨"Id", "ID", true, false, false⟩,
      ⟨"By", "BY", false, false, false⟩, ⟨"OrderBy", "ORDER_BY", false, false, false⟩]⟩, .sqlServer⟩
    let filter : Expr := .connect .or (.not (.call (.column "By") "Contains"
      [.const (.string " order by ")])) (.compare .lte (.column "OrderBy") (.const (.int 7)))
    let query : Query := ⟨some filter, [("By", .desc), ("OrderBy", .asc)], some 2, some 10⟩
    ∃ unpaged, b.entity.Named ∧ b.select { query with pageSize := none } = .ok unpaged ∧
      b.PagesExactly query 10 unpaged := by
  intro b filter query
  have hm : b.entity.Named := ⟨by decide, by decide⟩
  have hbuilt : (b.select { query with pageSize := none }).toBool = true := by decide +kernel
  cases h : b.select { query with pageSize := none } with
  | error e =>
    rw [h] at hbuilt
    cases hbuilt
  | ok unpaged => exact ⟨unpaged, hm, rfl, paging_exact hm rfl h⟩

end EntitySql
