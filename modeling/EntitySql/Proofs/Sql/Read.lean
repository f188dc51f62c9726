import EntitySql.Proofs.Sql.Lowering
import EntitySql.Proofs.Sql.PageRange
import EntitySql.Proofs.Sql.StatementText

/-!
# Reads bind their filter and their page

The markers of a read statement are the parameters of its filter, in the order in which its
predicates stand, and then those of its page, in the order of the dialect. Binding it hands over
the values of the filter and the bounds of the page in that order.
-/

namespace EntitySql

open Text Marker

/-- A text whose markers are these, where no name goes on behind it. -/
def Marks (text : String) (params : List String) : Prop :=
  ∃ ps, Splits text.toList ps ∧ names ps = params

variable {a b : String} {ma mb : List String} {d : Dialect}

theorem marks_inert (h : isInert a.toList = true) : Marks a [] :=
  ⟨chars a.toList, splits_inert h, names_chars _⟩

theorem marks_marker {name : String} (h : IsParamName name) : Marks (marker name) [name] :=
  ⟨[.marker name], splits_marker h.1 h.2, rfl⟩

theorem Marks.inert_append (ha : isInert a.toList = true) (hb : Marks b mb) :
    Marks (a ++ b) mb := by
  obtain ⟨pb, hsplits, rfl⟩ := hb
  refine ⟨chars a.toList ++ pb, ?_, by simp [names_append]⟩
  rw [String.toList_append]
  exact hsplits.inert_append ha

/-- The markers of a text come before those of what follows it. -/
theorem Marks.append (ha : Marks a ma) (hb : Marks b mb) (hne : b.toList ≠ [])
    (hstops : Stops isAsciiWordPart b.toList) : Marks (a ++ b) (ma ++ mb) := by
  obtain ⟨pa, hsplits, rfl⟩ := ha
  obtain ⟨pb, hsplits', rfl⟩ := hb
  refine ⟨pa ++ pb, ?_, names_append pa pb⟩
  rw [String.toList_append]
  exact hsplits.append hsplits' hne hstops

theorem Marks.append_inert (ha : Marks a ma) (hb : isInert b.toList = true)
    (hstops : Stops isAsciiWordPart b.toList) : Marks (a ++ b) ma := by
  by_cases hne : b.toList = []
  · rw [String.toList_eq_nil_iff.1 hne, String.append_empty]
    exact ha
  · simpa using ha.append (marks_inert hb) hne hstops

theorem Marks.markers_eq (h : Marks a ma) : markers a = ma := by
  obtain ⟨ps, hsplits, rfl⟩ := h
  exact markers_of_splits hsplits

theorem Marks.splits (h : Marks a ma) : Splits a.toList (pieces none 0 a.toList) := by
  obtain ⟨ps, hsplits, -⟩ := h
  rw [hsplits.pieces_eq]
  exact hsplits

/-- Parts with a separator between them have their markers in a row. -/
theorem marks_intercalate {separator : String} (hinert : isInert separator.toList = true)
    (hne : separator.toList ≠ []) (hstops : Stops isAsciiWordPart separator.toList)
    {parts : List String} (hparts : ∀ part ∈ parts, Marks part (markers part)) :
    Marks (separator.intercalate parts) (parts.flatMap markers) := by
  have h := splits_intercalate hinert hne hstops
    (parts.map fun p ↦ (p.toList, pieces none 0 p.toList)) (by
      intro part hpart
      obtain ⟨p, hp, rfl⟩ := List.mem_map.1 hpart
      exact (hparts p hp).splits)
  rw [List.map_map, List.map_map] at h
  refine ⟨(chars separator.toList).intercalate (parts.map fun p ↦ pieces none 0 p.toList), ?_, ?_⟩
  · rw [String.toList_intercalate]
    exact h
  · rw [names_intercalate, List.flatMap_map]
    rfl

/-! ## Markers of a condition -/

theorem marks_concat (d : Dialect) (parts : List String)
    (hparts : ∀ part ∈ parts, Marks part (markers part)) :
    Marks (d.style.concat parts) (parts.flatMap markers) := by
  unfold Style.concat
  split
  · next separator hform =>
    have hseparator : separator = " || " ∨ separator = " + " := by
      cases d <;> cases hform <;> simp
    rcases hseparator with rfl | rfl
    · exact marks_intercalate (by decide) (by decide) (by decide) hparts
    · exact marks_intercalate (by decide) (by decide) (by decide) hparts
  · next function hform =>
    have hfunction : isInert function.toList = true := by
      cases d <;> cases hform
      decide
    have hinner : Marks (", ".intercalate parts) (parts.flatMap markers) :=
      marks_intercalate (by decide) (by decide) (by decide) hparts
    have hopening : isInert (function ++ "(").toList = true := by
      rw [String.toList_append]
      exact isInert_append hfunction (by decide)
    exact (hinner.inert_append hopening).append_inert (by decide) (by decide)

theorem marks_wildcard : Marks "'%'" [] := marks_inert (by decide)

theorem marks_pattern (method : StringMethod) (h : Marks a ma) :
    Marks (Condition.pattern d.style method a) ma := by
  have hpart {text : String} {params : List String} (h : Marks text params) :
      Marks text (markers text) := by
    rw [h.markers_eq]
    exact h
  have hwildcard := marks_wildcard.markers_eq
  have ha := h.markers_eq
  cases method with
  | contains =>
    have hall := marks_concat d ["'%'", a, "'%'"]
      (by simp [hpart h, hpart marks_wildcard])
    simpa [Condition.pattern, hwildcard, ha] using hall
  | startsWith =>
    have hall := marks_concat d [a, "'%'"]
      (by simp [hpart h, hpart marks_wildcard])
    simpa [Condition.pattern, hwildcard, ha] using hall
  | endsWith =>
    have hall := marks_concat d ["'%'", a]
      (by simp [hpart h, hpart marks_wildcard])
    simpa [Condition.pattern, hwildcard, ha] using hall

theorem marks_nested (c : Condition) (h : Marks a ma) :
    Marks (if c.isCompound then "(" ++ a ++ ")" else a) ma := by
  split
  · exact (h.inert_append (a := "(") (by decide)).append_inert (by decide) (by decide)
  · exact h

/-- The markers of a condition are its parameters. -/
theorem marks_render (c : Condition)
    (hcolumns : ∀ column ∈ c.columns, isAsciiName column.toList = true)
    (hparams : ∀ param ∈ c.params, IsParamName param) :
    Marks (c.render d.style) c.params := by
  have hupper : isInert (d.style.upperFunction ++ "(").toList = true := by cases d <;> decide
  have hsymbol (op : CompareOp) : isInert (" " ++ op.sqlSymbol ++ " ").toList = true := by
    cases op <;> decide
  have hkeyword (op : Connective) : isInert (" " ++ op.sqlKeyword ++ " ").toList = true := by
    cases op <;> decide
  induction c with
  | always holds =>
    cases holds with
    | true => exact marks_inert (a := "1 = 1") (by decide)
    | false => exact marks_inert (a := "1 = 0") (by decide)
  | flag column =>
    exact marks_inert (isInert_identifier d (hcolumns column (by simp [Condition.columns])))
  | isNull column =>
    have hcolumn := isInert_identifier d (hcolumns column (by simp [Condition.columns]))
    exact marks_inert (isInert_append_string hcolumn (by decide))
  | isNotNull column =>
    have hcolumn := isInert_identifier d (hcolumns column (by simp [Condition.columns]))
    exact marks_inert (isInert_append_string hcolumn (by decide))
  | compareNull column op =>
    have hcolumn := isInert_identifier d (hcolumns column (by simp [Condition.columns]))
    have hnull : isInert (" " ++ op.sqlSymbol ++ " NULL").toList = true := by cases op <;> decide
    have h := isInert_append_string hcolumn hnull
    exact marks_inert (by simpa only [Condition.render, String.append_assoc] using h)
  | compareParam column op param =>
    have hcolumn := isInert_identifier d (hcolumns column (by simp [Condition.columns]))
    have hparam := marks_marker (hparams param (by simp [Condition.params]))
    have h := hparam.inert_append (isInert_append_string hcolumn (hsymbol op))
    simpa only [Condition.render, Condition.params, String.append_assoc] using h
  | compareColumns left op right =>
    have hleft := isInert_identifier d (hcolumns left (by simp [Condition.columns]))
    have hright := isInert_identifier d (hcolumns right (by simp [Condition.columns]))
    have h := isInert_append_string (isInert_append_string hleft (hsymbol op)) hright
    exact marks_inert (by simpa only [Condition.render, String.append_assoc] using h)
  | like column method param =>
    have hcolumn := isInert_identifier d (hcolumns column (by simp [Condition.columns]))
    have hparam := marks_marker (hparams param (by simp [Condition.params]))
    have hneedle : Marks (d.style.upperFunction ++ "(" ++ marker param ++ ")") [param] :=
      (hparam.inert_append hupper).append_inert (by decide) (by decide)
    have htext := isInert_append_string (isInert_append_string hupper hcolumn) (b := ") LIKE ")
      (by decide)
    exact (marks_pattern method hneedle).inert_append htext
  | not inner ih =>
    have h := (ih hcolumns hparams).inert_append (a := "NOT (") (by decide)
    exact h.append_inert (by decide) (by decide)
  | connect op left right ihl ihr =>
    have hl := ihl (fun c hc ↦ hcolumns c (by simp [Condition.columns, hc]))
      (fun p hp ↦ hparams p (by simp [Condition.params, hp]))
    have hr := ihr (fun c hc ↦ hcolumns c (by simp [Condition.columns, hc]))
      (fun p hp ↦ hparams p (by simp [Condition.params, hp]))
    have hrest := (marks_nested right hr).inert_append (hkeyword op)
    have h := (marks_nested left hl).append hrest (by simp [String.toList_append])
      (by simp [String.toList_append, isAsciiWordPart])
    simpa only [Condition.render, Condition.params, String.append_assoc] using h

/-! ## Filters and pages -/

def filterValues : Option Expr → List Value
  | none => []
  | some e => e.boundValues

def pageEntries : Option Page → List (String × Value)
  | none => []
  | some page => [("top", .int page.size), ("skip", .int page.skip)]

/-- The parameters of a page in the order in which a dialect reads them. -/
def pageBounds (d : Dialect) (page : Option Page) : List (String × Value) :=
  match d.style.pagingForm with
  | .limitOffset => pageEntries page
  | .offsetFetch => (pageEntries page).reverse

/-- The page that a query asks for: as many rows as its size, after those of the pages before. -/
structure Query.Pages (query : Query) (page : Option Page) : Prop where
  unpaged : query.pageSize = none → page = none
  paged : ∀ size, query.pageSize = some size → ∃ p, page = some p ∧ p.size = size ∧
    p.skip.toInt = ((query.page.getD 1).toInt - 1) * size.toInt

/-- A read statement binds the values of its filter in the order of its predicates, and then the
bounds of its page in the order of the dialect. -/
structure BindsRead (d : Dialect) (filter : Option Expr) (page : Option Page) (sql : String)
    (bag : ParamBag) : Prop where
  listed : ∃ names, names.length = (filterValues filter).length ∧
    bag.entries = names.zip (filterValues filter) ++ pageEntries page ∧
    markers sql = names ++ (pageBounds d page).map (·.1)
  distinct : bag.names.Nodup
  once : (markers sql).Perm bag.names
  bound : bindMarkers sql bag d = .ok ⟨String.ofList (replaced (pieces none 0 sql.toList)
      (d.style.slots (filterValues filter ++ (pageBounds d page).map (·.2)))),
    present (filterValues filter) ++ (pageBounds d page).map (·.2)⟩

theorem pageBounds_perm (d : Dialect) (page : Option Page) :
    (pageBounds d page).Perm (pageEntries page) := by
  unfold pageBounds
  split
  · exact .refl _
  · exact List.reverse_perm _

theorem present_pageBounds (d : Dialect) (page : Option Page) :
    present ((pageBounds d page).map (·.2)) = (pageBounds d page).map (·.2) := by
  cases page <;> cases d <;> rfl

def Underscored (name : String) : Prop := '_' ∈ name.toList

theorem Bindings.underscored_paramName (column : String) (number : Nat) :
    Underscored (paramName column number) := by
  rw [Underscored, toList_paramName]
  simp

/-- What a text with a filter is bound to, before its page is known. -/
structure Filters (filter : Option Expr) (sql : String) (bag : ParamBag) (names : List String) :
    Prop where
  length : names.length = (filterValues filter).length
  entries : bag.entries = names.zip (filterValues filter)
  marks : Marks sql names
  nodup : names.Nodup
  underscored : ∀ name ∈ names, Underscored name

theorem Filters.names_eq {filter : Option Expr} {sql : String} {bag : ParamBag}
    {names : List String} (h : Filters filter sql bag names) : bag.names = names := by
  rw [ParamBag.names, h.entries]
  exact List.map_fst_zip (Nat.le_of_eq h.length)

/-- No parameter of a filter is called as one of a page. -/
theorem Filters.nodup_page {filter : Option Expr} {sql : String} {bag : ParamBag}
    {names : List String} (h : Filters filter sql bag names) (page : Option Page) :
    (names ++ (pageEntries page).map (·.1)).Nodup := by
  rw [List.nodup_append]
  refine ⟨h.nodup, by cases page <;> simp [pageEntries], ?_⟩
  rintro name hname _ hpage rfl
  have hunderscored := h.underscored name hname
  cases page with
  | none => simp [pageEntries] at hpage
  | some page =>
    simp only [pageEntries, List.map_cons, List.map_nil, List.mem_cons, List.not_mem_nil,
      or_false] at hpage
    rcases hpage with rfl | rfl <;> exact absurd hunderscored (by unfold Underscored; decide)

theorem page_params_entries (page : Page) : page.params.entries = pageEntries (some page) :=
  ParamBag.ofList_entries (by simp)

/-- The bounds of a page go behind what the filter binds, under names of their own. -/
theorem Filters.extend_page {filter : Option Expr} {sql : String} {bag : ParamBag}
    {names : List String} (h : Filters filter sql bag names) (page : Page) :
    (bag.extend page.params).entries = bag.entries ++ pageEntries (some page) := by
  have hnodup : (bag.names ++ page.params.names).Nodup := by
    rw [h.names_eq, ParamBag.names, page_params_entries]
    exact h.nodup_page (some page)
  rw [ParamBag.extend_entries _ _ hnodup, page_params_entries]

/-- The markers of a filter and of a page, in whatever order the page has, are bound to their
values. -/
theorem Filters.bindsRead {filter : Option Expr} {sql paged : String} {bag all : ParamBag}
    {names : List String} {page : Option Page} (h : Filters filter sql bag names)
    (hentries : all.entries = bag.entries ++ pageEntries page)
    (hmarks : Marks paged (names ++ (pageBounds d page).map (·.1))) :
    BindsRead d filter page paged all := by
  have hnames : all.names = names ++ (pageEntries page).map (·.1) := by
    rw [ParamBag.names, hentries, List.map_append, ← ParamBag.names, h.names_eq]
  have hdistinct : all.names.Nodup := by
    rw [hnames]
    exact h.nodup_page page
  have hbounds := pageBounds_perm d page
  have hsubset : names.zip (filterValues filter) ++ pageBounds d page ⊆ all.entries := by
    intro entry hentry
    rw [hentries, h.entries]
    exact ((List.Perm.refl _).append hbounds).subset hentry
  have hfirst : (names.zip (filterValues filter) ++ pageBounds d page).map (·.1) =
      markers paged := by
    rw [hmarks.markers_eq, List.map_append, List.map_fst_zip (Nat.le_of_eq h.length)]
  have hsecond : (names.zip (filterValues filter) ++ pageBounds d page).map (·.2) =
      filterValues filter ++ (pageBounds d page).map (·.2) := by
    rw [List.map_append, List.map_snd_zip (Nat.le_of_eq h.length.symm)]
  have hlookup := map_lookup?_of_subset hdistinct hsubset
  rw [hfirst, hsecond] at hlookup
  refine ⟨⟨names, h.length, by rw [hentries, h.entries], hmarks.markers_eq⟩, hdistinct, ?_, ?_⟩
  · rw [hmarks.markers_eq, hnames]
    exact (List.Perm.refl _).append (hbounds.map _)
  · rw [bindMarkers_eq hlookup, ← present_pageBounds d page]
    simp only [present, List.filter_append, List.filter_filter, Bool.and_self]

namespace StatementBuilder

variable {b : StatementBuilder} {filter : Option Expr} {text sql : String} {bag : ParamBag}

/-- A text goes on with the condition that its filter is lowered to. -/
theorem filtered_eq_ok (hm : b.entity.Named) {e : Expr}
    (h : b.filtered text (some e) = .ok (sql, bag)) :
    ∃ c bs, Lowering.Lowered b.entity.column e .empty c bs ∧
      sql = text ++ (" WHERE " ++ c.render b.dialect.style) ∧ bag = bs.bag ∧
      ∀ column ∈ c.columns, isAsciiName column.toList = true := by
  unfold filtered filterClause at h
  obtain ⟨clause, hclause, h⟩ := bind_eq_ok.1 h
  obtain ⟨f, hf, hclause⟩ := bind_eq_ok.1 hclause
  cases hclause
  cases h
  obtain ⟨c, bs, hlowered, rfl⟩ := lowered_of_lower hf
  refine ⟨c, bs, hlowered, rfl, rfl, fun column hcolumn ↦ ?_⟩
  obtain ⟨p, -, hresolve⟩ := hlowered.resolved column hcolumn
  exact hm.isAsciiName_column hresolve

/-- A text without markers goes on with its filter. -/
theorem filters_of_filtered (hm : b.entity.Named) (htext : isInert text.toList = true)
    (h : b.filtered text filter = .ok (sql, bag)) : ∃ names, Filters filter sql bag names := by
  cases filter with
  | none =>
    cases h
    refine ⟨[], rfl, rfl, ?_, List.nodup_nil, by simp⟩
    exact marks_inert (isInert_append_string htext rfl)
  | some e =>
    obtain ⟨c, bs, hlowered, rfl, rfl, hcolumns⟩ := filtered_eq_ok hm h
    have hfresh := hlowered.fresh Bindings.fresh_empty
    have hlength := hlowered.length_params
    have hentries : bs.bag.entries = c.params.zip e.boundValues :=
      hlowered.entries Bindings.fresh_empty
    have hnames : bs.bag.names = c.params := by
      rw [ParamBag.names, hentries]
      exact List.map_fst_zip (Nat.le_of_eq hlength)
    refine ⟨c.params, hlength, hentries, ?_, ?_, ?_⟩
    · have hmarks := marks_render (d := b.dialect) c hcolumns hlowered.isParamName
      exact (hmarks.inert_append (a := " WHERE ") (by decide)).inert_append htext
    · rw [← hnames]
      exact hfresh.distinct
    · intro name hname
      rw [← hnames] at hname
      obtain ⟨column, number, -, rfl⟩ := hfresh.numbered name hname
      exact Bindings.underscored_paramName column number

/-- The paging clause has its two parameters in the order of the dialect. -/
theorem marks_paging (d : Dialect) (page : Page) :
    Marks (d.style.paging (marker "top") (marker "skip"))
      ((pageBounds d (some page)).map (·.1)) := by
  have htop : Marks (marker "top") ["top"] := marks_marker (isParamName_of_isAsciiName rfl)
  have hskip : Marks (marker "skip") ["skip"] := marks_marker (isParamName_of_isAsciiName rfl)
  have hlimit := (htop.inert_append (a := " LIMIT ") (by decide)).append
    (hskip.inert_append (a := " OFFSET ") (by decide)) (by decide) (by decide)
  have hoffset := (hskip.inert_append (a := " OFFSET ") (by decide)).append
    ((htop.inert_append (a := " ROWS FETCH NEXT ") (by decide)).append_inert (b := " ROWS ONLY")
      (by decide) (by decide)) (by decide) (by decide)
  cases hform : d.style.pagingForm with
  | limitOffset =>
    simpa [Style.paging, pageBounds, pageEntries, hform, String.append_assoc] using hlimit
  | offsetFetch =>
    simpa [Style.paging, pageBounds, pageEntries, hform, String.append_assoc] using hoffset

/-- A page has its two markers in the order of its dialect. -/
theorem marks_pagingClause (d : Dialect) (sql : String) (page : Page) :
    Marks (pagingClause d sql) ((pageBounds d (some page)).map (·.1)) := by
  unfold pagingClause
  split
  · exact (marks_paging d page).inert_append (by decide)
  · exact (marks_paging d page).inert_append (by decide)

theorem pagingClause_begins (d : Dialect) (sql : String) :
    (pagingClause d sql).toList ≠ [] ∧ Stops isAsciiWordPart (pagingClause d sql).toList := by
  have hpaging : ∃ s, (d.style.paging (marker "top") (marker "skip")).toList = ' ' :: s := by
    cases d <;> exact ⟨_, rfl⟩
  obtain ⟨s, hs⟩ := hpaging
  unfold pagingClause
  rw [String.toList_append, hs]
  split
  · exact ⟨by simp [orderByNothing], by simp [orderByNothing, isAsciiWordPart]⟩
  · exact ⟨by simp, by simp [isAsciiWordPart]⟩

theorem bindsRead_of_filters {names : List String} (h : Filters filter sql bag names) :
    BindsRead d filter none sql bag := by
  have hnone : (pageBounds d none).map (·.1) = [] := by cases d <;> rfl
  refine h.bindsRead (by simp [pageEntries]) ?_
  rw [hnone, List.append_nil]
  exact h.marks

/-- A read of all rows binds what its filter binds. -/
theorem selectAll_binds (hm : b.entity.Named) {st : Statement} (h : b.selectAll filter = .ok st) :
    ∃ bag, st.params = .single bag ∧ BindsRead b.dialect filter none st.sql bag := by
  unfold selectAll at h
  obtain ⟨⟨sql, bag⟩, hfiltered, h⟩ := bind_eq_ok.1 h
  cases h
  obtain ⟨names, hfilters⟩ := filters_of_filtered hm (isInert_selectText hm) hfiltered
  exact ⟨bag, rfl, bindsRead_of_filters hfilters⟩

theorem count_binds (hm : b.entity.Named) {st : Statement} (h : b.count filter = .ok st) :
    ∃ bag, st.params = .single bag ∧ BindsRead b.dialect filter none st.sql bag := by
  unfold count at h
  obtain ⟨⟨sql, bag⟩, hfiltered, h⟩ := bind_eq_ok.1 h
  cases h
  obtain ⟨names, hfilters⟩ := filters_of_filtered hm (isInert_countText hm) hfiltered
  exact ⟨bag, rfl, bindsRead_of_filters hfilters⟩

/-- The order of the rows adds no parameter. -/
theorem filters_append_order {names : List String} {order : OrderBy} {clause : String}
    (h : Filters filter sql bag names) (hm : b.entity.Named)
    (horder : b.orderBy order = .ok clause) :
    Filters filter (sql ++ clause) bag names := by
  have hclause := isInert_orderBy hm horder
  exact { h with marks := h.marks.append_inert hclause.1 hclause.2 }

/-- A select binds what its filter binds and then the bounds of its page. -/
theorem select_binds (hm : b.entity.Named) {query : Query} {st : Statement}
    (h : b.select query = .ok st) :
    ∃ bag page, st.params = .single bag ∧ query.Pages page ∧
      BindsRead b.dialect query.filter page st.sql bag := by
  obtain ⟨sql, bag, clause, hfiltered, horder, hst⟩ := select_eq_ok h
  obtain ⟨names, hfilters⟩ := filters_of_filtered hm (isInert_selectText hm) hfiltered
  have hordered := filters_append_order hfilters hm horder
  rcases hst with ⟨hsize, rfl⟩ | ⟨size, page, hsize, hpage, rfl⟩
  · exact ⟨bag, none, rfl, ⟨fun _ ↦ rfl, by simp [hsize]⟩, bindsRead_of_filters hordered⟩
  · refine ⟨bag.extend page.params, some page, rfl, ⟨by simp [hsize], ?_⟩, ?_⟩
    · intro size' hsize'
      rw [hsize] at hsize'
      cases hsize'
      exact ⟨page, rfl, (Page.ofNumber_eq_ok_iff.1 hpage).2⟩
    · refine hordered.bindsRead (hordered.extend_page page) ?_
      have hbegins := pagingClause_begins b.dialect (sql ++ clause)
      exact hordered.marks.append (marks_pagingClause b.dialect (sql ++ clause) page) hbegins.1
        hbegins.2

end StatementBuilder

/-- Every read statement that is built can be bound, and hands the driver the values of its filter
and of its page where their placeholders stand. -/
theorem reads_bind_end_to_end {b : StatementBuilder} (hm : b.entity.Named) :
    (∀ query st, b.select query = .ok st → ∃ bag page, st.params = .single bag ∧
      query.Pages page ∧ BindsRead b.dialect query.filter page st.sql bag) ∧
    (∀ filter st, b.selectAll filter = .ok st → ∃ bag, st.params = .single bag ∧
      BindsRead b.dialect filter none st.sql bag) ∧
    (∀ filter st, b.count filter = .ok st → ∃ bag, st.params = .single bag ∧
      BindsRead b.dialect filter none st.sql bag) :=
  ⟨fun _ _ ↦ StatementBuilder.select_binds hm, fun _ _ ↦ StatementBuilder.selectAll_binds hm,
    fun _ _ ↦ StatementBuilder.count_binds hm⟩

/-- The second page of a filtered read from a table with a reserved name. -/
theorem reads_bind_end_to_end_reserved :
    let b : StatementBuilder := ⟨⟨"Order", "ORDER", [⟨"Id", "ID", true, false, false⟩,
      ⟨"Group", "GROUP", false, false, false⟩]⟩, .sqlServer⟩
    let filter : Expr := .connect .and (.call (.column "Group") "Contains" [.const (.string "b")])
      (.compare .lte (.column "Id") (.const (.int 7)))
    let query : Query := ⟨some filter, [("Group", .desc)], some 2, some 10⟩
    ∃ st bag page, b.select query = .ok st ∧ st.params = .single bag ∧ query.Pages page ∧
      BindsRead b.dialect query.filter page st.sql bag := by
  intro b filter query
  have hm : b.entity.Named := ⟨by decide, by decide⟩
  have hbuilt : (b.select query).toBool = true := by decide +kernel
  cases h : b.select query with
  | error e =>
    rw [h] at hbuilt
    cases hbuilt
  | ok st =>
    obtain ⟨bag, page, hread⟩ := (reads_bind_end_to_end hm).1 query st h
    exact ⟨st, bag, page, rfl, hread⟩

end EntitySql
