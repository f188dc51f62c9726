import EntitySql.Proofs.ConditionText.ReadBack
import EntitySql.Proofs.ConditionText.Truth
import EntitySql.Proofs.Filter.Truth
import EntitySql.Proofs.Text.LetterCase
import EntitySql.Proofs.Value.Order
import EntitySql.Schema.Meta

/-!
# Translation keeps the meaning of a filter

The text that a filter becomes, read as an SQL condition on the row of the table, is as true as
the filter is on the record. Two uses are left out: an order whose value stands on the left of
its column, for the text names the column first and keeps the sign, and a needle with a character
that means something in a pattern.
-/

namespace EntitySql

open ConditionText Lowering

/-! ## Filters whose text says what they mean -/

def CompareOp.isOrder : CompareOp → Bool
  | .eq => false
  | .ne => false
  | _ => true

namespace Expr

/-- No order has a closed value on the left of a column. -/
def columnsFirst : Expr → Bool
  | .compare op left right => !(op.isOrder && left.isClosed && right.isRowMember)
  | .connect _ left right => left.columnsFirst && right.columnsFirst
  | .not inner => inner.columnsFirst
  | _ => true

/-- The upper case of every needle stands for itself in a pattern. -/
def PlainNeedles : Expr → Prop
  | .connect _ left right => left.PlainNeedles ∧ right.PlainNeedles
  | .not inner => inner.PlainNeedles
  | .call _ _ args => ∀ v ∈ args.flatMap known, ∀ needle ∈ v.patternText?,
    AllPlain (Text.upper needle.toList)
  | _ => True

/-- The properties that are conditions by themselves. -/
def flags : Expr → List String
  | .member .row name => [name]
  | .connect _ left right => left.flags ++ right.flags
  | .not inner => inner.flags
  | _ => []

end Expr

/-- Properties stand in columns of their own, however a database looks at the case of a name. -/
structure Resolver.Separates (resolve : Resolver) (properties : List String) : Prop where
  ascii : ∀ p ∈ properties, ∀ column, resolve p = .ok column →
    Text.isAsciiName column.toList = true
  distinct : ∀ p ∈ properties, ∀ q ∈ properties, ∀ column other, resolve p = .ok column →
    resolve q = .ok other → Text.sameIgnoringCase column other = true → p = q

/-- The row of a table in which properties of a record stand in their columns. -/
def Resolver.tableRow (resolve : Resolver) (properties : List String) (record : Record) : Row :=
  ⟨properties.filterMap fun p ↦
    match resolve p, Record.get? record p with
    | .ok column, some v => some (column, v)
    | _, _ => none⟩

theorem mem_tableRow {resolve : Resolver} {properties : List String} {record : Record}
    {column : String} {v : Value} (h : (column, v) ∈ (resolve.tableRow properties record).columns) :
    ∃ p ∈ properties, resolve p = .ok column ∧ Record.get? record p = some v := by
  obtain ⟨p, hp, h⟩ := List.mem_filterMap.1 h
  refine ⟨p, hp, ?_⟩
  split at h
  · next c w hresolve hget =>
    cases h
    exact ⟨hresolve, hget⟩
  · cases h

theorem column?_tableRow {resolve : Resolver} {properties : List String} {record : Record}
    (hseparates : resolve.Separates properties) {p column : String} {v : Value}
    (hp : p ∈ properties) (hcolumn : resolve p = .ok column)
    (hv : Record.get? record p = some v) :
    column? (resolve.tableRow properties record) column = some v := by
  have hmem : (column, v) ∈ (resolve.tableRow properties record).columns :=
    List.mem_filterMap.2 ⟨p, hp, by rw [hcolumn, hv]⟩
  unfold column?
  cases hfind : (resolve.tableRow properties record).columns.find?
      fun entry ↦ Text.sameIgnoringCase entry.1 column with
  | none =>
    have hnone := List.find?_eq_none.1 hfind _ hmem
    exact absurd (Text.sameIgnoringCase_self column) hnone
  | some entry =>
    have hsame := List.find?_some hfind
    obtain ⟨q, hq, hother, hw⟩ := mem_tableRow (List.mem_of_find?_eq_some hfind)
    have hqp : q = p := hseparates.distinct q hq p hp _ _ hother hcolumn hsame
    rw [hqp, hv] at hw
    rw [Option.map_some, hw]

/-! ## What the parts of a text say -/

/-- Conditions are connected by the same table of truth as filters. -/
theorem connected_eq (op : Connective) (a b : Option Bool) :
    connected op a b = Evaluation.connect op a b := by
  cases op <;> rcases a with _ | _ | _ <;> rcases b with _ | _ | _ <;> rfl

section Parts

variable {row : Row} {params : ParamBag}

theorem truth?_compare {op : CompareOp} {left right : Term} {a b : Value}
    (ha : left.value? row params = some a) (hb : right.value? row params = some b) :
    (Clause.compare op left right).truth? row params = some ((a.compare b).map op.holds) := by
  rw [Clause.truth?, Term.both?, ha, hb]

theorem truth?_nullTest (column : String) (op : CompareOp) {v : Value}
    (hv : column? row column = some v) :
    (nullTest column op).toClause.truth? row params = some (Evaluation.nullAnswer op v) := by
  have hcolumn : (Term.column column).value? row params = some v := hv
  have hcompare : (Clause.compare op (.column column) .null).truth? row params = some none := by
    rw [truth?_compare hcolumn rfl, Evaluation.compare_null_right]
    rfl
  cases op with
  | eq => simp [nullTest, Condition.toClause, Clause.truth?, hcolumn, Evaluation.nullAnswer]
  | ne => simp [nullTest, Condition.toClause, Clause.truth?, hcolumn, Evaluation.nullAnswer]
  | gt => exact hcompare
  | gte => exact hcompare
  | lt => exact hcompare
  | lte => exact hcompare

theorem truth?_always (holds : Bool) :
    (Condition.always holds).toClause.truth? row params = some (some holds) := by
  cases holds <;> rfl

/-- The sign of equality says the same whichever side comes first. -/
theorem holds_compare_swap {op : CompareOp} (h : op.isOrder = false) (a b : Value) :
    (b.compare a).map op.holds = (a.compare b).map op.holds := by
  rw [Value.compare_swap a b, Option.map_map]
  cases op with
  | eq => rcases a.compare b with _ | _ | _ | _ <;> rfl
  | ne => rcases a.compare b with _ | _ | _ | _ <;> rfl
  | _ => cases h

def patternValue (m : StringMethod) (v : Value) : Value :=
  match m with
  | .contains => joinedText (joinedText (.string "%") v) (.string "%")
  | .startsWith => joinedText v (.string "%")
  | .endsWith => joinedText (.string "%") v

theorem value?_patternTerm (m : StringMethod) {t : Term} {v : Value}
    (h : t.value? row params = some v) :
    (patternTerm m t).value? row params = some (patternValue m v) := by
  cases m <;> simp [patternTerm, patternValue, Term.value?, h]

theorem patternText?_string (s : String) : (Value.string s).patternText? = some s := rfl

theorem patternText?_upperText (v : Value) :
    (upperText v).patternText? =
      v.patternText?.map fun s ↦ String.ofList (Text.upper s.toList) := by
  unfold upperText
  cases v.patternText? <;> rfl

theorem patternText?_joinedText (a b : Value) :
    (joinedText a b).patternText? =
      a.patternText?.bind fun s ↦ b.patternText?.map fun t ↦ s ++ t := by
  unfold joinedText
  cases a.patternText? <;> cases b.patternText? <;> rfl

theorem patternText?_patternValue (m : StringMethod) (v : Value) :
    (patternValue m v).patternText? =
      v.patternText?.map fun s ↦ String.ofList (wildcards m s.toList) := by
  cases m <;> simp only [patternValue, patternText?_joinedText, patternText?_string] <;>
    cases v.patternText? <;> simp [wildcards, ← String.toList_inj, String.toList_append]

/-- Matching a pattern made from a plain needle asks what the string method asks. -/
theorem isLike_patternValue (m : StringMethod) (receiver v : Value)
    (hplain : ∀ needle ∈ v.patternText?, AllPlain (Text.upper needle.toList)) :
    isLike (upperText receiver) (patternValue m (upperText v)) =
      Evaluation.applyStringMethod m receiver v := by
  unfold isLike Evaluation.applyStringMethod
  rw [patternText?_patternValue, patternText?_upperText, patternText?_upperText]
  cases hreceiver : receiver.patternText? with
  | none => rfl
  | some s =>
    cases hneedle : v.patternText? with
    | none => rfl
    | some needle =>
      have hmatch := matchesPattern_wildcards m (hplain needle hneedle) (Text.upper s.toList)
      simp only [Option.map_some, String.toList_ofList, hmatch]
      rfl

end Parts

/-! ## Entities -/

theorem EntityMeta.property?_of_mem {m : EntityMeta} {name : String}
    (h : name ∈ m.properties.map (·.name)) :
    ∃ p ∈ m.properties, p.name = name ∧ m.column name = .ok p.column := by
  obtain ⟨p, hp, hname⟩ := List.mem_map.1 h
  cases hfind : m.properties.find? (·.name == name) with
  | none =>
    have hnone := List.find?_eq_none.1 hfind p hp
    exact absurd (beq_iff_eq.2 hname) hnone
  | some q =>
    have hq := List.find?_some hfind
    refine ⟨q, List.mem_of_find?_eq_some hfind, beq_iff_eq.1 hq, ?_⟩
    rw [column, property?, hfind]
    rfl

/-- An entity gives its properties columns of their own, where they are named as declared. -/
theorem EntityMeta.separates {m : EntityMeta} {properties : List String}
    (hascii : ∀ p ∈ m.properties, Text.isAsciiName p.column.toList = true)
    (hdistinct : ∀ p ∈ m.properties, ∀ q ∈ m.properties,
      Text.sameIgnoringCase p.column q.column = true → p = q)
    (hdeclared : ∀ name ∈ properties, name ∈ m.properties.map (·.name)) :
    Resolver.Separates m.column properties where
  ascii name hname column hcolumn := by
    obtain ⟨p, hp, -, hp'⟩ := EntityMeta.property?_of_mem (hdeclared name hname)
    rw [hp'] at hcolumn
    cases hcolumn
    exact hascii p hp
  distinct name hname other hother column column' hcolumn hcolumn' hsame := by
    obtain ⟨p, hp, rfl, hp'⟩ := EntityMeta.property?_of_mem (hdeclared name hname)
    obtain ⟨q, hq, rfl, hq'⟩ := EntityMeta.property?_of_mem (hdeclared other hother)
    rw [hp'] at hcolumn
    rw [hq'] at hcolumn'
    cases hcolumn
    cases hcolumn'
    rw [hdistinct p hp q hq hsame]

/-! ## The text of a filter -/

/-- The row has every property of a filter in its column, as the record has it, and truth values
where the filter asks for them. -/
structure Stands (resolve : Resolver) (row : Row) (record : Record) (e : Expr) : Prop where
  property : ∀ p ∈ e.properties, ∀ column, resolve p = .ok column →
    ∃ v, Record.get? record p = some v ∧ column? row column = some v
  flag : ∀ p ∈ e.flags, ∀ v, Record.get? record p = some v → v = .null ∨ ∃ b, v = .bool b

section Stands

variable {resolve : Resolver} {row : Row} {record : Record} {params : ParamBag}

theorem Stands.column {e : Expr} {p column : String} (h : Stands resolve row record e)
    (hp : p ∈ e.properties) (hcolumn : resolve p = .ok column) :
    ∃ v, (Expr.column p).eval (some record) = .ok v ∧ column? row column = some v ∧
      Record.get? record p = some v := by
  obtain ⟨v, hget, hv⟩ := h.property p hp column hcolumn
  refine ⟨v, ?_, hv, hget⟩
  rw [Expr.eval_column]
  simp only [Evaluation.property, hget]

theorem Stands.of_subset {e part : Expr} (h : Stands resolve row record e)
    (hproperties : part.properties ⊆ e.properties) (hflags : part.flags ⊆ e.flags) :
    Stands resolve row record part where
  property p hp := h.property p (hproperties hp)
  flag p hp := h.flag p (hflags hp)

/-- A comparison of a column with a value known before any row says of the column what its text
says. -/
theorem Stands.compared {left right : Expr} {op : CompareOp} {column : String} {v : Value}
    (h : Stands resolve row record (.compare op left right))
    (hcompared : Compared resolve left right column v)
    (hfirst : (Expr.compare op left right).columnsFirst = true) :
    ∃ w, column? row column = some w ∧
      (Expr.compare op left right).eval (some record) = .ok (Evaluation.ofTruth
        (if v.isNull then Evaluation.nullAnswer op w else (w.compare v).map op.holds)) := by
  cases hcompared with
  | left hcolumn hclosed hv =>
    obtain ⟨w, hw, hrow, -⟩ := h.column (by simp [Expr.properties, properties_column]) hcolumn
    refine ⟨w, hrow, ?_⟩
    rw [Expr.eval_compare hw ((Expr.eval_of_isClosed _ _ hclosed).trans hv), hclosed,
      Expr.not_isClosed_column, Bool.false_and, Bool.false_or, Bool.true_and]
    cases hnull : v.isNull with
    | true =>
      rw [Evaluation.eq_null_of_isNull hnull, Evaluation.compareValues_null_right, if_pos rfl]
    | false => rw [Evaluation.compareValues_unknown, if_neg (by decide)]
  | right hclosed hv hcolumn =>
    obtain ⟨w, hw, hrow, -⟩ := h.column (by simp [Expr.properties, properties_column]) hcolumn
    refine ⟨w, hrow, ?_⟩
    have hsign : op.isOrder = false := by
      simpa [Expr.columnsFirst, hclosed, Expr.isRowMember, Expr.column, Expr.column?] using hfirst
    rw [Expr.eval_compare ((Expr.eval_of_isClosed _ _ hclosed).trans hv) hw, hclosed,
      Expr.not_isClosed_column, Bool.false_and, Bool.or_false, Bool.true_and]
    cases hnull : v.isNull with
    | true =>
      rw [Evaluation.eq_null_of_isNull hnull, Evaluation.compareValues_null_left, if_pos rfl]
    | false =>
      rw [Evaluation.compareValues_unknown, if_neg (by decide), holds_compare_swap hsign]

/-- A filter has a truth value on a record, and a clause has it on a row. -/
def Agrees (row : Row) (record : Record) (params : ParamBag) (e : Expr) (clause : Clause) : Prop :=
  ∃ t, e.eval (some record) = .ok (Evaluation.ofTruth t) ∧ clause.truth? row params = some t

theorem Agrees.not {inner : Expr} {clause : Clause} (h : Agrees row record params inner clause) :
    Agrees row record params (.not inner) (.not clause) := by
  obtain ⟨t, heval, htruth⟩ := h
  refine ⟨t.map (!·), Expr.eval_not heval, ?_⟩
  rw [Clause.truth?, htruth, Option.map_some]

theorem Agrees.connect {op : Connective} {left right : Expr} {l r : Clause}
    (hl : Agrees row record params left l) (hr : Agrees row record params right r) :
    Agrees row record params (.connect op left right) (.connect op l r) := by
  obtain ⟨s, hs, hleft⟩ := hl
  obtain ⟨t, ht, hright⟩ := hr
  refine ⟨_, Expr.eval_connect hs ht, ?_⟩
  rw [Clause.truth?, hleft, hright, ← connected_eq]

theorem Stands.agrees_columns {op : CompareOp} {property other left right : String}
    (h : Stands resolve row record (.compare op (.column property) (.column other)))
    (hl : resolve property = .ok left) (hr : resolve other = .ok right) :
    Agrees row record params (.compare op (.column property) (.column other))
      (.compare op (.column left) (.column right)) := by
  obtain ⟨v, hv, hleft, -⟩ := h.column (by simp [Expr.properties, properties_column]) hl
  obtain ⟨w, hw, hright, -⟩ := h.column (by simp [Expr.properties, properties_column]) hr
  refine ⟨_, Expr.eval_compare hv hw, ?_⟩
  rw [Expr.not_isClosed_column, Expr.not_isClosed_column, Bool.false_and, Bool.false_and,
    Bool.or_false, Evaluation.compareValues_unknown]
  exact truth?_compare hleft hright

/-- A string method on a column is as true as the text of the column is like the pattern. -/
theorem Stands.agrees_like {method property column name : String} {m : StringMethod} {arg : Expr}
    {v : Value} (h : Stands resolve row record (.call (.column property) method [arg]))
    (hm : StringMethod.ofName? method = some m) (hclosed : arg.isClosed = true)
    (hv : arg.evaluate = .ok v) (hcolumn : resolve property = .ok column)
    (hneedle : ∀ needle ∈ v.patternText?, AllPlain (Text.upper needle.toList))
    (hparam : params.get? name = some v) :
    Agrees row record params (.call (.column property) method [arg])
      (.like (.upper (.column column)) (patternTerm m (.upper (.param name)))) := by
  obtain ⟨w, hw, hrow, -⟩ := h.column (by simp [Expr.properties, properties_column]) hcolumn
  have htext : (Term.upper (.column column)).value? row params = some (upperText w) := by
    rw [Term.value?, Term.value?, hrow, Option.map_some]
  have hneedleValue : (Term.upper (.param name)).value? row params = some (upperText v) := by
    rw [Term.value?, Term.value?, hparam, Option.map_some]
  refine ⟨_, Expr.eval_call hm hw ((Expr.eval_of_isClosed _ arg hclosed).trans hv), ?_⟩
  rw [Clause.truth?, Term.both?, htext, value?_patternTerm m hneedleValue]
  exact congrArg some (isLike_patternValue m w v hneedle)

theorem Stands.agrees_flag {property column : String}
    (h : Stands resolve row record (.column property)) (hcolumn : resolve property = .ok column) :
    Agrees row record params (.column property) (.flag (.column column)) := by
  obtain ⟨v, hv, hrow, hget⟩ := h.column (by simp [properties_column]) hcolumn
  have hvalue : (Term.column column).value? row params = some v := hrow
  rw [Agrees, Clause.truth?, hvalue, hv]
  rcases h.flag property (by simp [Expr.flags, Expr.column]) v hget with rfl | ⟨b, rfl⟩
  · exact ⟨none, rfl, rfl⟩
  · exact ⟨some b, rfl, rfl⟩

/-- A condition is as true of the row as the filter that became it is of the record. -/
theorem agrees_of_lowered {e : Expr} {b b' : Bindings} {c : Condition}
    (h : Lowered resolve e b c b') (hstands : Stands resolve row record e)
    (hfirst : e.columnsFirst = true) (hplain : e.PlainNeedles)
    (hparams : ∀ entry ∈ c.params.zip e.boundValues, params.get? entry.1 = some entry.2) :
    Agrees row record params e c.toClause := by
  induction h with
  | null b hcompared =>
    obtain ⟨w, hw, heval⟩ := hstands.compared hcompared hfirst
    exact ⟨_, heval, truth?_nullTest _ _ hw⟩
  | @value op left right column v b hcompared hnull =>
    obtain ⟨w, hw, heval⟩ := hstands.compared hcompared hfirst
    have hparam : params.get? (b.bind column v).1 = some v := by
      refine hparams (_, v) ?_
      simp [Condition.params, Expr.boundValues, hcompared.known, hnull]
    rw [hnull] at heval
    exact ⟨_, heval, truth?_compare hw hparam⟩
  | columns b hl hr => exact hstands.agrees_columns hl hr
  | @like method p column m arg v b hm hclosed hv hcolumn =>
    have hknown : arg.known = [v] := known_of_isClosed hclosed hv
    have hparam : params.get? (b.bind column v).1 = some v := by
      refine hparams (_, v) ?_
      simp [Condition.params, Expr.boundValues, hknown]
    exact hstands.agrees_like hm hclosed hv hcolumn (hplain v (by simp [hknown])) hparam
  | flag b hcolumn => exact hstands.agrees_flag hcolumn
  | always b _ hclosed hv =>
    exact ⟨some _, (Expr.eval_of_isClosed _ _ hclosed).trans hv, truth?_always _⟩
  | not _ ih =>
    exact (ih (hstands.of_subset (fun _ h ↦ h) (fun _ h ↦ h)) hfirst hplain hparams).not
  | connect hl hr ihl ihr =>
    simp only [Expr.columnsFirst, Bool.and_eq_true] at hfirst
    rw [Condition.params, Expr.boundValues, List.zip_append hl.length_params] at hparams
    have hleft := ihl (hstands.of_subset (by simp [Expr.properties]) (by simp [Expr.flags]))
      hfirst.1 hplain.1 fun entry hentry ↦ hparams entry (by simp [hentry])
    have hright := ihr (hstands.of_subset (by simp [Expr.properties]) (by simp [Expr.flags]))
      hfirst.2 hplain.2 fun entry hentry ↦ hparams entry (by simp [hentry])
    exact hleft.connect hright

end Stands

theorem stands_tableRow {resolve : Resolver} {record : Record} {e : Expr}
    (hseparates : resolve.Separates e.properties)
    (hpresent : ∀ p ∈ e.properties, (Record.get? record p).isSome = true)
    (hflags : ∀ p ∈ e.flags, ∀ v, Record.get? record p = some v → v = .null ∨ ∃ b, v = .bool b) :
    Stands resolve (resolve.tableRow e.properties record) record e where
  property p hp column hcolumn := by
    obtain ⟨v, hv⟩ := Option.isSome_iff_exists.1 (hpresent p hp)
    exact ⟨v, hv, column?_tableRow hseparates hp hcolumn hv⟩
  flag := hflags

/-- A filter that is lowered has a truth value on every record that has its properties, and its
text has that truth value on the row of the table. -/
theorem lower_keeps_truth {resolve : Resolver} {dialect : Dialect} {e : Expr} {f : Fragment}
    {record : Record} (h : e.lower resolve dialect = .ok f)
    (hseparates : resolve.Separates e.properties) (hfirst : e.columnsFirst = true)
    (hplain : e.PlainNeedles)
    (hpresent : ∀ p ∈ e.properties, (Record.get? record p).isSome = true)
    (hflags : ∀ p ∈ e.flags, ∀ v, Record.get? record p = some v → v = .null ∨ ∃ b, v = .bool b) :
    ∃ t, e.evaluateOn record = .ok (Evaluation.ofTruth t) ∧
      truth? dialect (resolve.tableRow e.properties record) f.params f.sql = some t := by
  obtain ⟨c, b, hlowered, rfl⟩ := lowered_of_lower h
  have hfresh : b.Fresh := hlowered.fresh Bindings.fresh_empty
  have hentries : b.bag.entries = c.params.zip e.boundValues :=
    hlowered.entries Bindings.fresh_empty
  have hparams : ∀ entry ∈ c.params.zip e.boundValues, b.bag.get? entry.1 = some entry.2 := by
    intro entry hentry
    rw [← hentries] at hentry
    exact ParamBag.get?_of_mem hfresh.distinct hentry
  have hcolumns : ∀ column ∈ c.columns, Text.isAsciiName column.toList = true := by
    intro column hcolumn
    obtain ⟨p, hp, hresolve⟩ := hlowered.resolved column hcolumn
    exact hseparates.ascii p hp column hresolve
  obtain ⟨t, heval, htruth⟩ := agrees_of_lowered hlowered
    (stands_tableRow hseparates hpresent hflags) hfirst hplain hparams
  refine ⟨t, heval, ?_⟩
  rw [truth?, Condition.read_render c hcolumns hlowered.isParamName, Option.bind_some]
  exact htruth

/-- A filter on a reserved column, a flag that is null, and a number. -/
theorem lower_keeps_truth_reserved :
    let m : EntityMeta := ⟨"Order", "ORDER", [⟨"Id", "ID", true, false, false⟩,
      ⟨"Group", "GROUP", false, false, false⟩, ⟨"Open", "OPEN", false, false, false⟩]⟩
    let e : Expr := .connect .or
      (.not (.call (.column "Group") "Contains" [.const (.string "b")]))
      (.connect .and (.column "Open") (.compare .lte (.column "Id") (.const (.int 7))))
    let record : Record := [("Group", .string "abc"), ("Id", .int 7), ("Open", .null)]
    ∃ f, e.lower m.column .sqlServer = .ok f ∧
      f.sql = "(NOT (UPPER([GROUP]) LIKE '%' + UPPER(@GROUP_0) + '%')) OR (OPEN AND ID <= @ID_1)" ∧
      ∃ t, e.evaluateOn record = .ok (Evaluation.ofTruth t) ∧
        truth? .sqlServer (Resolver.tableRow m.column e.properties record) f.params f.sql =
          some t := by
  intro m e record
  have hlower : e.lower m.column .sqlServer = .ok ⟨_, _⟩ := rfl
  refine ⟨_, hlower, by decide, ?_⟩
  refine lower_keeps_truth hlower ?_ rfl ?_ (by decide) ?_
  · exact EntityMeta.separates (by decide) (by decide) (by decide)
  · refine ⟨?_, trivial, trivial⟩
    intro v hv needle hneedle
    obtain rfl : v = .string "b" := List.mem_singleton.1 hv
    obtain rfl : "b" = needle := Option.some.inj hneedle
    exact List.all_eq_true.1 (by decide)
  · intro p hp v hv
    obtain rfl : p = "Open" := List.mem_singleton.1 hp
    obtain rfl : .null = v := Option.some.inj hv
    exact .inl rfl

end EntitySql
