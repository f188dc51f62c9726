import EntitySql.Proofs.Filter.Closed
import EntitySql.Proofs.Number.Reading
import EntitySql.Proofs.Outcome
import EntitySql.Proofs.Sql.ParamBag
import EntitySql.Proofs.Text.Run
import EntitySql.Sql.Lowering

/-!
# What lowering a filter yields

Each way in which a filter becomes a condition is a rule, with what it asks of the filter and what
it binds. Whatever is bound gets a name that no earlier value has, so that the bag lists the
values of the filter in the order in which its predicates stand in the text.
-/

namespace EntitySql

open Text

/-! ## Names of parameters -/

/-- What stands behind the at-sign of a marker. -/
def IsParamName (name : String) : Prop :=
  name.toList ≠ [] ∧ ∀ c ∈ name.toList, isAsciiWordPart c = true

theorem isParamName_of_isAsciiName {name : String} (h : isAsciiName name.toList = true) :
    IsParamName name :=
  ⟨isAsciiName_ne_nil h, fun _ hc ↦ isAsciiWordPart_of_mem h hc⟩

namespace Bindings

theorem toList_paramName (column : String) (number : Nat) :
    (paramName column number).toList =
      column.toList.map (fun c ↦ if isAsciiWordPart c then c else '_') ++
        '_' :: Nat.toDigits 10 number := by
  simp [paramName, String.toList_append]

theorem isAsciiWordPart_of_isDigit {c : Char} (h : c.isDigit = true) :
    isAsciiWordPart c = true := by
  simp [isAsciiWordPart, Char.isAlphanum, h]

/-- The name made for a column has only characters a marker may have, whatever the column is
called. -/
theorem isParamName_paramName (column : String) (number : Nat) :
    IsParamName (paramName column number) := by
  unfold IsParamName
  rw [toList_paramName]
  constructor
  · simp
  · intro c hc
    rcases List.mem_append.1 hc with hcolumn | hnumber
    · obtain ⟨d, -, rfl⟩ := List.mem_map.1 hcolumn
      by_cases hd : isAsciiWordPart d = true
      · rw [if_pos hd]
        exact hd
      · rw [if_neg hd]
        decide
    · rcases List.mem_cons.1 hnumber with rfl | hdigit
      · decide
      · exact isAsciiWordPart_of_isDigit (Number.isDigit_of_mem_toDigits hdigit)

/-- What follows the last underscore is the number, whatever stands before it. -/
theorem eq_of_append_digits {a b : List Char} {m n : Nat}
    (h : a ++ '_' :: Nat.toDigits 10 m = b ++ '_' :: Nat.toDigits 10 n) : m = n := by
  have hdigits (k : Nat) : ∀ c ∈ (Nat.toDigits 10 k).reverse, (c != '_') = true := by
    intro c hc
    have hdigit := Number.isDigit_of_mem_toDigits (List.mem_reverse.1 hc)
    rw [bne_iff_ne]
    rintro rfl
    exact absurd hdigit (by decide)
  have hnumber (a : List Char) (k : Nat) :
      (a ++ '_' :: Nat.toDigits 10 k).reverse.takeWhile (· != '_') =
        (Nat.toDigits 10 k).reverse := by
    rw [List.reverse_append, List.reverse_cons, List.append_assoc,
      List.takeWhile_append_of_pos (hdigits k)]
    simp
  have hlist := congrArg (fun name ↦ name.reverse.takeWhile (· != '_')) h
  simp only [hnumber, List.reverse_inj] at hlist
  calc
    m = Nat.ofDigitChars 10 (Nat.toDigits 10 m) 0 := Nat.ofDigitChars_ten_toDigits.symm
    _ = Nat.ofDigitChars 10 (Nat.toDigits 10 n) 0 := by rw [hlist]
    _ = n := Nat.ofDigitChars_ten_toDigits

/-- Names made with different numbers differ, for the same column or another. -/
theorem number_eq_of_paramName_eq {column other : String} {m n : Nat}
    (h : paramName column m = paramName other n) : m = n := by
  have hlist := congrArg String.toList h
  rw [toList_paramName, toList_paramName] at hlist
  exact eq_of_append_digits hlist

/-! ## Binding -/

variable {b : Bindings}

/-- Every name in the bag carries a number already given out, and none stands twice. -/
structure Fresh (b : Bindings) : Prop where
  distinct : b.bag.Distinct
  numbered : ∀ name ∈ b.bag.names, ∃ column number, number < b.next ∧
    name = paramName column number

theorem fresh_empty : empty.Fresh where
  distinct := List.nodup_nil
  numbered := by simp [empty, ParamBag.empty, ParamBag.names]

/-- The next name is in the bag under no column. -/
theorem Fresh.not_mem (h : b.Fresh) (column : String) : paramName column b.next ∉ b.bag.names := by
  intro hmem
  obtain ⟨other, number, hlt, heq⟩ := h.numbered _ hmem
  rw [number_eq_of_paramName_eq heq] at hlt
  exact Nat.lt_irrefl number hlt

theorem Fresh.bind_entries (h : b.Fresh) (column : String) (value : Value) :
    (b.bind column value).2.bag.entries =
      b.bag.entries ++ [((b.bind column value).1, value)] :=
  ParamBag.insert_entries value (h.not_mem column)

theorem Fresh.bind_names (h : b.Fresh) (column : String) (value : Value) :
    (b.bind column value).2.bag.names = b.bag.names ++ [(b.bind column value).1] := by
  simp [ParamBag.names, h.bind_entries column value]

/-- Binding a value keeps the numbers in the bag below the next one. -/
theorem Fresh.bind (h : b.Fresh) (column : String) (value : Value) :
    (b.bind column value).2.Fresh where
  distinct := by
    have hnew := h.not_mem column
    rw [ParamBag.Distinct, h.bind_names column value, List.nodup_append]
    refine ⟨h.distinct, by simp, ?_⟩
    rintro name hname _ hnew' rfl
    rw [List.mem_singleton.1 hnew'] at hname
    exact hnew hname
  numbered := by
    intro name hname
    rw [h.bind_names column value, List.mem_append, List.mem_singleton] at hname
    rcases hname with hold | rfl
    · obtain ⟨other, number, hlt, heq⟩ := h.numbered name hold
      exact ⟨other, number, Nat.lt_succ_of_lt hlt, heq⟩
    · exact ⟨column, b.next, Nat.lt_succ_self _, rfl⟩

end Bindings

/-! ## The rules of lowering -/

def Condition.columns : Condition → List String
  | .always _ => []
  | .flag column => [column]
  | .isNull column => [column]
  | .isNotNull column => [column]
  | .compareNull column _ => [column]
  | .compareParam column _ _ => [column]
  | .compareColumns left _ right => [left, right]
  | .like column _ _ => [column]
  | .not inner => inner.columns
  | .connect _ left right => left.columns ++ right.columns

def Condition.params : Condition → List String
  | .compareParam _ _ param => [param]
  | .like _ _ param => [param]
  | .not inner => inner.params
  | .connect _ left right => left.params ++ right.params
  | _ => []

def Expr.properties : Expr → List String
  | .member .row name => [name]
  | .member target _ => target.properties
  | .compare _ left right => left.properties ++ right.properties
  | .connect _ left right => left.properties ++ right.properties
  | .not inner => inner.properties
  | .call target _ args => target.properties ++ listed args
  | .arith _ left right => left.properties ++ right.properties
  | _ => []
where
  listed : List Expr → List String
    | [] => []
    | e :: es => e.properties ++ listed es

/-- The value of an expression where it is closed and has one. -/
def Expr.known (e : Expr) : List Value :=
  match e.isClosed, e.evaluate with
  | true, .ok v => [v]
  | _, _ => []

/-- The values that the predicates of a filter bring into a statement, from left to right. A null
in a comparison is no value of a parameter. -/
def Expr.boundValues : Expr → List Value
  | .compare _ left right => (left.known ++ right.known).filter fun v ↦ !v.isNull
  | .connect _ left right => left.boundValues ++ right.boundValues
  | .not inner => inner.boundValues
  | .call _ _ args => args.flatMap known
  | _ => []

/-- Whether an expression is built as a condition, and so is not lowered as a constant. -/
def Expr.isPredicate : Expr → Bool
  | .compare .. => true
  | .connect .. => true
  | .not _ => true
  | .call .. => true
  | _ => false

namespace Lowering

variable {resolve : Resolver}

/-- A comparison of a column with a value known without a row, on either side. -/
inductive Compared (resolve : Resolver) : Expr → Expr → String → Value → Prop
  | left {property column : String} {e : Expr} {v : Value} :
    resolve property = .ok column → e.isClosed = true → e.evaluate = .ok v →
      Compared resolve (.column property) e column v
  | right {property column : String} {e : Expr} {v : Value} :
    e.isClosed = true → e.evaluate = .ok v → resolve property = .ok column →
      Compared resolve e (.column property) column v

def nullTest (column : String) : CompareOp → Condition
  | .eq => .isNull column
  | .ne => .isNotNull column
  | op => .compareNull column op

inductive Lowered (resolve : Resolver) : Expr → Bindings → Condition → Bindings → Prop
  | null {op : CompareOp} {left right : Expr} {column : String} (b : Bindings) :
    Compared resolve left right column .null →
      Lowered resolve (.compare op left right) b (nullTest column op) b
  | value {op : CompareOp} {left right : Expr} {column : String} {v : Value} (b : Bindings) :
    Compared resolve left right column v → v.isNull = false →
      Lowered resolve (.compare op left right) b (.compareParam column op (b.bind column v).1)
        (b.bind column v).2
  | columns {op : CompareOp} {property other left right : String} (b : Bindings) :
    resolve property = .ok left → resolve other = .ok right →
      Lowered resolve (.compare op (.column property) (.column other)) b
        (.compareColumns left op right) b
  | like {method property column : String} {m : StringMethod} {arg : Expr} {v : Value}
      (b : Bindings) :
    StringMethod.ofName? method = some m → arg.isClosed = true → arg.evaluate = .ok v →
      resolve property = .ok column →
      Lowered resolve (.call (.column property) method [arg]) b
        (.like column m (b.bind column v).1) (b.bind column v).2
  | flag {property column : String} (b : Bindings) :
    resolve property = .ok column → Lowered resolve (.column property) b (.flag column) b
  | always {e : Expr} {holds : Bool} (b : Bindings) :
    e.isPredicate = false → e.isClosed = true → e.evaluate = .ok (.bool holds) →
      Lowered resolve e b (.always holds) b
  | not {inner : Expr} {c : Condition} {b b' : Bindings} :
    Lowered resolve inner b c b' → Lowered resolve (.not inner) b (.not c) b'
  | connect {op : Connective} {left right : Expr} {l r : Condition} {b₀ b₁ b₂ : Bindings} :
    Lowered resolve left b₀ l b₁ → Lowered resolve right b₁ r b₂ →
      Lowered resolve (.connect op left right) b₀ (.connect op l r) b₂

theorem operand_column {property column : String} (h : resolve property = .ok column) :
    operand resolve (.column property) = .ok (.column column) := by
  change (resolve property).map _ = _
  rw [h]
  rfl

theorem operand_of_isClosed {e : Expr} (h : e.isClosed = true) :
    operand resolve e = e.evaluate.map .value := by
  unfold operand
  split
  · next name hname =>
    rw [Expr.column?_eq_some.1 hname] at h
    cases h
  · rw [if_pos h]

theorem operand_of_evaluate {e : Expr} {v : Value} (hclosed : e.isClosed = true)
    (hv : e.evaluate = .ok v) : operand resolve e = .ok (.value v) := by
  rw [operand_of_isClosed hclosed, hv]
  rfl

/-- An operand is a column that is resolved, or an expression without a row and its value. -/
theorem operand_eq_ok {e : Expr} {o : Operand} (h : operand resolve e = .ok o) :
    (∃ property column, e = .column property ∧ resolve property = .ok column ∧
      o = .column column) ∨
    (∃ v, e.isClosed = true ∧ e.evaluate = .ok v ∧ o = .value v) := by
  unfold operand at h
  split at h
  · next property hproperty =>
    obtain ⟨column, hcolumn, rfl⟩ := map_eq_ok.1 h
    exact .inl ⟨property, column, Expr.column?_eq_some.1 hproperty, hcolumn, rfl⟩
  · split at h
    · next hclosed =>
      obtain ⟨v, hv, rfl⟩ := map_eq_ok.1 h
      exact .inr ⟨v, hclosed, hv, rfl⟩
    · cases h

/-- A comparison with a value is a null test or one parameter. -/
theorem lowered_of_compareWith {op : CompareOp} {left right : Expr} {column : String} {v : Value}
    {b b' : Bindings} {c : Condition} (hcompared : Compared resolve left right column v)
    (h : compareWith column op v b = .ok (c, b')) :
    Lowered resolve (.compare op left right) b c b' := by
  cases v with
  | null => cases op <;> cases h <;> exact .null b hcompared
  | record fields => cases h
  | bool _ => cases h; exact .value b hcompared rfl
  | int _ => cases h; exact .value b hcompared rfl
  | float _ => cases h; exact .value b hcompared rfl
  | string _ => cases h; exact .value b hcompared rfl
  | date _ => cases h; exact .value b hcompared rfl
  | dateTime _ => cases h; exact .value b hcompared rfl

/-- A comparison that is lowered comes about by one of the rules for comparisons. -/
theorem lowered_of_comparison {op : CompareOp} {left right : Expr} {b b' : Bindings}
    {c : Condition} (h : comparison resolve op left right b = .ok (c, b')) :
    Lowered resolve (.compare op left right) b c b' := by
  unfold comparison at h
  obtain ⟨l, hl, h⟩ := bind_eq_ok.1 h
  obtain ⟨r, hr, h⟩ := bind_eq_ok.1 h
  rcases operand_eq_ok hl with ⟨p, cl, rfl, hp, rfl⟩ | ⟨v, hclosed, hv, rfl⟩ <;>
    rcases operand_eq_ok hr with ⟨q, cr, rfl, hq, rfl⟩ | ⟨w, hclosed', hw, rfl⟩
  · cases h
    exact .columns b hp hq
  · exact lowered_of_compareWith (.left hp hclosed' hw) h
  · exact lowered_of_compareWith (.right hclosed hv hq) h
  · cases h

theorem lowered_of_stringPredicate {target : Expr} {method : String} {args : List Expr}
    {b b' : Bindings} {c : Condition}
    (h : stringPredicate resolve target method args b = .ok (c, b')) :
    Lowered resolve (.call target method args) b c b' := by
  unfold stringPredicate at h
  split at h
  · cases h
  next m hm =>
  split at h
  · cases h
  next property hproperty =>
  split at h
  · next arg =>
    rw [Expr.column?_eq_some.1 hproperty]
    cases hclosed : arg.isClosed with
    | false => simp [hclosed] at h
    | true =>
      rw [hclosed, Bool.not_true, if_neg (by decide)] at h
      obtain ⟨v, hv, h⟩ := bind_eq_ok.1 h
      obtain ⟨column, hcolumn, h⟩ := bind_eq_ok.1 h
      cases h
      exact .like b hm hclosed hv hcolumn
  · cases h

/-- What is neither comparison, call nor connective stands as a flag or a constant. -/
theorem lowered_of_leaf {e : Expr} {b b' : Bindings} {c : Condition}
    (hleaf : e.isPredicate = false) (h : leaf resolve e b = .ok (c, b')) :
    Lowered resolve e b c b' := by
  unfold leaf at h
  split at h
  · next property hproperty =>
    obtain ⟨column, hcolumn, heq⟩ := map_eq_ok.1 h
    cases heq
    rw [Expr.column?_eq_some.1 hproperty]
    exact .flag b hcolumn
  · split at h
    · next hclosed =>
      obtain ⟨d, hd, heq⟩ := map_eq_ok.1 h
      cases heq
      unfold constant at hd
      obtain ⟨v, hv, hd⟩ := bind_eq_ok.1 hd
      cases v <;> cases hd
      exact .always b hleaf hclosed hv
    · cases h

/-- Every condition comes about by one of the rules. -/
theorem lowered_of_condition (e : Expr) {b b' : Bindings} {c : Condition}
    (h : condition resolve e b = .ok (c, b')) : Lowered resolve e b c b' := by
  induction e, b using condition.induct generalizing c b' with
  | case1 op left right b => exact lowered_of_comparison h
  | case2 op left right b ihl ihr =>
    rw [condition] at h
    obtain ⟨⟨l, b₁⟩, hl, h⟩ := bind_eq_ok.1 h
    obtain ⟨⟨r, b₂⟩, hr, h⟩ := bind_eq_ok.1 h
    cases h
    exact .connect (ihl hl) (ihr _ hr)
  | case3 inner b ih =>
    rw [condition] at h
    obtain ⟨⟨d, b₁⟩, hd, h⟩ := bind_eq_ok.1 h
    cases h
    exact .not (ih hd)
  | case4 target method args b => exact lowered_of_stringPredicate h
  | case5 e b hcompare hconnect hnot hcall =>
    cases e with
    | compare op left right => exact absurd rfl (hcompare op left right)
    | connect op left right => exact absurd rfl (hconnect op left right)
    | not inner => exact absurd rfl (hnot inner)
    | call target method args => exact absurd rfl (hcall target method args)
    | row => exact lowered_of_leaf rfl h
    | const v => exact lowered_of_leaf rfl h
    | member target name => exact lowered_of_leaf rfl h
    | arith op left right => exact lowered_of_leaf rfl h

/-! ## What every condition satisfies -/

theorem known_of_isClosed {e : Expr} {v : Value} (hclosed : e.isClosed = true)
    (hv : e.evaluate = .ok v) : e.known = [v] := by
  simp [Expr.known, hclosed, hv]

theorem known_column (property : String) : (Expr.column property).known = [] := rfl

theorem Compared.known {left right : Expr} {column : String} {v : Value}
    (h : Compared resolve left right column v) : left.known ++ right.known = [v] := by
  cases h with
  | left _ hclosed hv => rw [known_column, known_of_isClosed hclosed hv, List.nil_append]
  | right hclosed hv _ => rw [known_column, known_of_isClosed hclosed hv, List.append_nil]

theorem params_nullTest (column : String) (op : CompareOp) :
    (nullTest column op).params = [] := by
  cases op <;> rfl

theorem columns_nullTest (column : String) (op : CompareOp) :
    (nullTest column op).columns = [column] := by
  cases op <;> rfl

theorem boundValues_of_not_isPredicate {e : Expr} (h : e.isPredicate = false) :
    e.boundValues = [] := by
  cases e <;> first | rfl | cases h

/-- Lowering keeps fresh names fresh. By induction on the rules. -/
theorem Lowered.fresh {e : Expr} {b b' : Bindings} {c : Condition}
    (h : Lowered resolve e b c b') (hb : b.Fresh) : b'.Fresh := by
  induction h with
  | null b _ => exact hb
  | value b _ _ => exact hb.bind _ _
  | columns b _ _ => exact hb
  | like b _ _ _ _ => exact hb.bind _ _
  | flag b _ => exact hb
  | always b _ _ _ => exact hb
  | not _ ih => exact ih hb
  | connect _ _ ihl ihr => exact ihr (ihl hb)

/-- A condition has one parameter for every value its filter binds. -/
theorem Lowered.length_params {e : Expr} {b b' : Bindings} {c : Condition}
    (h : Lowered resolve e b c b') : c.params.length = e.boundValues.length := by
  induction h with
  | null b hcompared => simp [params_nullTest, Expr.boundValues, hcompared.known, Value.isNull]
  | value b hcompared hv => simp [Condition.params, Expr.boundValues, hcompared.known, hv]
  | columns b _ _ => rfl
  | like b _ hclosed hv _ =>
    simp [Condition.params, Expr.boundValues, known_of_isClosed hclosed hv]
  | flag b _ => rfl
  | always b hleaf _ _ => simp [Condition.params, boundValues_of_not_isPredicate hleaf]
  | not _ ih => exact ih
  | connect _ _ ihl ihr => simp [Condition.params, Expr.boundValues, ihl, ihr]

/-- The bag goes on with the parameters of the condition and the values of the filter, each under
its own name. -/
theorem Lowered.entries {e : Expr} {b b' : Bindings} {c : Condition}
    (h : Lowered resolve e b c b') (hb : b.Fresh) :
    b'.bag.entries = b.bag.entries ++ c.params.zip e.boundValues := by
  induction h with
  | null b hcompared => simp [params_nullTest]
  | value b hcompared hv =>
    simp [Condition.params, Expr.boundValues, hcompared.known, hv, hb.bind_entries]
  | columns b _ _ => simp [Condition.params]
  | like b _ hclosed hv _ =>
    simp [Condition.params, Expr.boundValues, known_of_isClosed hclosed hv, hb.bind_entries]
  | flag b _ => simp [Condition.params]
  | always b _ _ _ => simp [Condition.params]
  | not _ ih => exact ih hb
  | connect hl hr ihl ihr =>
    rw [ihr (hl.fresh hb), ihl hb, List.append_assoc, ← List.zip_append hl.length_params]
    rfl

theorem Lowered.isParamName {e : Expr} {b b' : Bindings} {c : Condition}
    (h : Lowered resolve e b c b') : ∀ param ∈ c.params, IsParamName param := by
  induction h with
  | null b _ => simp [params_nullTest]
  | value b _ _ =>
    simp only [Condition.params, List.mem_singleton, forall_eq]
    exact Bindings.isParamName_paramName _ _
  | columns b _ _ => simp [Condition.params]
  | like b _ _ _ _ =>
    simp only [Condition.params, List.mem_singleton, forall_eq]
    exact Bindings.isParamName_paramName _ _
  | flag b _ => simp [Condition.params]
  | always b _ _ _ => simp [Condition.params]
  | not _ ih => exact ih
  | connect _ _ ihl ihr =>
    intro param hparam
    rcases List.mem_append.1 hparam with hl | hr
    · exact ihl param hl
    · exact ihr param hr

theorem properties_column (property : String) : (Expr.column property).properties = [property] :=
  rfl

theorem Compared.resolved {left right : Expr} {column : String} {v : Value}
    (h : Compared resolve left right column v) :
    ∃ property ∈ left.properties ++ right.properties, resolve property = .ok column := by
  cases h with
  | left hcolumn _ _ => exact ⟨_, by simp [properties_column], hcolumn⟩
  | right _ _ hcolumn => exact ⟨_, by simp [properties_column], hcolumn⟩

/-- Every column of the condition belongs to a property that the filter names. -/
theorem Lowered.resolved {e : Expr} {b b' : Bindings} {c : Condition}
    (h : Lowered resolve e b c b') :
    ∀ column ∈ c.columns, ∃ property ∈ e.properties, resolve property = .ok column := by
  induction h with
  | null b hcompared =>
    simp only [columns_nullTest, List.mem_singleton, forall_eq]
    exact hcompared.resolved
  | value b hcompared _ =>
    simp only [Condition.columns, List.mem_singleton, forall_eq]
    exact hcompared.resolved
  | columns b hl hr =>
    intro column hcolumn
    simp only [Condition.columns, List.mem_cons, List.not_mem_nil, or_false] at hcolumn
    rcases hcolumn with rfl | rfl
    · exact ⟨_, by simp [Expr.properties, Expr.column], hl⟩
    · exact ⟨_, by simp [Expr.properties, Expr.column], hr⟩
  | like b _ _ _ hcolumn =>
    simp only [Condition.columns, List.mem_singleton, forall_eq]
    exact ⟨_, by simp [Expr.properties, Expr.column], hcolumn⟩
  | flag b hcolumn =>
    simp only [Condition.columns, List.mem_singleton, forall_eq]
    exact ⟨_, by simp [properties_column], hcolumn⟩
  | always b _ _ _ => simp [Condition.columns]
  | not _ ih => exact ih
  | connect _ _ ihl ihr =>
    intro column hcolumn
    rcases List.mem_append.1 hcolumn with hl | hr
    · obtain ⟨property, hproperty, hresolve⟩ := ihl column hl
      exact ⟨property, by simp [Expr.properties, hproperty], hresolve⟩
    · obtain ⟨property, hproperty, hresolve⟩ := ihr column hr
      exact ⟨property, by simp [Expr.properties, hproperty], hresolve⟩

end Lowering

/-- A filter that is lowered is the text of a condition and the bag of its parameters. -/
theorem lowered_of_lower {e : Expr} {resolve : Resolver} {dialect : Dialect} {f : Fragment}
    (h : e.lower resolve dialect = .ok f) :
    ∃ c b, Lowering.Lowered resolve e .empty c b ∧ f = ⟨c.render dialect.style, b.bag⟩ := by
  unfold Expr.lower at h
  obtain ⟨⟨c, b⟩, hc, h⟩ := bind_eq_ok.1 h
  cases h
  exact ⟨c, b, Lowering.lowered_of_condition e hc, rfl⟩

end EntitySql
