import EntitySql.Proofs.Filter.Closed
import EntitySql.Schema.Registry
import EntitySql.Sql.Statement

/-!
# What a statement is refused for

Resolving an entity and building a statement fail for what the caller gave: the declaration of
the entity, the filter, or an argument. No other class of error comes from either.
-/

namespace EntitySql

/-- The classes of errors that tell of what the caller gave, and not of a database. -/
def Error.isRefusal : Error → Bool
  | .schema _ | .unsupported _ | .validation _ => true
  | _ => false

def Refusing {α : Type} : Except Error α → Prop
  | .ok _ => True
  | .error e => e.isRefusal = true

namespace Refusing

variable {α β : Type} {x : Except Error α}

/-- What fails in a computation that only refuses is a refusal. -/
theorem isRefusal (h : Refusing x) {e : Error} (hx : x = .error e) : e.isRefusal = true := by
  rw [hx] at h
  exact h

/-- Steps that only refuse, one after the other, only refuse. -/
theorem bind {f : α → Except Error β} (h : Refusing x) (hnext : ∀ a, Refusing (f a)) :
    Refusing (x >>= f) := by
  cases x with
  | ok a => exact hnext a
  | error e => exact h

theorem map {f : α → β} (h : Refusing x) : Refusing (x.map f) := by
  cases x with
  | ok a => trivial
  | error e => exact h

end Refusing

/-! ## Filters -/

theorem refusing_member (v : Value) (name : String) : Refusing (v.member name) := by
  unfold Value.member
  split
  · split
    · trivial
    · rfl
  · rfl
  · rfl

namespace Evaluation

theorem refusing_truth? (v : Value) : Refusing (truth? v) := by
  unfold truth?
  split
  · trivial
  · trivial
  · rfl

theorem refusing_callMethod (receiver : Value) (method : String) (args : List Value) :
    Refusing (callMethod receiver method args) := by
  unfold callMethod
  split
  · split
    · trivial
    · rfl
  · split
    · split
      · rfl
      · split
        · trivial
        · trivial
        · rfl
    · rfl

theorem refusing_arithInt (op : ArithOp) (a b : Int64) : Refusing (arithInt op a b) := by
  unfold arithInt
  split
  · rfl
  · split
    · trivial
    · rfl

theorem refusing_arith (op : ArithOp) (left right : Value) : Refusing (arith op left right) := by
  unfold arith
  split
  · trivial
  · split
    · trivial
    · split
      · exact (refusing_arithInt op _ _).map
      · split
        · trivial
        · rfl

theorem refusing_property (row : Option Record) (name : String) :
    Refusing (property row name) := by
  unfold property
  split
  · rfl
  · split
    · trivial
    · rfl

end Evaluation

namespace Expr

open Evaluation

mutual

/-- An expression fails on no record but by a refusal. By structural induction, along with the
lists of arguments. -/
theorem refusing_eval (row : Option Record) : ∀ e : Expr, Refusing (e.eval row)
  | .row => rfl
  | .const _ => trivial
  | .member target name => by
    by_cases htarget : target = .row
    · subst htarget
      exact refusing_property row name
    · rw [eval_member row name htarget]
      exact (refusing_eval row target).bind fun v ↦ refusing_member v name
  | .compare _ left right =>
    (refusing_eval row left).bind fun _ ↦ (refusing_eval row right).bind fun _ ↦ trivial
  | .connect _ left right =>
    (refusing_eval row left).bind fun l ↦ (refusing_truth? l).bind fun _ ↦
      (refusing_eval row right).bind fun r ↦ (refusing_truth? r).bind fun _ ↦ trivial
  | .not inner =>
    (refusing_eval row inner).bind fun v ↦ (refusing_truth? v).bind fun _ ↦ trivial
  | .call target method args =>
    (refusing_eval row target).bind fun receiver ↦ (refusing_evalAll row args).bind fun values ↦
      refusing_callMethod receiver method values
  | .arith op left right =>
    (refusing_eval row left).bind fun l ↦ (refusing_eval row right).bind fun r ↦
      refusing_arith op l r

theorem refusing_evalAll (row : Option Record) : ∀ es : List Expr, Refusing (evalAll row es)
  | [] => trivial
  | e :: es => (refusing_eval row e).bind fun _ ↦ (refusing_evalAll row es).bind fun _ ↦ trivial

end

end Expr

namespace Lowering

variable {resolve : Resolver}

theorem refusing_operand (hresolve : ∀ p, Refusing (resolve p)) (e : Expr) :
    Refusing (operand resolve e) := by
  unfold operand
  split
  · exact (hresolve _).map
  · split
    · exact (Expr.refusing_eval none e).map
    · rfl

theorem refusing_compareWith (column : String) (op : CompareOp) (v : Value) (b : Bindings) :
    Refusing (compareWith column op v b) := by
  unfold compareWith
  split
  · trivial
  · trivial
  · trivial
  · rfl
  · trivial

/-- A comparison is lowered or refused, as long as its columns are resolved or refused. -/
theorem refusing_comparison (hresolve : ∀ p, Refusing (resolve p)) (op : CompareOp)
    (left right : Expr) (b : Bindings) : Refusing (comparison resolve op left right b) := by
  refine (refusing_operand hresolve left).bind fun l ↦ (refusing_operand hresolve right).bind ?_
  intro r
  split
  · exact refusing_compareWith _ op _ b
  · exact refusing_compareWith _ op _ b
  · trivial
  · rfl

theorem refusing_stringPredicate (hresolve : ∀ p, Refusing (resolve p)) (target : Expr)
    (method : String) (args : List Expr) (b : Bindings) :
    Refusing (stringPredicate resolve target method args b) := by
  unfold stringPredicate
  split
  · rfl
  · split
    · rfl
    · split
      · split
        · rfl
        · exact (Expr.refusing_eval none _).bind fun _ ↦ (hresolve _).bind fun _ ↦ trivial
      · rfl

theorem refusing_constant (e : Expr) : Refusing (constant e) := by
  refine (Expr.refusing_eval none e).bind fun v ↦ ?_
  split
  · trivial
  · rfl

theorem refusing_leaf (hresolve : ∀ p, Refusing (resolve p)) (e : Expr) (b : Bindings) :
    Refusing (leaf resolve e b) := by
  unfold leaf
  split
  · exact (hresolve _).map
  · split
    · exact (refusing_constant e).map
    · rfl

/-- No filter fails to be lowered but by a refusal. By structural induction over the connectives. -/
theorem refusing_condition (hresolve : ∀ p, Refusing (resolve p)) :
    ∀ (e : Expr) (b : Bindings), Refusing (condition resolve e b)
  | .compare op left right, b => refusing_comparison hresolve op left right b
  | .connect _ left right, b =>
    (refusing_condition hresolve left b).bind fun l ↦
      (refusing_condition hresolve right l.2).bind fun _ ↦ trivial
  | .not inner, b => (refusing_condition hresolve inner b).bind fun _ ↦ trivial
  | .call target method args, b => refusing_stringPredicate hresolve target method args b
  | .row, b => refusing_leaf hresolve .row b
  | .const v, b => refusing_leaf hresolve (.const v) b
  | .member target name, b => refusing_leaf hresolve (.member target name) b
  | .arith op left right, b => refusing_leaf hresolve (.arith op left right) b

end Lowering

/-- A lowering refuses a filter or succeeds, as far as its resolver does. -/
theorem Expr.refusing_lower {resolve : Resolver} (hresolve : ∀ p, Refusing (resolve p)) (e : Expr)
    (dialect : Dialect) : Refusing (e.lower resolve dialect) :=
  (Lowering.refusing_condition hresolve e .empty).bind fun _ ↦ trivial

/-! ## Metadata -/

namespace EntityMeta

/-- A description is resolved or refused. -/
theorem refusing_resolve (d : EntityDescriptor) (names : Option AliasMap) (case : NameCase) :
    Refusing (EntityMeta.resolve d names case) := by
  unfold EntityMeta.resolve
  split
  · rfl
  · split
    · rfl
    · trivial

theorem refusing_column (m : EntityMeta) (property : String) : Refusing (m.column property) := by
  unfold column
  split
  · trivial
  · rfl

theorem refusing_keyProperties (m : EntityMeta) : Refusing m.keyProperties := by
  unfold keyProperties
  split
  · rfl
  · trivial

end EntityMeta

/-- The registry adds no failure of its own to a resolution. -/
theorem Registry.refusing_resolve (r : Registry) (d : EntityDescriptor) :
    Refusing (r.resolve d).1 := by
  unfold Registry.resolve
  split
  · trivial
  · have h := EntityMeta.refusing_resolve d (r.aliases.lookup d.name) r.nameCase
    split
    · trivial
    · next he => exact h.isRefusal he

/-! ## Statements -/

theorem refusing_keyValue (record : Record) (property : String) :
    Refusing (keyValue record property) := by
  unfold keyValue
  split
  · trivial
  · rfl

/-- Keys are read one after the other, and the first that is missing refuses. -/
theorem refusing_keyEntries (record : Record) (keys : List ResolvedProperty) :
    Refusing (keyEntries record keys) := by
  induction keys with
  | nil => trivial
  | cons k ks ih => exact (refusing_keyValue record k.name).bind fun _ ↦ ih.bind fun _ ↦ trivial

theorem refusing_keyBag (record : Record) (keys : List ResolvedProperty) :
    Refusing (keyBag record keys) :=
  (refusing_keyEntries record keys).map

theorem refusing_updateBag (record : Record) (sets keys : List ResolvedProperty) :
    Refusing (updateBag record sets keys) :=
  (refusing_keyBag record keys).map

/-- A batch refuses where one of its bags does. -/
theorem refusing_allBags {bag : Record → Except Error ParamBag} (h : ∀ r, Refusing (bag r))
    (records : List Record) : Refusing (allBags bag records) := by
  induction records with
  | nil => trivial
  | cons r rs ih => exact (h r).bind fun _ ↦ ih.bind fun _ ↦ trivial

/-- A page out of range is refused. -/
theorem refusing_paginate (sql : String) (number : Option Int64) (size : Int64)
    (dialect : Dialect) : Refusing (paginate sql number size dialect) := by
  have hpage : Refusing (Page.ofNumber number size) := by
    unfold Page.ofNumber
    split
    · rfl
    · dsimp only
      split
      · rfl
      · split
        · trivial
        · rfl
  exact hpage.bind fun _ ↦ trivial

namespace StatementBuilder

variable (b : StatementBuilder)

/-- A read with a filter refuses what the filter refuses. -/
theorem refusing_filtered (text : String) (filter : Option Expr) :
    Refusing (b.filtered text filter) := by
  have hclause : Refusing (b.filterClause filter) := by
    cases filter with
    | none => trivial
    | some e => exact (e.refusing_lower b.entity.refusing_column b.dialect).bind fun _ ↦ trivial
  exact hclause.bind fun _ ↦ trivial

theorem refusing_orderBy (order : OrderBy) : Refusing (b.orderBy order) := by
  have hterms : Refusing (b.orderTerms order) := by
    induction order with
    | nil => trivial
    | cons term rest ih =>
      exact (b.entity.refusing_column term.1).bind fun _ ↦ ih.bind fun _ ↦ trivial
  exact hterms.bind fun _ ↦ trivial

/-- A select refuses its filter, its order or its page. -/
theorem refusing_select (query : Query) : Refusing (b.select query) := by
  refine (b.refusing_filtered _ query.filter).bind fun _ ↦
    (b.refusing_orderBy query.order).bind fun _ ↦ ?_
  dsimp only
  split
  · trivial
  · exact (refusing_paginate _ _ _ _).bind fun _ ↦ trivial

theorem refusing_count (filter : Option Expr) : Refusing (b.count filter) :=
  (b.refusing_filtered _ filter).bind fun _ ↦ trivial

/-- A key that does not fit those of the entity is refused. -/
theorem refusing_keyParams (keys : List ResolvedProperty) (key : KeyValues) :
    Refusing (b.keyParams keys key) := by
  cases key with
  | composite values => exact refusing_keyBag values keys
  | single value =>
    unfold keyParams
    dsimp only
    split
    · trivial
    · rfl

theorem refusing_selectById (key : KeyValues) : Refusing (b.selectById key) :=
  b.entity.refusing_keyProperties.bind fun keys ↦ (b.refusing_keyParams keys key).bind fun _ ↦
    trivial

/-- An entity without keys, or with nothing to set, refuses an update. -/
theorem refusing_updateParts : Refusing b.updateParts := by
  refine b.entity.refusing_keyProperties.bind fun keys ↦ ?_
  dsimp only
  split
  · rfl
  · trivial

theorem refusing_update (record : Record) : Refusing (b.update record) :=
  b.refusing_updateParts.bind fun _ ↦ (refusing_updateBag record _ _).bind fun _ ↦ trivial

/-- A batch of updates refuses what one of its updates refuses. -/
theorem refusing_updateBatch (records : List Record) : Refusing (b.updateBatch records) :=
  b.refusing_updateParts.bind fun _ ↦
    (refusing_allBags (fun r ↦ refusing_updateBag r _ _) records).bind fun _ ↦ trivial

theorem refusing_delete (record : Record) : Refusing (b.delete record) :=
  b.entity.refusing_keyProperties.bind fun keys ↦ (refusing_keyBag record keys).bind fun _ ↦
    trivial

/-- A batch of deletes refuses what one of its deletes refuses. -/
theorem refusing_deleteBatch (records : List Record) : Refusing (b.deleteBatch records) :=
  b.entity.refusing_keyProperties.bind fun keys ↦
    (refusing_allBags (fun r ↦ refusing_keyBag r keys) records).bind fun _ ↦ trivial

end StatementBuilder

end EntitySql
