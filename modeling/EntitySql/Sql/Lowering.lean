import EntitySql.Filter.Evaluation
import EntitySql.Sql.Condition
import EntitySql.Sql.ParamBag

/-!
# Filters as SQL conditions

A filter is lowered to a condition whose values are parameters: a value never becomes part of the
text. Each bound value gets the name of its column, with whatever is not a letter, digit or
underscore of ASCII turned into an underscore, and its number within the condition, so that no
two parameters share a name.
-/

namespace EntitySql

/-- The parameters bound so far and the number of the next one. -/
structure Bindings where
  bag : ParamBag
  next : Nat

namespace Bindings

def empty : Bindings := ⟨.empty, 0⟩

def paramName (column : String) (number : Nat) : String :=
  String.ofList (column.toList.map fun c ↦ if Text.isAsciiWordPart c then c else '_') ++
    "_" ++ toString number

/-- Binds a value under a fresh name made from its column. -/
def bind (b : Bindings) (column : String) (value : Value) : String × Bindings :=
  let name := paramName column b.next
  (name, ⟨b.bag.insert name value, b.next + 1⟩)

end Bindings

/-- The column of a property. -/
abbrev Resolver := String → Except Error String

/-- One side of a comparison. -/
inductive Operand
  | column (name : String)
  | value (v : Value)

namespace Lowering

def operand (resolve : Resolver) (e : Expr) : Except Error Operand :=
  match e.column? with
  | some name => (resolve name).map .column
  | none =>
    if e.isClosed then e.evaluate.map .value else .error (.unsupported (.operand e))

def compareWith (column : String) (op : CompareOp) (value : Value) (b : Bindings) :
    Except Error (Condition × Bindings) :=
  match value, op with
  | .null, .eq => .ok (.isNull column, b)
  | .null, .ne => .ok (.isNotNull column, b)
  | .null, op => .ok (.compareNull column op, b)
  | .record _, _ => .error (.unsupported (.recordCompared column))
  | value, op =>
    let (name, b) := b.bind column value
    .ok (.compareParam column op name, b)

/-- The column of a comparison comes first, whichever side it stands on; the operator stays. -/
def comparison (resolve : Resolver) (op : CompareOp) (left right : Expr) (b : Bindings) :
    Except Error (Condition × Bindings) := do
  let l ← operand resolve left
  let r ← operand resolve right
  match l, r with
  | .column column, .value v => compareWith column op v b
  | .value v, .column column => compareWith column op v b
  | .column l, .column r => return (.compareColumns l op r, b)
  | .value _, .value _ => .error (.unsupported (.withoutColumn left op right))

def stringPredicate (resolve : Resolver) (target : Expr) (method : String) (args : List Expr)
    (b : Bindings) : Except Error (Condition × Bindings) :=
  match StringMethod.ofName? method with
  | none => .error (.unsupported (.unknownMethod method))
  | some m =>
    match target.column? with
    | none => .error (.unsupported (.receiverNotColumn m.name target))
    | some property =>
      match args with
      | [arg] =>
        if !arg.isClosed then .error (.unsupported (.argumentOfRow m.name arg))
        else do
          let value ← arg.evaluate
          let column ← resolve property
          let (name, b) := b.bind column value
          return (.like column m name, b)
      | _ => .error (.unsupported (.argumentCount m.name args.length))

def constant (e : Expr) : Except Error Condition := do
  match ← e.evaluate with
  | .bool holds => return .always holds
  | v => .error (.unsupported (.condition v.kind))

/-- An expression that is neither a comparison nor made of conditions. -/
def leaf (resolve : Resolver) (e : Expr) (b : Bindings) : Except Error (Condition × Bindings) :=
  match e.column? with
  | some property => (resolve property).map fun column ↦ (.flag column, b)
  | none =>
    if e.isClosed then (constant e).map (·, b) else .error (.unsupported (.expression e))

def condition (resolve : Resolver) : Expr → Bindings → Except Error (Condition × Bindings)
  | .compare op left right, b => comparison resolve op left right b
  | .connect op left right, b => do
    let (l, b) ← condition resolve left b
    let (r, b) ← condition resolve right b
    return (.connect op l r, b)
  | .not inner, b => do
    let (c, b) ← condition resolve inner b
    return (.not c, b)
  | .call target method args, b => stringPredicate resolve target method args b
  | e, b => leaf resolve e b

end Lowering

/-- A condition as text, with the parameters it refers to. -/
structure Fragment where
  sql : String
  params : ParamBag

def Expr.lower (e : Expr) (resolve : Resolver) (dialect : Dialect) : Except Error Fragment := do
  let (c, b) ← Lowering.condition resolve e .empty
  return ⟨c.render dialect.style, b.bag⟩

end EntitySql
