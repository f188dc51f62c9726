import EntitySql.Error
import EntitySql.Filter.StringMethod
import EntitySql.Text.Blank

/-!
# The value of a filter

Filters are evaluated with the three-valued logic of SQL, where null is neither true nor false.
Every part of an expression is evaluated, so a part that has no value gives the whole none. A
closed expression has the same value on every row and without one.
-/

namespace EntitySql

/-- The field of a captured record. -/
def Value.member (v : Value) (name : String) : Except Error Value :=
  match v with
  | .record fields =>
    match Record.get? fields name with
    | some field => .ok field
    | none => .error (.unsupported (.noMember name))
  | .null => .error (.unsupported (.memberOfNull name))
  | other => .error (.unsupported (.memberOf name other.kind))

namespace Evaluation

/-- A condition is true, false or, where it is null, unknown. -/
def truth? : Value → Except Error (Option Bool)
  | .bool b => .ok (some b)
  | .null => .ok none
  | v => .error (.unsupported (.condition v.kind))

def ofTruth (t : Option Bool) : Value := Value.ofOption .bool t

def both : Option Bool → Option Bool → Option Bool
  | some false, _ => some false
  | _, some false => some false
  | some true, some true => some true
  | _, _ => none

def either : Option Bool → Option Bool → Option Bool
  | some true, _ => some true
  | _, some true => some true
  | some false, some false => some false
  | _, _ => none

def connect : Connective → Option Bool → Option Bool → Option Bool
  | .and => both
  | .or => either

/-- A comparison with null is unknown, save equality with a null known before any row: that asks
whether the other side is null. -/
def compareValues (op : CompareOp) (left right : Value) (nullKnown : Bool) : Option Bool :=
  if left.isNull || right.isNull then
    match op, nullKnown with
    | .eq, true => some (left.isNull && right.isNull)
    | .ne, true => some (!(left.isNull && right.isNull))
    | _, _ => none
  else (left.compare right).map op.holds

/-- A method that turns a string into another one, by its name. -/
def stringMap? : String → Option (List Char → List Char)
  | "ToUpper" => some Text.upper
  | "to_upper" => some Text.upper
  | "to_uppercase" => some Text.upper
  | "ToLower" => some Text.lower
  | "to_lower" => some Text.lower
  | "to_lowercase" => some Text.lower
  | "Trim" => some Text.trim
  | "trim" => some Text.trim
  | _ => none

def applyStringMethod (m : StringMethod) (receiver arg : Value) : Option Bool :=
  match receiver.patternText?, arg.patternText? with
  | some text, some needle => some (m.isMatch text needle)
  | _, _ => none

def callMethod (receiver : Value) (method : String) (args : List Value) : Except Error Value :=
  match StringMethod.ofName? method with
  | some m =>
    match args with
    | [arg] => .ok (ofTruth (applyStringMethod m receiver arg))
    | _ => .error (.unsupported (.oneArgument method args.length))
  | none =>
    match stringMap? method with
    | some f =>
      if !args.isEmpty then .error (.unsupported (.noArguments method))
      else
        match receiver with
        | .null => .ok .null
        | .string s => .ok (.string (String.ofList (f s.toList)))
        | v => .error (.unsupported (.receiver method v.kind))
    | none => .error (.unsupported (.unknownMethod method))

/-- The exact result of an operation on integers, where it is defined. -/
def integerResult? : ArithOp → Int → Int → Option Int
  | .add, a, b => some (a + b)
  | .sub, a, b => some (a - b)
  | .mul, a, b => some (a * b)
  | .div, a, b => if b = 0 then none else some (a.tdiv b)

def arithInt (op : ArithOp) (a b : Int64) : Except Error Int64 :=
  match integerResult? op a.toInt b.toInt with
  | none => .error (.validation .divisionByZero)
  | some n =>
    match Number.int64? n with
    | some m => .ok m
    | none => .error (.validation (.overflow a op b))

def arithFloat : ArithOp → Float → Float → Float
  | .add, a, b => a + b
  | .sub, a, b => a - b
  | .mul, a, b => a * b
  | .div, a, b => a / b

def numeric? : Value → Option Float
  | .int n => some (Float.ofInt n.toInt)
  | .float x => some x
  | _ => none

def isString : Value → Bool
  | .string _ => true
  | _ => false

/-- Null gives null; a sum with a string joins texts; integers stay integers or fail; an integer
and a float are computed as floats. -/
def arith (op : ArithOp) (left right : Value) : Except Error Value :=
  if left.isNull || right.isNull then .ok .null
  else if op = .add && (isString left || isString right) then
    .ok (.string (left.patternText?.getD "" ++ right.patternText?.getD ""))
  else
    match left, right with
    | .int a, .int b => (arithInt op a b).map .int
    | _, _ =>
      match numeric? left, numeric? right with
      | some a, some b => .ok (.float (arithFloat op a b))
      | _, _ => .error (.unsupported (.operands left.kind op right.kind))

def property (row : Option Record) (name : String) : Except Error Value :=
  match row with
  | none => .error (.unsupported (.outsideRow name))
  | some fields =>
    match Record.get? fields name with
    | some v => .ok v
    | none => .error (.schema (.unknownProperty name))

end Evaluation

namespace Expr

open Evaluation

mutual

/-- The value of an expression on a row, or with no row at all. -/
def eval (row : Option Record) : Expr → Except Error Value
  | .row => .error (.unsupported .rowAsValue)
  | .const v => .ok v
  | .member .row name => property row name
  | .member target name => do
    let v ← eval row target
    v.member name
  | .compare op left right => do
    let l ← eval row left
    let r ← eval row right
    let nullKnown := (left.isClosed && l.isNull) || (right.isClosed && r.isNull)
    return ofTruth (compareValues op l r nullKnown)
  | .connect op left right => do
    let l ← eval row left
    let l ← truth? l
    let r ← eval row right
    let r ← truth? r
    return ofTruth (Evaluation.connect op l r)
  | .not inner => do
    let v ← eval row inner
    let t ← truth? v
    return ofTruth (t.map (!·))
  | .call target method args => do
    let receiver ← eval row target
    let values ← evalAll row args
    callMethod receiver method values
  | .arith op left right => do
    let l ← eval row left
    let r ← eval row right
    Evaluation.arith op l r

def evalAll (row : Option Record) : List Expr → Except Error (List Value)
  | [] => .ok []
  | e :: es => do
    let v ← eval row e
    let vs ← evalAll row es
    return v :: vs

end

/-- The value of an expression that does not read the row. -/
def evaluate (e : Expr) : Except Error Value := e.eval none

def evaluateOn (e : Expr) (row : Record) : Except Error Value := e.eval (some row)

/-- Whether the filter accepts a row; unknown is not accepted. -/
def accepts (e : Expr) (row : Record) : Except Error Bool := do
  match ← e.evaluateOn row with
  | .bool b => return b
  | .null => return false
  | v => .error (.unsupported (.predicate v.kind))

end Expr

end EntitySql
