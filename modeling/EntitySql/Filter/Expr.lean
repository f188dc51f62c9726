import EntitySql.Value

/-!
# Filter expressions

A filter is an expression over one row: members of the row are its columns, constants are
literals or captured values. An expression is closed when it never reads the row; a closed
expression has a value before any row is seen.
-/

namespace EntitySql

inductive CompareOp
  | eq
  | ne
  | gt
  | gte
  | lt
  | lte
  deriving DecidableEq, Repr

namespace CompareOp

def sqlSymbol : CompareOp → String
  | .eq => "="
  | .ne => "<>"
  | .gt => ">"
  | .gte => ">="
  | .lt => "<"
  | .lte => "<="

def filterSymbol : CompareOp → String
  | .eq => "=="
  | .ne => "!="
  | op => op.sqlSymbol

/-- Whether two values that compare so satisfy the operator. -/
def holds : CompareOp → Ordering → Bool
  | .eq, o => o.isEq
  | .ne, o => o.isNe
  | .gt, o => o.isGT
  | .gte, o => o.isGE
  | .lt, o => o.isLT
  | .lte, o => o.isLE

end CompareOp

inductive Connective
  | and
  | or
  deriving DecidableEq, Repr

namespace Connective

def sqlKeyword : Connective → String
  | .and => "AND"
  | .or => "OR"

def filterSymbol : Connective → String
  | .and => "&&"
  | .or => "||"

end Connective

inductive ArithOp
  | add
  | sub
  | mul
  | div
  deriving DecidableEq, Repr

def ArithOp.symbol : ArithOp → String
  | .add => "+"
  | .sub => "-"
  | .mul => "*"
  | .div => "/"

inductive Expr
  /-- The row being filtered. -/
  | row
  | const (value : Value)
  /-- A column where the target is the row, a field of a captured record elsewhere. -/
  | member (target : Expr) (name : String)
  | compare (op : CompareOp) (left right : Expr)
  | connect (op : Connective) (left right : Expr)
  | not (inner : Expr)
  | call (target : Expr) (method : String) (args : List Expr)
  | arith (op : ArithOp) (left right : Expr)

namespace Expr

instance : Inhabited Expr := ⟨.row⟩

/-- A property of the row. -/
def column (name : String) : Expr := .member .row name

/-- The property that an expression names, if it is a member of the row. -/
def column? : Expr → Option String
  | .member .row name => some name
  | _ => none

def isRowMember (e : Expr) : Bool := e.column?.isSome

mutual

def isClosed : Expr → Bool
  | .row => false
  | .const _ => true
  | .member target _ => isClosed target
  | .compare _ left right => isClosed left && isClosed right
  | .connect _ left right => isClosed left && isClosed right
  | .not inner => isClosed inner
  | .call target _ args => isClosed target && allClosed args
  | .arith _ left right => isClosed left && isClosed right

def allClosed : List Expr → Bool
  | [] => true
  | e :: es => isClosed e && allClosed es

end

/-- Connectives and negations, which stand in parentheses under a connective. -/
def isCompound : Expr → Bool
  | .connect .. => true
  | .not _ => true
  | _ => false

/-- The conjunction or disjunction of a list, grouped to the left; an empty list has none. -/
def fold? (op : Connective) : List Expr → Option Expr
  | [] => none
  | e :: es => some (es.foldl (.connect op) e)

end Expr

end EntitySql
