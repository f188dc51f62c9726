import EntitySql.Filter.StringMethod
import EntitySql.Filter.Expr
import EntitySql.Sql.Style

/-!
# SQL conditions

The conditions that filters become, as trees over column and parameter names, and their text in
a dialect. A negation always puts its operand in parentheses; under a connective, connectives and
negations stand in parentheses and plain comparisons do not.
-/

namespace EntitySql

inductive Condition
  | always (holds : Bool)
  /-- A column that is itself true or false. -/
  | flag (column : String)
  | isNull (column : String)
  | isNotNull (column : String)
  /-- A comparison with NULL other than equality, which is never true. -/
  | compareNull (column : String) (op : CompareOp)
  | compareParam (column : String) (op : CompareOp) (param : String)
  | compareColumns (left : String) (op : CompareOp) (right : String)
  | like (column : String) (method : StringMethod) (param : String)
  | not (inner : Condition)
  | connect (op : Connective) (left right : Condition)
  deriving DecidableEq

namespace Condition

def isCompound : Condition → Bool
  | .not _ => true
  | .connect .. => true
  | _ => false

/-- The pattern that a string method matches. -/
def pattern (style : Style) (method : StringMethod) (text : String) : String :=
  match method with
  | .contains => style.concat ["'%'", text, "'%'"]
  | .startsWith => style.concat [text, "'%'"]
  | .endsWith => style.concat ["'%'", text]

def render (style : Style) : Condition → String
  | .always true => "1 = 1"
  | .always false => "1 = 0"
  | .flag column => style.identifier column
  | .isNull column => style.identifier column ++ " IS NULL"
  | .isNotNull column => style.identifier column ++ " IS NOT NULL"
  | .compareNull column op => style.identifier column ++ " " ++ op.sqlSymbol ++ " NULL"
  | .compareParam column op param =>
    style.identifier column ++ " " ++ op.sqlSymbol ++ " " ++ marker param
  | .compareColumns left op right =>
    style.identifier left ++ " " ++ op.sqlSymbol ++ " " ++ style.identifier right
  | .like column method param =>
    style.upperFunction ++ "(" ++ style.identifier column ++ ") LIKE " ++
      pattern style method (style.upperFunction ++ "(" ++ marker param ++ ")")
  | .not inner => "NOT (" ++ inner.render style ++ ")"
  | .connect op left right =>
    let nested (c : Condition) (text : String) : String :=
      if c.isCompound then "(" ++ text ++ ")" else text
    nested left (left.render style) ++ " " ++ op.sqlKeyword ++ " " ++
      nested right (right.render style)

end Condition

end EntitySql
