import EntitySql.Filter.Expr
import EntitySql.Value.Text

/-!
# The text of a filter

An expression printed in the notation that filters are read from, with the row called `x`.
Connectives and arithmetic stand in parentheses; a comparison does not.
-/

namespace EntitySql.Expr

def quoted (s : String) : String :=
  String.ofList ('\x22' :: s.toList.flatMap (fun c ↦ if c = '\x22' then ['\\', c] else [c]) ++
    ['\x22'])

def constantText : Value → String
  | .string s => quoted s
  | v => v.text

mutual

def text : Expr → String
  | .row => "x"
  | .const v => constantText v
  | .member target name => text target ++ "." ++ name
  | .compare op left right => text left ++ " " ++ op.filterSymbol ++ " " ++ text right
  | .connect op left right =>
    "(" ++ text left ++ " " ++ op.filterSymbol ++ " " ++ text right ++ ")"
  | .not inner => "!(" ++ text inner ++ ")"
  | .call target method args => text target ++ "." ++ method ++ "(" ++ argumentsText args ++ ")"
  | .arith op left right => "(" ++ text left ++ " " ++ op.symbol ++ " " ++ text right ++ ")"

def argumentsText : List Expr → String
  | [] => ""
  | [e] => text e
  | e :: es => text e ++ ", " ++ argumentsText es

end

end EntitySql.Expr
