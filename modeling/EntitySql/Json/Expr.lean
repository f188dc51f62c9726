import EntitySql.Filter.Expr
import EntitySql.Json.Value

/-!
# Filter expressions in JSON

The row is the string `Row`. Every other expression is an object with one field, named for the
kind of expression, whose parts are given by name, in any order and among others, or as an array.
The others may be any JSON at all.
-/

namespace EntitySql

namespace CompareOp

def tag : CompareOp → String
  | .eq => "Eq"
  | .ne => "Ne"
  | .gt => "Gt"
  | .gte => "Gte"
  | .lt => "Lt"
  | .lte => "Lte"

def all : List CompareOp := [.eq, .ne, .gt, .gte, .lt, .lte]

end CompareOp

namespace Connective

def tag : Connective → String
  | .and => "And"
  | .or => "Or"

def all : List Connective := [.and, .or]

end Connective

namespace ArithOp

def tag : ArithOp → String
  | .add => "Add"
  | .sub => "Sub"
  | .mul => "Mul"
  | .div => "Div"

def all : List ArithOp := [.add, .sub, .mul, .div]

end ArithOp

namespace Expr

mutual

def toJson : Expr → Json
  | .row => .string "Row"
  | .const v => .object [("Constant", v.toJson)]
  | .member target name =>
    .object [("Member", .object [("target", toJson target), ("name", .string name)])]
  | .compare op left right =>
    .object [("Compare", .object
      [("op", .string op.tag), ("left", toJson left), ("right", toJson right)])]
  | .connect op left right =>
    .object [("Logical", .object
      [("op", .string op.tag), ("left", toJson left), ("right", toJson right)])]
  | .not inner => .object [("Not", toJson inner)]
  | .call target method args =>
    .object [("Call", .object
      [("target", toJson target), ("method", .string method), ("args", .array (allToJson args))])]
  | .arith op left right =>
    .object [("Arith", .object
      [("op", .string op.tag), ("left", toJson left), ("right", toJson right)])]

def allToJson : List Expr → List Json
  | [] => []
  | e :: es => toJson e :: allToJson es

end

/-- The one field of a name. -/
def onlyField? (fields : List (String × Json)) (name : String) : Option Json :=
  match fields.filter (·.1 == name) with
  | [(_, j)] => some j
  | _ => none

/-- The parts of an expression, given by name or in order. -/
def parts? (names : List String) : Json → Option (List Json)
  | .object fields => names.mapM (onlyField? fields)
  | .array items => if items.length = names.length then some items else none
  | _ => none

/-- A name of an operator, as a string or as an object with nothing in it. -/
def operator? {ω : Type} (all : List ω) (tag : ω → String) (depth : Nat) : Json → Option ω
  | .string s => all.find? (tag · == s)
  | .object [(s, .null)] => if depth = 0 then none else all.find? (tag · == s)
  | _ => none

def string? : Json → Option String
  | .string s => some s
  | _ => none

/-- The expression of a JSON tree whose containers nest no deeper than `depth`. -/
def ofJson? (depth : Nat) : Json → Option Expr
  | .string tag => if tag = "Row" then some .row else none
  | .object [(tag, content)] =>
    match depth with
    | 0 => none
    | outer + 1 =>
      match tag with
      | "Row" =>
        match content with
        | .null => some .row
        | _ => none
      | "Constant" => (Value.ofJson? outer content).map .const
      | "Not" => (ofJson? outer content).map .not
      | _ =>
        match outer with
        | 0 => none
        | inner + 1 =>
          match tag with
          | "Member" => do
            let [target, name] ← parts? ["target", "name"] content | none
            return .member (← ofJson? inner target) (← string? name)
          | "Compare" => do
            let [op, left, right] ← parts? ["op", "left", "right"] content | none
            return .compare (← operator? CompareOp.all CompareOp.tag inner op)
              (← ofJson? inner left) (← ofJson? inner right)
          | "Logical" => do
            let [op, left, right] ← parts? ["op", "left", "right"] content | none
            return .connect (← operator? Connective.all Connective.tag inner op)
              (← ofJson? inner left) (← ofJson? inner right)
          | "Arith" => do
            let [op, left, right] ← parts? ["op", "left", "right"] content | none
            return .arith (← operator? ArithOp.all ArithOp.tag inner op)
              (← ofJson? inner left) (← ofJson? inner right)
          | "Call" => do
            let [target, method, args] ← parts? ["target", "method", "args"] content | none
            let target ← ofJson? inner target
            let method ← string? method
            match args, inner with
            | .array items, below + 1 =>
              return .call target method (← items.mapM fun item ↦ ofJson? below item)
            | _, _ => none
          | _ => none
  | _ => none
termination_by depth

def readJson? (text : String) : Option Expr := (Json.read? text).bind (ofJson? Json.depthLimit)

end Expr

end EntitySql
