import EntitySql.Error
import EntitySql.Number.Reading
import EntitySql.Text.Letter
import EntitySql.Text.Blank

/-!
# Filters read from text

A filter is an optional header `name =>`, which names the row, and an expression. From the
loosest to the tightest the levels are: disjunction, conjunction, negation, comparison (which does
not chain), sum, member access, and primary expressions. Each level is a reader built from the
reader of nested expressions, which is needed only inside parentheses and argument lists; the
length of the text bounds how deep these nest. A reader that misses at its first step lets another
alternative be tried, and of two misses the one that got further is kept; after an operator or an
opening bracket a miss ends the reading.
-/

namespace EntitySql.Filter

open Text Number

inductive Fault
  | unexpected
  | invalidNumber (digits : List Char)
  | unterminatedString
  | unboundVariable (name : List Char)

/-- Where reading stopped, given by the text that was left, and why. -/
structure Stop where
  rest : List Char
  fault : Fault

inductive Reply (α : Type)
  | ok (value : α) (rest : List Char)
  | miss (stop : Stop)
  | halt (stop : Stop)

abbrev Reader (α : Type) := List Char → Reply α

namespace Reply

def unexpected {α : Type} (s : List Char) : Reply α := .miss ⟨s, .unexpected⟩

/-- Past this point no other alternative is tried. -/
def committed {α : Type} : Reply α → Reply α
  | .miss stop => .halt stop
  | reply => reply

def bind {α β : Type} (reply : Reply α) (next : α → Reader β) : Reply β :=
  match reply with
  | .ok value rest => next value rest
  | .miss stop => .miss stop
  | .halt stop => .halt stop

end Reply

/-- The values that a filter refers to as `$name`. -/
abbrev Captures := List (String × Value)

structure Scope where
  row : List Char
  captures : Captures

/-! ## Words and symbols -/

def isLayout (c : Char) : Bool := c == ' ' || c == '\t' || c == '\r' || c == '\n'

def skip (s : List Char) : List Char := s.dropWhile isLayout

def symbol? : List Char → List Char → Option (List Char)
  | [], s => some s
  | _ :: _, [] => none
  | c :: cs, d :: s => if c = d then symbol? cs s else none

/-- A word that is not the beginning of a longer identifier. -/
def keyword? (word s : List Char) : Option (List Char) :=
  match symbol? word s with
  | none => none
  | some [] => some []
  | some (c :: rest) => if isIdentifierPart c then none else some (c :: rest)

def firstOf {α : Type} : List (α × (List Char → Option (List Char))) → List Char →
    Option (α × List Char)
  | [], _ => none
  | (a, read?) :: others, s =>
    match read? s with
    | some rest => some (a, rest)
    | none => firstOf others s

def disjunctionSign? (s : List Char) : Option (List Char) :=
  (symbol? ['|', '|'] s).or (keyword? ['o', 'r'] s)

def conjunctionSign? (s : List Char) : Option (List Char) :=
  (symbol? ['&', '&'] s).or (keyword? ['a', 'n', 'd'] s)

def negationSign? (s : List Char) : Option (List Char) :=
  (symbol? ['!'] s).or (keyword? ['n', 'o', 't'] s)

def compareSign? : List Char → Option (CompareOp × List Char) :=
  firstOf
    [(.eq, symbol? ['=', '=']), (.ne, symbol? ['!', '=']), (.ne, symbol? ['<', '>']),
      (.gte, symbol? ['>', '=']), (.lte, symbol? ['<', '=']), (.eq, symbol? ['=']),
      (.gt, symbol? ['>']), (.lt, symbol? ['<'])]

def sumSign? : List Char → Option (ArithOp × List Char) :=
  firstOf [(.add, symbol? ['+']), (.sub, symbol? ['-'])]

/-! ## Literals and names -/

/-- Digits with an optional fraction, which makes a float. -/
def digits (negative : Bool) (start : List Char) (s : List Char) : Reply Value :=
  let whole := s.takeWhile Char.isDigit
  let rest := s.dropWhile Char.isDigit
  let sign := if negative then ['-'] else []
  let integer : Reply Value :=
    match integer? (sign ++ whole) with
    | none => .unexpected s
    | some n =>
      match int64? n with
      | some m => .ok (.int m) rest
      | none => .halt ⟨start, .invalidNumber (sign ++ whole)⟩
  match rest with
  | '.' :: t =>
    let fraction := t.takeWhile Char.isDigit
    if whole.isEmpty || fraction.isEmpty then integer
    else
      .ok (.float (nearest negative (ofDigits (whole ++ fraction)) (-fraction.length)))
        (t.dropWhile Char.isDigit)
  | _ => integer

def number : Reader Value
  | '-' :: s => digits true ('-' :: s) s
  | s => digits false s s

def escaped (c : Char) : Char :=
  if c = 'n' then '\n' else if c = 't' then '\t' else c

/-- The rest of a string up to its closing quote, with escapes resolved. -/
def stringBody (quote : Char) : List Char → Option (List Char × List Char)
  | [] => none
  | c :: s =>
    if c = '\\' then
      match s with
      | [] => none
      | d :: t => (stringBody quote t).map fun (body, rest) ↦ (escaped d :: body, rest)
    else if c = quote then some ([], s)
    else (stringBody quote s).map fun (body, rest) ↦ (c :: body, rest)

def stringLiteral (quote : Char) (s : List Char) : Reply Value :=
  match stringBody quote s with
  | some (body, rest) => .ok (.string (String.ofList body)) rest
  | none => .halt ⟨quote :: s, .unterminatedString⟩

def capture (scope : Scope) (s : List Char) : Reply Expr :=
  match identifier? s with
  | none => .halt ⟨s, .unexpected⟩
  | some (name, rest) =>
    match scope.captures.lookup (String.ofList name) with
    | some v => .ok (.const v) rest
    | none => .halt ⟨'$' :: s, .unboundVariable name⟩

/-- A keyword of value, the row, or a column of the row. -/
def named (scope : Scope) (name : List Char) : Expr :=
  if name = ['t', 'r', 'u', 'e'] then .const (.bool true)
  else if name = ['f', 'a', 'l', 's', 'e'] then .const (.bool false)
  else if name = ['n', 'u', 'l', 'l'] then .const .null
  else if name = scope.row then .row
  else .column (String.ofList name)

/-! ## Levels -/

section Levels

variable (scope : Scope) (nested : Reader Expr)

def closing (s : List Char) : Reply Unit :=
  match skip s with
  | ')' :: rest => .ok () rest
  | rest => .halt ⟨rest, .unexpected⟩

def parenthesized (s : List Char) : Reply Expr :=
  (nested (skip s)).bind fun e rest ↦ (closing rest).bind fun _ rest ↦ .ok e rest

def primary : Reader Expr
  | [] => .unexpected []
  | c :: s =>
    if c = '(' then parenthesized nested s
    else if c = '\x22' ∨ c = '\x27' then
      (stringLiteral c s).bind fun v rest ↦ .ok (.const v) rest
    else if c = '-' ∨ c.isDigit then (number (c :: s)).bind fun v rest ↦ .ok (.const v) rest
    else if c = '$' then capture scope s
    else
      match identifier? (c :: s) with
      | some (name, rest) => .ok (named scope name) rest
      | none => .unexpected (c :: s)

/-- What follows an argument: further arguments, each after a comma. The count bounds them. -/
def moreArguments : Nat → List Expr → Reader (List Expr)
  | 0, args, s => .ok args s
  | count + 1, args, s =>
    match skip s with
    | ',' :: t =>
      match nested (skip t) with
      | .ok arg rest => moreArguments count (args ++ [arg]) rest
      | .miss _ => .ok args s
      | .halt stop => .halt stop
    | _ => .ok args s

/-- Arguments after the opening bracket, through the closing one. -/
def arguments (s : List Char) : Reply (List Expr) :=
  let args : Reply (List Expr) :=
    match nested (skip s) with
    | .ok arg rest => moreArguments nested rest.length [arg] rest
    | .miss _ => .ok [] s
    | .halt stop => .halt stop
  args.bind fun args rest ↦ (closing rest).bind fun _ rest ↦ .ok args rest

/-- Members and calls after an expression. The count bounds them. -/
def members : Nat → Expr → Reader Expr
  | 0, e, s => .ok e s
  | count + 1, e, s =>
    match s with
    | '.' :: t =>
      match identifier? t with
      | none => .ok e s
      | some (name, rest) =>
        match skip rest with
        | '(' :: u =>
          (arguments nested u).bind fun args rest ↦
            members count (.call e (String.ofList name) args) rest
        | _ => members count (.member e (String.ofList name)) rest
    | _ => .ok e s

def accessed : Reader Expr := fun s ↦
  (primary scope nested s).bind fun e rest ↦ members nested rest.length e rest

/-- Further operands of operators of one level, joined to the left. The count bounds them. -/
def moreOperands {ω : Type} (operand : Reader Expr) (sign? : List Char → Option (ω × List Char))
    (join : ω → Expr → Expr → Expr) : Nat → Expr → Reader Expr
  | 0, left, s => .ok left s
  | count + 1, left, s =>
    match sign? (skip s) with
    | none => .ok left s
    | some (op, t) =>
      (operand (skip t)).committed.bind fun right rest ↦
        moreOperands operand sign? join count (join op left right) rest

def joined {ω : Type} (operand : Reader Expr) (sign? : List Char → Option (ω × List Char))
    (join : ω → Expr → Expr → Expr) : Reader Expr := fun s ↦
  (operand s).bind fun left rest ↦ moreOperands operand sign? join rest.length left rest

def sum : Reader Expr := joined (accessed scope nested) sumSign? .arith

def comparison : Reader Expr := fun s ↦
  (sum scope nested s).bind fun left rest ↦
    match compareSign? (skip rest) with
    | none => .ok left rest
    | some (op, t) =>
      (sum scope nested (skip t)).committed.bind fun right rest ↦ .ok (.compare op left right) rest

/-- Negations before a comparison. The count bounds them. -/
def negation : Nat → Reader Expr
  | 0, s => comparison scope nested s
  | count + 1, s =>
    match negationSign? s with
    | none => comparison scope nested s
    | some t => (negation count (skip t)).committed.bind fun e rest ↦ .ok (.not e) rest

def negated : Reader Expr := fun s ↦ negation scope nested s.length s

def conjunction : Reader Expr :=
  joined (negated scope nested) (fun s ↦ (conjunctionSign? s).map ((), ·)) fun _ ↦ .connect .and

def disjunction : Reader Expr :=
  joined (conjunction scope nested) (fun s ↦ (disjunctionSign? s).map ((), ·)) fun _ ↦ .connect .or

end Levels

/-- An expression nested no deeper than `depth`. -/
def expression (scope : Scope) : Nat → Reader Expr
  | 0 => Reply.unexpected
  | depth + 1 => disjunction scope (expression scope depth)

/-! ## Whole filters -/

def byteLength : List Char → Nat
  | [] => 0
  | c :: s => c.utf8Size + byteLength s

def Stop.cause (stop : Stop) : ParseError :=
  match stop.fault with
  | .unexpected =>
    match firstWord? stop.rest with
    | some word => .unexpectedWord (String.ofList word)
    | none => .unexpectedEnd
  | .invalidNumber digits => .invalidNumber (String.ofList digits)
  | .unterminatedString => .unterminatedString
  | .unboundVariable name => .unboundVariable (String.ofList name)

/-- The name of the row, where the text begins with a header, and the body. -/
def header (s : List Char) : List Char × List Char :=
  match identifier? (skip s) with
  | none => (['x'], s)
  | some (name, rest) =>
    match symbol? ['=', '>'] (skip rest) with
    | some body => (name, body)
    | none => (['x'], s)

def body (captures : Captures) (s : List Char) : Reply Expr :=
  let (row, s) := header s
  match expression ⟨row, captures⟩ (s.length + 1) (skip s) with
  | .ok e rest =>
    match skip rest with
    | [] => .ok e []
    | rest => .unexpected rest
  | reply => reply

def read (captures : Captures) (text : String) : Except Error Expr :=
  let s := text.toList
  match body captures s with
  | .ok e _ => .ok e
  | .miss stop => .error (.parse (byteLength s - byteLength stop.rest) stop.cause)
  | .halt stop => .error (.parse (byteLength s - byteLength stop.rest) stop.cause)

end EntitySql.Filter
