import EntitySql.Proofs.ConditionText.Token

/-!
# The grammar of an SQL condition

What the tokens of a condition say, by the grammar that databases share. From the loosest to the
tightest the levels are OR, AND, NOT and the predicate, and parentheses group. A bare word that
is reserved names no column. The count that bounds how deep parentheses nest is the number of
tokens.
-/

namespace EntitySql.ConditionText

open Text

inductive Term
  | column (name : String)
  | param (name : String)
  | null
  | number (n : Nat)
  | string (text : String)
  | upper (inner : Term)
  /-- Two texts, one after the other. -/
  | join (left right : Term)
  deriving DecidableEq

inductive Clause
  | compare (op : CompareOp) (left right : Term)
  | isNull (term : Term)
  | isNotNull (term : Term)
  | like (text pattern : Term)
  /-- A term that is itself true or false. -/
  | flag (term : Term)
  | not (inner : Clause)
  | connect (op : Connective) (left right : Clause)
  deriving DecidableEq

abbrev Reader (α : Type) := List Token → Option (α × List Token)

/-! ## Separators -/

def keyword? (word : String) : List Token → Option (List Token)
  | .word name :: s => if sameIgnoringCase name word then some s else none
  | _ => none

def sign (t : Token) : List Token → Option (List Token)
  | [] => none
  | u :: s => if u = t then some s else none

section Joined

variable {α : Type} (separator? : List Token → Option (List Token)) (operand : Reader α)
  (join : α → α → α)

/-- Further operands, each after a separator, joined to the left. The count bounds them. -/
def more : Nat → α → Reader α
  | 0, left, s => some (left, s)
  | count + 1, left, s =>
    match separator? s with
    | none => some (left, s)
    | some t => (operand t).bind fun right ↦ more count (join left right.1) right.2

def joined : Reader α := fun s ↦
  (operand s).bind fun left ↦ more separator? operand join left.2.length left.1 left.2

end Joined

/-- What was read, where a closing bracket follows. -/
def closed {α : Type} : α × List Token → Option (α × List Token)
  | (a, .closing :: s) => some (a, s)
  | _ => none

/-! ## Terms -/

section Terms

variable (nested : Reader Term)

/-- A function of the arguments that follow its opening bracket. -/
def call (function : String) : Reader Term := fun s ↦
  if sameIgnoringCase function "UPPER" || sameIgnoringCase function "UCASE" then
    ((nested s).bind closed).map fun arg ↦ (.upper arg.1, arg.2)
  else if sameIgnoringCase function "CONCAT" then
    (joined (sign .comma) nested .join s).bind closed
  else none

def operand : Reader Term
  | .word name :: .opening :: s => call nested name s
  | .word name :: s =>
    if sameIgnoringCase name "NULL" then some (.null, s)
    else if isReserved name then none
    else some (.column name, s)
  | .quoted name :: s => some (.column name, s)
  | .param name :: s => some (.param name, s)
  | .string text :: s => some (.string text, s)
  | .number n :: s => some (.number n, s)
  | _ => none

end Terms

/-- A term nested no deeper than `depth`. -/
def term : (depth : Nat) → Reader Term
  | 0 => fun _ ↦ none
  | depth + 1 => joined (sign .join) (operand (term depth)) .join

/-! ## Clauses -/

section Clauses

variable (term : Reader Term) (nested : Reader Clause)

/-- What a predicate says of its first term. -/
def predicateOf (left : Term) (s : List Token) : Option (Clause × List Token) :=
  match s with
  | .compare op :: t => (term t).map fun right ↦ (.compare op left right.1, right.2)
  | _ =>
    match keyword? "IS" s with
    | some t =>
      match keyword? "NOT" t with
      | some u => (keyword? "NULL" u).map (.isNotNull left, ·)
      | none => (keyword? "NULL" t).map (.isNull left, ·)
    | none =>
      match keyword? "LIKE" s with
      | some t => (term t).map fun pattern ↦ (.like left pattern.1, pattern.2)
      | none => some (.flag left, s)

def predicate : Reader Clause := fun s ↦
  (term s).bind fun left ↦ predicateOf term left.1 left.2

def primary : Reader Clause
  | .opening :: s => (nested s).bind closed
  | s => predicate term s

def negation : Reader Clause
  | .word name :: s =>
    if sameIgnoringCase name "NOT" then (negation s).map fun inner ↦ (.not inner.1, inner.2)
    else primary term nested (.word name :: s)
  | s => primary term nested s

def conjunction : Reader Clause :=
  joined (keyword? "AND") (negation term nested) (.connect .and)

def disjunction : Reader Clause :=
  joined (keyword? "OR") (conjunction term nested) (.connect .or)

end Clauses

/-- A clause nested no deeper than `depth`. -/
def clause : (depth : Nat) → Reader Clause
  | 0 => fun _ ↦ none
  | depth + 1 => disjunction (term (depth + 1)) (clause depth)

/-- The clause that a whole text is in a dialect. -/
def Clause.read? (d : Dialect) (text : String) : Option Clause :=
  match lex d text.toList with
  | none => none
  | some tokens =>
    match clause (tokens.length + 1) tokens with
    | some (c, []) => some c
    | _ => none

end EntitySql.ConditionText
