import EntitySql.Json.Reading

/-!
# The meaning of a JSON number

A number without fraction and exponent is an integer as far as it fits 64 bits. Every other one
is a float, computed from the digits that fit an unsigned 64-bit word by one scaling with a power
of ten; digits past these do not count. The result may miss the nearest double. A number too large
for a double is refused, and minus zero is a float.
-/

namespace EntitySql.Json

inductive Amount
  | integer (n : Int)
  | float (x : Float)

/-- The parts of a literal. -/
structure Parts where
  negative : Bool
  whole : List Char
  fraction : List Char
  hasFraction : Bool
  /-- The sign of the exponent and its digits, where there is one. -/
  exponent : Option (Bool × List Char)

def partsOf (literal : List Char) : Parts :=
  let (sign, s) := numberSign literal
  let (whole, s) := takeDigits s
  let (fraction, hasFraction, s) :=
    match s with
    | '.' :: t => ((takeDigits t).1, true, (takeDigits t).2)
    | t => ([], false, t)
  let exponent :=
    match s with
    | [] => none
    | _ :: t => some ((exponentSign t).1 == ['-'], (exponentSign t).2)
  ⟨!sign.isEmpty, whole, fraction, hasFraction, exponent⟩

/-- Takes digits into a significand as long as it stays below `2 ^ 64`: the significand, how many
digits it took, and how many are left. -/
def absorb (significand : Nat) : List Char → Nat × Nat × Nat
  | [] => (significand, 0, 0)
  | d :: ds =>
    let next := 10 * significand + Number.digitValue d
    if next < UInt64.size then
      let (m, taken, left) := absorb next ds
      (m, taken + 1, left)
    else (significand, 0, ds.length + 1)

def powerOfTen (n : Nat) : Float := Float.ofScientific 1 false n

/-- Scaling by a power of ten, in steps that stay in the range of doubles. -/
def scale : Nat → Float → Int → Option Float
  | 0, x, _ => some x
  | more + 1, x, e =>
    if e.natAbs ≤ 308 then
      if 0 ≤ e then
        let y := x * powerOfTen e.natAbs
        if y == 1.0 / 0.0 then none else some y
      else some (x / powerOfTen e.natAbs)
    else if x == 0.0 then some x
    else if 0 ≤ e then none
    else scale more (x / powerOfTen 308) (e + 308)

def exponentValue (significand : Nat) (start : Int) : Bool × List Char → Option Int
  | (negative, ds) =>
    let n := Number.ofDigits ds
    if n < Nat.pow 2 31 then some (if negative then start - n else start + n)
    else if significand ≠ 0 ∧ !negative then none
    else some Int32.minValue.toInt

def signed (negative : Bool) (x : Float) : Float := if negative then -x else x

def floatOf? (p : Parts) : Option Float := do
  let (m, _, left) := absorb 0 p.whole
  let (m, taken, _) := absorb m p.fraction
  let start : Int := left - taken
  let e ← match p.exponent with
    | none => some start
    | some exponent => exponentValue m start exponent
  let x ← scale 8 (Float.ofNat m) e
  return signed p.negative x

def amount? (literal : List Char) : Option Amount :=
  let p := partsOf literal
  if p.hasFraction || p.exponent.isSome then (floatOf? p).map .float
  else
    let n := Number.ofDigits p.whole
    if p.negative then
      if n = 0 then some (.float (-0.0))
      else if n ≤ Nat.pow 2 63 then some (.integer (-n))
      else (floatOf? p).map .float
    else if n < UInt64.size then some (.integer n)
    else (floatOf? p).map .float

end EntitySql.Json
