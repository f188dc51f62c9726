import EntitySql.Number.Binary64

/-!
# The shortest decimal of a double

Of all decimals that lie among the reals rounding to a double, the ones with the fewest digits,
and of these the nearest to the double. For one digit, two digits and so on the two neighbours of
the value on that decimal grid are tried, in exact arithmetic; the first grid with a hit decides.
-/

namespace EntitySql.Number

/-- Which of two equally near decimals is taken. -/
inductive Tie
  | toEven
  | awayFromZero
  deriving DecidableEq, Repr

/-- The value `digits * 10 ^ exponent`. -/
structure Decimal where
  digits : Nat
  exponent : Int
  deriving DecidableEq, Repr

namespace Decimal

def digitCount (n : Nat) : Nat := (Nat.toDigits 10 n).length

/-- The power of ten of the leading digit of `m * 2 ^ e`. -/
def leadingExponent (m : Nat) (e : Int) : Int :=
  if 0 ≤ e then (digitCount (m * Nat.pow 2 e.toNat) : Int) - 1
  else (digitCount (m * Nat.pow 5 (-e).toNat) : Int) - 1 + e

/-- The distance from a double to the lower end of its interval, in quarters of its unit. It is
halved below a power of two, where the doubles lie closer together. -/
def quartersBelow (m : Nat) (e : Int) : Nat := if m = Nat.pow 2 52 ∧ -1074 < e then 1 else 2

/-- With `grid`, the two whole numbers that stand to each other as `2 ^ e` to `10 ^ k`. -/
def unit (e k : Int) : Nat := Nat.pow 2 e.toNat * Nat.pow 10 (-k).toNat

def grid (e k : Int) : Nat := Nat.pow 2 (-e).toNat * Nat.pow 10 k.toNat

/-- The multiple of `10 ^ k` that reads back as `m * 2 ^ e` and is nearest to it, if there is
one. -/
def onGrid? (tie : Tie) (m : Nat) (e k : Int) : Option Nat :=
  let unit := unit e k
  let grid := grid e k
  let readsBack (d : Nat) : Bool :=
    let low := (4 * m - quartersBelow m e) * unit
    let high := (4 * m + 2) * unit
    let point := 4 * d * grid
    if m % 2 = 0 then low ≤ point && point ≤ high else low < point && point < high
  let below := m * unit / grid
  let above := below + 1
  match readsBack below, readsBack above with
  | false, false => none
  | true, false => some below
  | false, true => some above
  | true, true =>
    match compare (2 * (m * unit)) ((below + above) * grid), tie with
    | .lt, _ => some below
    | .gt, _ => some above
    | .eq, .toEven => some (if below % 2 = 0 then below else above)
    | .eq, .awayFromZero => some above

def search (tie : Tie) (m : Nat) (e : Int) : Nat → Int → Decimal
  | 0, k => ⟨m * unit e k / grid e k, k⟩
  | more + 1, k =>
    match onGrid? tie m e k with
    | some d => ⟨d, k⟩
    | none => search tie m e more (k - 1)

/-- The same value with no zero at the end of its digits. -/
def stripZeros : Nat → Decimal → Decimal
  | 0, d => d
  | more + 1, d =>
    if d.digits ≠ 0 ∧ d.digits % 10 = 0 then stripZeros more ⟨d.digits / 10, d.exponent + 1⟩ else d

/-- The shortest decimal that reads back as `m * 2 ^ e`, for `m` not zero. -/
def shortest (tie : Tie) (m : Nat) (e : Int) : Decimal :=
  stripZeros 17 (search tie m e 17 (leadingExponent m e))

end Decimal

end EntitySql.Number
