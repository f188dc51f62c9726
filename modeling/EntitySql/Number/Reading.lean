import EntitySql.Number.Shortest

/-!
# Numbers read from text

Whole numbers are an optional sign and ASCII digits, or hexadecimal digits in either case. Real
numbers may have a fraction and an exponent, or be one of the words for what is not finite, in any
case of letters; their value is rounded once, to the nearest double.
-/

namespace EntitySql.Number

def digitValue (c : Char) : Nat := c.toNat - '0'.toNat

def ofDigits (ds : List Char) : Nat := ds.foldl (fun n c ↦ 10 * n + digitValue c) 0

def natural? (s : List Char) : Option Nat :=
  if !s.isEmpty && s.all Char.isDigit then some (ofDigits s) else none

def integer? : List Char → Option Int
  | '-' :: s => (natural? s).map fun n ↦ -(n : Int)
  | '+' :: s => (natural? s).map Int.ofNat
  | s => (natural? s).map Int.ofNat

def hexValue? (c : Char) : Option Nat :=
  if c.isDigit then some (digitValue c)
  else if 'a' ≤ c ∧ c ≤ 'f' then some (c.toNat - 'a'.toNat + 10)
  else if 'A' ≤ c ∧ c ≤ 'F' then some (c.toNat - 'A'.toNat + 10)
  else none

def hexNumber? (ds : List Char) : Option Nat :=
  ds.foldl (fun n? d ↦ match n?, hexValue? d with
    | some n, some v => some (16 * n + v)
    | _, _ => none) (some 0)

def readInt64? (s : List Char) : Option Int64 := (integer? s).bind int64?

/-- The double nearest to `digits * 10 ^ exponent`. Exponents that leave the range of doubles are
settled by the place of the leading digit. -/
def nearest (negative : Bool) (digits : Nat) (exponent : Int) : Float :=
  let place := exponent + Decimal.digitCount digits
  let size :=
    if digits = 0 ∨ place < -330 then 0.0
    else if 310 < place then 1.0 / 0.0
    else Float.ofScientific digits (exponent < 0) exponent.natAbs
  if negative then -size else size

/-- The exponent at the end of a number: nothing, or a mark, a sign and digits. -/
def exponentPart? : List Char → Option Int
  | [] => some 0
  | c :: s => if c = 'e' ∨ c = 'E' then integer? s else none

def unsignedReal? (negative : Bool) (s : List Char) : Option Float :=
  let whole := s.takeWhile Char.isDigit
  let afterWhole := s.dropWhile Char.isDigit
  let (fraction, rest) :=
    match afterWhole with
    | '.' :: t => (t.takeWhile Char.isDigit, t.dropWhile Char.isDigit)
    | t => ([], t)
  if whole.isEmpty && fraction.isEmpty then none
  else
    (exponentPart? rest).map fun e ↦
      nearest negative (ofDigits (whole ++ fraction)) (e - fraction.length)

def unsignedWord? (negative : Bool) (s : List Char) : Option Float :=
  let word := String.ofList (s.map Char.toLower)
  if word = "nan" then some (0.0 / 0.0)
  else if word = "inf" ∨ word = "infinity" then some (if negative then -1.0 / 0.0 else 1.0 / 0.0)
  else none

def unsigned? (negative : Bool) (s : List Char) : Option Float :=
  (unsignedReal? negative s).or (unsignedWord? negative s)

def readFloat? : List Char → Option Float
  | '-' :: s => unsigned? true s
  | '+' :: s => unsigned? false s
  | s => unsigned? false s

end EntitySql.Number
