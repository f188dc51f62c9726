import EntitySql.Number.Shortest

/-!
# Written doubles

A layout holds the decisions of a format: which exponents are written positionally, whether a
whole number keeps a fraction, how ties go, and the words for what is not finite. There are two:
the plain text of a value, which never has an exponent, and the text of a number in JSON.
-/

namespace EntitySql.Number

structure Layout where
  tie : Tie
  /-- The exponents of the leading digit that are written without an exponent mark. -/
  positional : Int → Bool
  wholeEnding : String
  nan : String
  infinity : String
  negativeInfinity : String

namespace Layout

/-- Never an exponent, and no fraction on a whole number. -/
def plain : Layout where
  tie := .awayFromZero
  positional := fun _ ↦ true
  wholeEnding := ""
  nan := "NaN"
  infinity := "inf"
  negativeInfinity := "-inf"

/-- A fraction or an exponent always; what is not finite has no number and is written `null`. -/
def json : Layout where
  tie := .toEven
  positional := fun x ↦ -5 ≤ x && x ≤ 15
  wholeEnding := ".0"
  nan := "null"
  infinity := "null"
  negativeInfinity := "null"

def writeDecimal (layout : Layout) (d : Decimal) : List Char :=
  let digits := Nat.toDigits 10 d.digits
  let leading := d.exponent + digits.length - 1
  if layout.positional leading then
    if 0 ≤ d.exponent then
      digits ++ List.replicate d.exponent.toNat '0' ++ layout.wholeEnding.toList
    else if 0 ≤ leading then
      digits.take (leading.toNat + 1) ++ '.' :: digits.drop (leading.toNat + 1)
    else '0' :: '.' :: List.replicate (-leading - 1).toNat '0' ++ digits
  else
    digits.take 1 ++ (if digits.length = 1 then [] else '.' :: digits.drop 1) ++
      'e' :: (if leading < 0 then '-' else '+') :: Nat.toDigits 10 leading.natAbs

def write (layout : Layout) (x : Float) : String :=
  match Binary64.ofFloat x with
  | .nan => layout.nan
  | .infinite false => layout.infinity
  | .infinite true => layout.negativeInfinity
  | .finite negative m e =>
    let digits :=
      if m = 0 then '0' :: layout.wholeEnding.toList
      else layout.writeDecimal (Decimal.shortest layout.tie m e)
    String.ofList (if negative then '-' :: digits else digits)

end Layout

end EntitySql.Number
