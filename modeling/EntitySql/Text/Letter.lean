import EntitySql.Text.Letter.Ranges

/-!
# Letters, numerals and identifiers

An identifier begins with a letter or an underscore and goes on with letters, numerals and
underscores. Letters and numerals are those of every script.
-/

namespace EntitySql.Text

def inRanges (ranges : List (Nat × Nat)) (c : Char) : Bool :=
  ranges.any fun r ↦ r.1 ≤ c.toNat && c.toNat ≤ r.2

def isAscii (c : Char) : Bool := c.toNat < 0x80

def isAlphabetic (c : Char) : Bool :=
  if isAscii c then c.isAlpha else inRanges Letter.alphabeticRanges c

def isNumeric (c : Char) : Bool :=
  if isAscii c then c.isDigit else inRanges Letter.numericRanges c

def isIdentifierStart (c : Char) : Bool := isAlphabetic c || c == '_'

def isIdentifierPart (c : Char) : Bool := isAlphabetic c || isNumeric c || c == '_'

/-- The identifier at the head of a text, as long as it goes, and what follows it. -/
def identifier? : List Char → Option (List Char × List Char)
  | [] => none
  | c :: s =>
    if isIdentifierStart c then
      some (c :: s.takeWhile isIdentifierPart, s.dropWhile isIdentifierPart)
    else none

/-- A letter or digit of ASCII, or the underscore. -/
def isAsciiWordPart (c : Char) : Bool := c.isAlphanum || c == '_'

end EntitySql.Text
