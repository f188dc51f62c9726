/-!
# White space

The property White_Space, and what is cut with it: the trimmed text and its first word. A trimmed
text neither begins nor ends with a blank.
-/

namespace EntitySql.Text

/-- The 25 characters of the property White_Space. -/
def isBlank (c : Char) : Bool :=
  let n := c.toNat
  (0x9 ≤ n && n ≤ 0xD) || n == 0x20 || n == 0x85 || n == 0xA0 || n == 0x1680 ||
    (0x2000 ≤ n && n ≤ 0x200A) || n == 0x2028 || n == 0x2029 || n == 0x202F ||
    n == 0x205F || n == 0x3000

def trimStart (s : List Char) : List Char := s.dropWhile isBlank

def trimEnd (s : List Char) : List Char := (s.reverse.dropWhile isBlank).reverse

def trim (s : List Char) : List Char := trimEnd (trimStart s)

/-- The first run of characters that are not blank. -/
def firstWord? (s : List Char) : Option (List Char) :=
  match trimStart s with
  | [] => none
  | word => some (word.takeWhile fun c ↦ !isBlank c)

end EntitySql.Text
