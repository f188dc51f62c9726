import EntitySql.Text.LetterCase

/-!
# String methods of a filter

The three methods that become a pattern match in SQL. Each answers to two spellings of its name,
and none of them looks at the case of letters.
-/

namespace EntitySql

inductive StringMethod
  | contains
  | startsWith
  | endsWith
  deriving DecidableEq, Repr

namespace StringMethod

def ofName? : String → Option StringMethod
  | "Contains" => some .contains
  | "contains" => some .contains
  | "StartsWith" => some .startsWith
  | "starts_with" => some .startsWith
  | "EndsWith" => some .endsWith
  | "ends_with" => some .endsWith
  | _ => none

def name : StringMethod → String
  | .contains => "Contains"
  | .startsWith => "StartsWith"
  | .endsWith => "EndsWith"

/-- Where a text must have the needle, once both are in upper case. -/
def accepts : StringMethod → List Char → List Char → Bool
  | .contains, text, needle => Text.occursIn needle text
  | .startsWith, text, needle => needle.isPrefixOf text
  | .endsWith, text, needle => needle.isSuffixOf text

def isMatch (m : StringMethod) (text needle : String) : Bool :=
  m.accepts (Text.upper text.toList) (Text.upper needle.toList)

end StringMethod

end EntitySql
