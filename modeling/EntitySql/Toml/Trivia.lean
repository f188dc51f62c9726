import EntitySql.Toml

/-!
# Blanks, line ends and comments of TOML

A line ends with a line feed, which a carriage return may precede, or with the text. Comments hold
no control characters but tabs.
-/

namespace EntitySql.Toml

def isInlineSpace (c : Char) : Bool := c == ' ' || c == '\t'

def skipInline (s : List Char) : List Char := s.dropWhile isInlineSpace

/-- Neither a control character nor a line end; a tab is allowed. -/
def isPrintable (c : Char) : Bool := c == '\t' || (0x20 ≤ c.toNat && c.toNat != 0x7F)

def newline? : List Char → Option (List Char)
  | '\n' :: s => some s
  | '\r' :: '\n' :: s => some s
  | _ => none

def skipComment : List Char → List Char
  | '#' :: s => s.dropWhile isPrintable
  | s => s

/-- Nothing but blanks and a comment up to the end of the line. -/
def lineEnd? (s : List Char) : Option (List Char) :=
  match skipComment (skipInline s) with
  | [] => some []
  | rest => newline? rest

/-- Skips blanks, comments and line ends. The count bounds the lines. -/
def skipLines : Nat → List Char → List Char
  | 0, s => s
  | count + 1, s =>
    match newline? (skipComment (skipInline s)) with
    | some rest => skipLines count rest
    | none => skipInline s

def symbol? : List Char → List Char → Option (List Char)
  | [], s => some s
  | _ :: _, [] => none
  | c :: cs, d :: s => if c = d then symbol? cs s else none

end EntitySql.Toml
