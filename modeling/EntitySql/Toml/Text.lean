import EntitySql.Number.Reading
import EntitySql.Toml.Trivia

/-!
# Strings and keys of TOML

Strings are basic, with escapes, or literal, without; either kind may run over several lines
between triple quotes. A key is a dotted path of bare words and one-line strings.
-/

namespace EntitySql.Toml

def hexChar? (ds : List Char) : Option Char :=
  (Number.hexNumber? ds).bind fun n ↦
    if n < 0xD800 ∨ (0xDFFF < n ∧ n < 0x110000) then some (Char.ofNat n) else none

def basicEscape? (c : Char) : Option Char :=
  if c = 'b' then some '\x08'
  else if c = 't' then some '\t'
  else if c = 'n' then some '\n'
  else if c = 'f' then some '\x0c'
  else if c = 'r' then some '\r'
  else if c = '\x22' ∨ c = '\\' then some c
  else none

/-- The character of an escape, after its backslash. -/
def escape? : List Char → Option (Char × List Char)
  | [] => none
  | c :: s =>
    if c = 'u' then
      if s.length < 4 then none else (hexChar? (s.take 4)).map (·, s.drop 4)
    else if c = 'U' then
      if s.length < 8 then none else (hexChar? (s.take 8)).map (·, s.drop 8)
    else (basicEscape? c).map (·, s)

def skipBlankLines : List Char → List Char
  | '\r' :: '\n' :: s => skipBlankLines s
  | c :: s => if isInlineSpace c || c == '\n' then skipBlankLines s else c :: s
  | [] => []

/-- The end of a line after a backslash, with all blanks and line ends that follow. -/
def continuation? (s : List Char) : Option (List Char) :=
  (newline? (skipInline s)).map skipBlankLines

/-- A string up to its closing quote. The count bounds its characters. -/
def oneLine (quote : Char) (escapes : Bool) : Nat → List Char → Reader (List Char)
  | 0, _, _ => none
  | _ + 1, _, [] => none
  | count + 1, acc, c :: s =>
    if c = quote then some (acc.reverse, s)
    else if c = '\\' ∧ escapes then
      match escape? s with
      | some (d, rest) => oneLine quote escapes count (d :: acc) rest
      | none => none
    else if isPrintable c then oneLine quote escapes count (c :: acc) s
    else none

/-- A string up to its closing three quotes, ahead of which two more may stand. -/
def multiLine (quote : Char) (escapes : Bool) : Nat → List Char → Reader (List Char)
  | 0, _, _ => none
  | _ + 1, _, [] => none
  | count + 1, acc, c :: s =>
    if c = quote then
      let run := 1 + (s.takeWhile (· == quote)).length
      if 3 ≤ run then
        let used := min run 5
        some (acc.reverse ++ List.replicate (used - 3) quote, (c :: s).drop used)
      else multiLine quote escapes count (c :: acc) s
    else if c = '\\' ∧ escapes then
      match continuation? s with
      | some rest => multiLine quote escapes count acc rest
      | none =>
        match escape? s with
        | some (d, rest) => multiLine quote escapes count (d :: acc) rest
        | none => none
    else if isPrintable c then multiLine quote escapes count (c :: acc) s
    else
      match newline? (c :: s) with
      | some rest => multiLine quote escapes count ('\n' :: acc) rest
      | none => none

/-- A line end right after the opening quotes does not count. -/
def dropNewline (s : List Char) : List Char := (newline? s).getD s

def oneLineString? : Reader (List Char)
  | '\x22' :: s => oneLine '\x22' true (s.length + 1) [] s
  | '\x27' :: s => oneLine '\x27' false (s.length + 1) [] s
  | _ => none

def string? : Reader (List Char)
  | '\x22' :: '\x22' :: '\x22' :: s => multiLine '\x22' true (s.length + 1) [] (dropNewline s)
  | '\x27' :: '\x27' :: '\x27' :: s => multiLine '\x27' false (s.length + 1) [] (dropNewline s)
  | s => oneLineString? s

def isBare (c : Char) : Bool := c.isAlphanum || c == '_' || c == '-'

def simpleKey? (s : List Char) : Option (String × List Char) :=
  match oneLineString? s with
  | some (key, rest) => some (String.ofList key, rest)
  | none =>
    let bare := s.takeWhile isBare
    if bare.isEmpty then none else some (String.ofList bare, s.dropWhile isBare)

/-- The parts of a key after the first one, and the blanks after it. The count bounds them. -/
def moreKeys : Nat → List String → Reader (List String)
  | 0, _, _ => none
  | count + 1, keys, s =>
    match skipInline s with
    | '.' :: t =>
      match simpleKey? (skipInline t) with
      | some (key, rest) => moreKeys count (keys ++ [key]) rest
      | none => none
    | rest => some (keys, rest)

/-- The parts of a dotted key, with the blanks around it. -/
def keyPath? (s : List Char) : Option (List String × List Char) :=
  (simpleKey? (skipInline s)).bind fun (key, rest) ↦ moreKeys (depthLimit - 1) [key] rest

end EntitySql.Toml
