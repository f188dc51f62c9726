import EntitySql.Json
import EntitySql.Number.Reading

/-!
# JSON read from text

The grammar of JSON, with the whole text taken by one value. Escapes of 16-bit units make text
where surrogates among them pair up; the grammar does not ask for it. The length of the text bounds
how deep values nest.
-/

namespace EntitySql.Json

def isSpace (c : Char) : Bool := c == ' ' || c == '\t' || c == '\n' || c == '\r'

def skipSpace (s : List Char) : List Char := s.dropWhile isSpace

abbrev Reader (α : Type) := List Char → Option (α × List Char)

/-! ## Strings -/

/-- One character of a string, or one 16-bit unit of an escape. -/
inductive Piece
  | char (c : Char)
  | unit (n : Nat)

def simpleEscape? (c : Char) : Option Char :=
  if c = '\x22' ∨ c = '\\' ∨ c = '/' then some c
  else if c = 'b' then some '\x08'
  else if c = 'f' then some '\x0c'
  else if c = 'n' then some '\n'
  else if c = 'r' then some '\r'
  else if c = 't' then some '\t'
  else none

def prepend (p : Piece) : Option (List Piece × List Char) → Option (List Piece × List Char)
  | some (ps, rest) => some (p :: ps, rest)
  | none => none

/-- The pieces of a string up to its closing quote. -/
def stringPieces : Reader (List Piece)
  | [] => none
  | '\\' :: 'u' :: a :: b :: c :: d :: s =>
    match Number.hexNumber? [a, b, c, d] with
    | some n => prepend (.unit n) (stringPieces s)
    | none => none
  | '\\' :: c :: s =>
    match simpleEscape? c with
    | some d => prepend (.char d) (stringPieces s)
    | none => none
  | c :: s =>
    if c = '\x22' then some ([], s)
    else if c = '\\' ∨ c.toNat < 0x20 then none
    else prepend (.char c) (stringPieces s)

def isHighSurrogate (n : Nat) : Bool := 0xD800 ≤ n && n < 0xDC00

def isLowSurrogate (n : Nat) : Bool := 0xDC00 ≤ n && n < 0xE000

/-- The characters of pieces, if they are text: a high surrogate and the low one after it make one
character, and no other surrogate makes any. -/
def join : List Piece → Option (List Char)
  | [] => some []
  | .char c :: ps => (join ps).map (c :: ·)
  | .unit high :: .unit low :: ps =>
    if isHighSurrogate high then
      if isLowSurrogate low then
        (join ps).map (Char.ofNat (0x10000 + (high - 0xD800) * 0x400 + (low - 0xDC00)) :: ·)
      else none
    else if isLowSurrogate high then none
    else (join (.unit low :: ps)).map (Char.ofNat high :: ·)
  | .unit n :: ps =>
    if isHighSurrogate n || isLowSurrogate n then none else (join ps).map (Char.ofNat n :: ·)

/-- A string after its opening quote, with its text if it has one. -/
def stringRest? (s : List Char) : Option (Option String × List Char) :=
  (stringPieces s).map fun (pieces, rest) ↦ ((join pieces).map String.ofList, rest)

/-! ## Numbers -/

def takeDigits (s : List Char) : List Char × List Char :=
  (s.takeWhile Char.isDigit, s.dropWhile Char.isDigit)

/-- Digits without a needless zero in front. -/
def wholeDigits? (s : List Char) : Option (List Char × List Char) :=
  match takeDigits s with
  | ([], _) => none
  | ('0' :: _ :: _, _) => none
  | (ds, rest) => some (ds, rest)

def fractionDigits? : Reader (List Char)
  | '.' :: s =>
    match takeDigits s with
    | ([], _) => none
    | (ds, rest) => some ('.' :: ds, rest)
  | s => some ([], s)

def exponentSign : List Char → List Char × List Char
  | '+' :: s => (['+'], s)
  | '-' :: s => (['-'], s)
  | s => ([], s)

def exponentDigits? : Reader (List Char)
  | [] => some ([], [])
  | c :: s =>
    if c = 'e' ∨ c = 'E' then
      let (sign, t) := exponentSign s
      match takeDigits t with
      | ([], _) => none
      | (ds, rest) => some (c :: sign ++ ds, rest)
    else some ([], c :: s)

def numberSign : List Char → List Char × List Char
  | '-' :: s => (['-'], s)
  | s => ([], s)

def numberLiteral? (s : List Char) : Option (List Char × List Char) := do
  let (sign, s) := numberSign s
  let (whole, s) ← wholeDigits? s
  let (fraction, s) ← fractionDigits? s
  let (exponent, s) ← exponentDigits? s
  return (sign ++ whole ++ fraction ++ exponent, s)

/-! ## Values -/

def word? : List Char → List Char → Option (List Char)
  | [], s => some s
  | _ :: _, [] => none
  | c :: cs, d :: s => if c = d then word? cs s else none

section Containers

variable (nested : Reader Json)

/-- The items after the first one, through the closing bracket. The count bounds them. -/
def moreItems : Nat → List Json → Reader (List Json)
  | 0, _, _ => none
  | count + 1, items, s =>
    match skipSpace s with
    | ']' :: rest => some (items, rest)
    | ',' :: t =>
      match nested (skipSpace t) with
      | some (j, rest) => moreItems count (items ++ [j]) rest
      | none => none
    | _ => none

def arrayRest? (s : List Char) : Option (Json × List Char) :=
  match skipSpace s with
  | ']' :: rest => some (.array [], rest)
  | t => do
    let (j, rest) ← nested t
    let (items, rest) ← moreItems nested s.length [j] rest
    return (.array items, rest)

def namedField? (s : List Char) : Option ((Option String × Json) × List Char) :=
  match s with
  | '\x22' :: t => do
    let (name, rest) ← stringRest? t
    match skipSpace rest with
    | ':' :: u =>
      let (j, rest) ← nested (skipSpace u)
      return ((name, j), rest)
    | _ => none
  | _ => none

/-- The fields after the first one, through the closing brace. The count bounds them. -/
def moreFields : Nat → List (Option String × Json) → Reader (List (Option String × Json))
  | 0, _, _ => none
  | count + 1, fields, s =>
    match skipSpace s with
    | '\x7d' :: rest => some (fields, rest)
    | ',' :: t =>
      match namedField? nested (skipSpace t) with
      | some (f, rest) => moreFields count (fields ++ [f]) rest
      | none => none
    | _ => none

/-- The fields of an object, if every name is a text. -/
def namedFields? (fields : List (Option String × Json)) : Option (List (String × Json)) :=
  fields.mapM fun (name, j) ↦ name.map (·, j)

def objectRest? (s : List Char) : Option (Option Json × List Char) :=
  match skipSpace s with
  | '\x7d' :: rest => some (some (.object []), rest)
  | t => do
    let (f, rest) ← namedField? nested t
    let (fields, rest) ← moreFields nested s.length [f] rest
    return ((namedFields? fields).map .object, rest)

/-- The tree read from the front of a text, or else what is written there. -/
def orSource (s : List Char) : Option Json × List Char → Json × List Char
  | (some j, rest) => (j, rest)
  | (none, rest) => (.raw (s.take (s.length - rest.length)), rest)

def anyValue? : Reader Json
  | [] => none
  | c :: s =>
    if c = '\x22' then
      (stringRest? s).map fun (t, rest) ↦ orSource (c :: s) (t.map .string, rest)
    else if c = '[' then arrayRest? nested s
    else if c = '\x7b' then (objectRest? nested s).map (orSource (c :: s))
    else if c = 'n' then (word? ['u', 'l', 'l'] s).map (Json.null, ·)
    else if c = 't' then (word? ['r', 'u', 'e'] s).map (Json.bool true, ·)
    else if c = 'f' then (word? ['a', 'l', 's', 'e'] s).map (Json.bool false, ·)
    else (numberLiteral? (c :: s)).map fun (literal, rest) ↦ (.number literal, rest)

end Containers

/-- A value nested no deeper than `depth`. -/
def value? : Nat → Reader Json
  | 0 => fun _ ↦ none
  | depth + 1 => anyValue? (value? depth)

def readChars? (s : List Char) : Option Json :=
  match value? (s.length + 1) (skipSpace s) with
  | some (j, rest) => if (skipSpace rest).isEmpty then some j else none
  | none => none

def read? (text : String) : Option Json := readChars? text.toList

end EntitySql.Json
