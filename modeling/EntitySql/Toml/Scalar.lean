import EntitySql.Calendar
import EntitySql.Number.Reading
import EntitySql.Toml.Text

/-!
# Numbers, dates and times of TOML

Integers fit 64 bits and may be written in four bases, with underscores between digits. A float
has a fraction, an exponent or both; one too large for a double is refused unless it is negative.
Dates and times are checked and kept as written.
-/

namespace EntitySql.Toml

open Number

/-! ## Numbers -/

/-- Digits, with single underscores between them. -/
def digitRun? (isDigit : Char → Bool) : Nat → List Char → Reader (List Char)
  | 0, _, _ => none
  | _ + 1, acc, [] => if acc.isEmpty then none else some (acc.reverse, [])
  | count + 1, acc, c :: s =>
    if isDigit c then digitRun? isDigit count (c :: acc) s
    else if c = '_' ∧ !acc.isEmpty then
      match s with
      | d :: t => if isDigit d then digitRun? isDigit count (d :: acc) t else none
      | [] => none
    else if acc.isEmpty then none
    else some (acc.reverse, c :: s)

def digits? (isDigit : Char → Bool) (s : List Char) : Option (List Char × List Char) :=
  digitRun? isDigit (s.length + 1) [] s

def sign : List Char → List Char × List Char
  | '+' :: s => (['+'], s)
  | '-' :: s => (['-'], s)
  | s => ([], s)

/-- A decimal integer with its sign; a zero in front of it stands alone. -/
def decimal? (s : List Char) : Option (List Char × List Char) :=
  let (sgn, t) := sign s
  match t with
  | '0' :: u => some (sgn ++ ['0'], u)
  | t => (digits? Char.isDigit t).map fun (ds, rest) ↦ (sgn ++ ds, rest)

def exponent? : Reader (List Char)
  | [] => none
  | c :: s =>
    if c = 'e' ∨ c = 'E' then
      let (sgn, t) := sign s
      (digits? Char.isDigit t).map fun (ds, rest) ↦ ('e' :: sgn ++ ds, rest)
    else none

def fraction? : Reader (List Char)
  | '.' :: s => (digits? Char.isDigit s).map fun (ds, rest) ↦ ('.' :: ds, rest)
  | _ => none

def floatTail? (s : List Char) : Option (List Char × List Char) :=
  match exponent? s with
  | some (e, rest) => some (e, rest)
  | none =>
    (fraction? s).map fun (f, rest) ↦
      match exponent? rest with
      | some (e, rest) => (f ++ e, rest)
      | none => (f, rest)

def specialFloat? (s : List Char) : Option (Toml × List Char) :=
  let (sgn, t) := sign s
  match symbol? ['i', 'n', 'f'] t with
  | some rest => some (.float (if sgn = ['-'] then -1.0 / 0.0 else 1.0 / 0.0), rest)
  | none => (symbol? ['n', 'a', 'n'] t).map fun rest ↦ (.float (0.0 / 0.0), rest)

def numericFloat? (s : List Char) : Option (List Char × List Char) := do
  let (whole, rest) ← decimal? s
  let (tail, rest) ← floatTail? rest
  return (whole ++ tail, rest)

def float? (s : List Char) : Option (Toml × List Char) :=
  match numericFloat? s with
  | some (literal, rest) => do
    let x ← readFloat? literal
    if x == 1.0 / 0.0 then none else some (.float x, rest)
  | none => specialFloat? s

def ofBase (base : Nat) (ds : List Char) : Nat :=
  ds.foldl (fun n c ↦ base * n + (Number.hexValue? c).getD 0) 0

def based? (base : Nat) (isDigit : Char → Bool) (s : List Char) : Option (Toml × List Char) := do
  let (ds, rest) ← digits? isDigit s
  let n ← int64? (ofBase base ds)
  return (.integer n, rest)

def integer? : Reader Toml
  | '0' :: 'x' :: s => based? 16 (fun c ↦ (Number.hexValue? c).isSome) s
  | '0' :: 'o' :: s => based? 8 (fun c ↦ '0' ≤ c && c ≤ '7') s
  | '0' :: 'b' :: s => based? 2 (fun c ↦ c == '0' || c == '1') s
  | s => do
    let (literal, rest) ← decimal? s
    let n ← readInt64? literal
    return (.integer n, rest)

/-! ## Dates and times -/

/-- Exactly `width` digits, and their value. -/
def fixed? (width : Nat) (s : List Char) : Option (Nat × List Char) :=
  let ds := s.take width
  if ds.length = width ∧ ds.all Char.isDigit then some (ofDigits ds, s.drop width) else none

def fixedIn? (width low high : Nat) (s : List Char) : Option (Nat × List Char) :=
  (fixed? width s).bind fun (n, rest) ↦ if low ≤ n ∧ n ≤ high then some (n, rest) else none

def date? (s : List Char) : Option (List Char) := do
  let (year, s) ← fixed? 4 s
  let s ← symbol? ['-'] s
  let (month, s) ← fixedIn? 2 1 12 s
  let s ← symbol? ['-'] s
  let (_, s) ← fixedIn? 2 1 (daysInMonth year month) s
  return s

def timeFraction? (s : List Char) : Option (List Char) :=
  match s with
  | '.' :: t => if (t.takeWhile Char.isDigit).isEmpty then none else some (t.dropWhile Char.isDigit)
  | s => some s

def time? (s : List Char) : Option (List Char) := do
  let (_, s) ← fixedIn? 2 0 23 s
  let s ← symbol? [':'] s
  let (_, s) ← fixedIn? 2 0 59 s
  let s ← symbol? [':'] s
  let (_, s) ← fixedIn? 2 0 60 s
  timeFraction? s

def offset? (s : List Char) : Option (List Char) :=
  match s with
  | [] => some []
  | c :: t =>
    if c = 'Z' ∨ c = 'z' then some t
    else if c = '+' ∨ c = '-' then do
      let (_, t) ← fixedIn? 2 0 23 t
      let t ← symbol? [':'] t
      let (_, t) ← fixedIn? 2 0 59 t
      return t
    else some (c :: t)

/-- The time after a date, if there is one. -/
def timeAfterDate? (s : List Char) : Option (List Char) :=
  match s with
  | c :: t => if c = 'T' ∨ c = 't' ∨ c = ' ' then (time? t).bind offset? else none
  | [] => none

def afterDateTime? (s : List Char) : Option (List Char) :=
  match date? s with
  | some rest => some ((timeAfterDate? rest).getD rest)
  | none => time? s

def dateTime? (s : List Char) : Option (Toml × List Char) :=
  (afterDateTime? s).map fun rest ↦ (.dateTime (s.take (s.length - rest.length)), rest)

def boolean? (s : List Char) : Option (Toml × List Char) :=
  match symbol? ['t', 'r', 'u', 'e'] s with
  | some rest => some (.boolean true, rest)
  | none => (symbol? ['f', 'a', 'l', 's', 'e'] s).map fun rest ↦ (.boolean false, rest)

def scalar? (s : List Char) : Option (Toml × List Char) :=
  (((((string? s).map fun (t, rest) ↦ (.string (String.ofList t), rest)).or (boolean? s)).or
    (dateTime? s)).or (float? s)).or (integer? s)

end EntitySql.Toml
