import EntitySql.Calendar
import EntitySql.Number.Reading
import EntitySql.Text.Blank

/-!
# Dates and times read from text

Parts may be written with fewer digits than they are printed with, and blanks may stand before a
number. A year without a sign has at most four digits. Digits of a fraction past the ninth are
dropped.
-/

namespace EntitySql

namespace Calendar

open Text Number

/-- Between one and `width` digits, and what follows them. -/
def digits? (width : Nat) (s : List Char) : Option (List Char × List Char) :=
  let ds := (s.take width).takeWhile Char.isDigit
  if ds.isEmpty then none else some (ds, s.drop ds.length)

/-- A number of at most `width` digits after any blanks. -/
def part? (width : Nat) (s : List Char) : Option (Nat × List Char) :=
  (digits? width (trimStart s)).map fun (ds, rest) ↦ (ofDigits ds, rest)

def year? (s : List Char) : Option (Int × List Char) :=
  match trimStart s with
  | '-' :: t => (digits? t.length t).map fun (ds, rest) ↦ (-(ofDigits ds : Int), rest)
  | '+' :: t => (digits? t.length t).map fun (ds, rest) ↦ ((ofDigits ds : Int), rest)
  | t => (digits? 4 t).map fun (ds, rest) ↦ ((ofDigits ds : Int), rest)

def mark? (c : Char) : List Char → Option (List Char)
  | d :: s => if d = c then some s else none
  | [] => none

/-- Nanoseconds from a fraction, if a point begins one. -/
def fraction? : List Char → Option (Nat × List Char)
  | '.' :: s =>
    (digits? 9 s).map fun (ds, rest) ↦
      (ofDigits ds * Nat.pow 10 (9 - ds.length), rest.dropWhile Char.isDigit)
  | s => some (0, s)

def date? (s : List Char) : Option (Date × List Char) := do
  let (year, s) ← year? s
  let s ← mark? '-' s
  let (month, s) ← part? 2 s
  let s ← mark? '-' s
  let (day, s) ← part? 2 s
  let date ← Date.ofParts? year month day
  return (date, s)

def time? (s : List Char) : Option (Time × List Char) := do
  let (hour, s) ← part? 2 s
  let s ← mark? ':' s
  let (minute, s) ← part? 2 s
  let s ← mark? ':' s
  let (second, s) ← part? 2 s
  let (nanosecond, s) ← fraction? s
  let time ← Time.ofParts? hour minute second nanosecond
  return (time, s)

def whole? {α : Type} : Option (α × List Char) → Option α
  | some (a, []) => some a
  | _ => none

end Calendar

open Calendar

def Date.read? (s : List Char) : Option Date := whole? (date? s)

/-- Reads a date and a time with any number of blanks between them. -/
def DateTime.read? (s : List Char) : Option DateTime := do
  let (date, s) ← date? s
  let time ← whole? (time? (Text.trimStart s))
  return ⟨date, time⟩

/-- Reads a date and a time with a `T` between them. -/
def DateTime.readIso? (s : List Char) : Option DateTime := do
  let (date, s) ← date? s
  let s ← mark? 'T' s
  let time ← whole? (time? s)
  return ⟨date, time⟩

end EntitySql
