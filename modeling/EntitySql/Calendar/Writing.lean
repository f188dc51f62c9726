import EntitySql.Calendar

/-!
# Written dates and times

A date is `2020-02-29`; years outside the four-digit range carry a sign. A time is `23:59:59`
with a fraction of no, three, six or nine digits, the fewest that are exact. Between date and time
stands a blank in plain text and a `T` in JSON.
-/

namespace EntitySql

def padded (width n : Nat) : List Char :=
  let digits := Nat.toDigits 10 n
  List.replicate (width - digits.length) '0' ++ digits

def writeYear (year : Int) : List Char :=
  if 0 ≤ year ∧ year ≤ 9999 then padded 4 year.toNat
  else (if year < 0 then '-' else '+') :: padded 4 year.natAbs

def writeFraction (nanosecond : Nat) : List Char :=
  if nanosecond = 0 then []
  else if nanosecond % 1000000 = 0 then '.' :: padded 3 (nanosecond / 1000000)
  else if nanosecond % 1000 = 0 then '.' :: padded 6 (nanosecond / 1000)
  else '.' :: padded 9 nanosecond

def Date.write (d : Date) : List Char :=
  writeYear d.year ++ '-' :: padded 2 d.month ++ '-' :: padded 2 d.day

def Time.write (t : Time) : List Char :=
  padded 2 t.hour ++ ':' :: padded 2 t.minute ++
    ':' :: padded 2 (t.second + t.nanosecond / 1000000000) ++
    writeFraction (t.nanosecond % 1000000000)

def DateTime.write (separator : Char) (t : DateTime) : List Char :=
  t.date.write ++ separator :: t.time.write

end EntitySql
