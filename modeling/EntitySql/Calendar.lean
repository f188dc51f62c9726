/-!
# Dates and times of day

Days of the proleptic Gregorian calendar, times of day to the nanosecond, and their pairs without
a zone. A leap second is a second whose nanoseconds run past a thousand million. The order is
that of the clock: earlier before later.
-/

namespace EntitySql

def isLeapYear (year : Int) : Bool := year % 4 = 0 && (year % 100 ≠ 0 || year % 400 = 0)

def daysInMonth (year : Int) (month : Nat) : Nat :=
  if month = 2 then (if isLeapYear year then 29 else 28)
  else if month ∈ [4, 6, 9, 11] then 30
  else 31

structure Date where
  year : Int
  month : Nat
  day : Nat
  year_mem : -262143 ≤ year ∧ year ≤ 262142
  month_mem : 1 ≤ month ∧ month ≤ 12
  day_mem : 1 ≤ day ∧ day ≤ daysInMonth year month
  deriving DecidableEq

structure Time where
  hour : Nat
  minute : Nat
  second : Nat
  /-- Nanoseconds within the second; a thousand million and more within a leap second. -/
  nanosecond : Nat
  hour_lt : hour < 24
  minute_lt : minute < 60
  second_lt : second < 60
  nanosecond_lt : nanosecond < if second = 59 then 2000000000 else 1000000000
  deriving DecidableEq

structure DateTime where
  date : Date
  time : Time
  deriving DecidableEq

namespace Date

def ofParts? (year : Int) (month day : Nat) : Option Date :=
  if hy : -262143 ≤ year ∧ year ≤ 262142 then
    if hm : 1 ≤ month ∧ month ≤ 12 then
      if hd : 1 ≤ day ∧ day ≤ daysInMonth year month then
        some ⟨year, month, day, hy, hm, hd⟩
      else none
    else none
  else none

/-- The first day of 1970, which stands for a date that was never set. -/
def epoch : Date := ⟨1970, 1, 1, by decide, by decide, by decide⟩

def compare (a b : Date) : Ordering :=
  (Ord.compare a.year b.year).then ((Ord.compare a.month b.month).then (Ord.compare a.day b.day))

end Date

namespace Time

/-- A time from its parts; the sixtieth second is a leap second. -/
def ofParts? (hour minute second nanosecond : Nat) : Option Time :=
  let leap := second = 60
  let second := if leap then 59 else second
  let nanosecond := if leap then nanosecond + 1000000000 else nanosecond
  if hh : hour < 24 then
    if hm : minute < 60 then
      if hs : second < 60 then
        if hn : nanosecond < if second = 59 then 2000000000 else 1000000000 then
          some ⟨hour, minute, second, nanosecond, hh, hm, hs, hn⟩
        else none
      else none
    else none
  else none

def midnight : Time := ⟨0, 0, 0, 0, by decide, by decide, by decide, by decide⟩

def compare (a b : Time) : Ordering :=
  (Ord.compare a.hour b.hour).then ((Ord.compare a.minute b.minute).then
    ((Ord.compare a.second b.second).then (Ord.compare a.nanosecond b.nanosecond)))

end Time

namespace DateTime

def epoch : DateTime := ⟨.epoch, .midnight⟩

def compare (a b : DateTime) : Ordering := (a.date.compare b.date).then (a.time.compare b.time)

end DateTime

end EntitySql
