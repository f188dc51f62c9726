import EntitySql.Calendar.Reading
import EntitySql.Calendar.Writing
import EntitySql.Proofs.Number.Reading
import EntitySql.Proofs.Text.Blank
import Mathlib.Algebra.Ring.Nat

/-!
# Written dates and times are read back

Each part of a written date or time is read as the number that it was made of, and what follows it
is left. So every date is read back from its text, and every date with a time, leap seconds and all.
-/

namespace EntitySql

open Text Number

/-! ## Padded numbers -/

section Padded

variable {width n : Nat}

theorem ofDigits_padded (width n : Nat) : ofDigits (padded width n) = n :=
  (ofDigits_zeros _ _).trans (ofDigits_toDigits n)

theorem isDigit_of_mem_padded {c : Char} (hc : c ∈ padded width n) : c.isDigit = true := by
  rcases List.mem_append.1 hc with hzero | hdigit
  · rw [List.eq_of_mem_replicate hzero]
    rfl
  · exact isDigit_of_mem_toDigits hdigit

theorem padded_ne_nil (width n : Nat) : padded width n ≠ [] :=
  List.append_ne_nil_of_right_ne_nil _ Nat.toDigits_ne_nil

theorem length_padded (hwidth : 0 < width) (hn : n < 10 ^ width) :
    (padded width n).length = width := by
  have hlength := (Nat.length_toDigits_le_iff (by decide) hwidth).2 hn
  rw [padded, List.length_append, List.length_replicate, Nat.sub_add_cancel hlength]

theorem not_isBlank_of_mem_padded {c : Char} (hc : c ∈ padded width n) : isBlank c = false :=
  not_isBlank_of_isDigit (isDigit_of_mem_padded hc)

theorem trimStart_padded (width n : Nat) (rest : List Char) :
    trimStart (padded width n ++ rest) = padded width n ++ rest := by
  apply Stops.dropWhile_eq
  obtain ⟨c, w, hpadded⟩ := List.exists_cons_of_ne_nil (padded_ne_nil width n)
  rw [hpadded]
  exact stops_cons.2 (not_isBlank_of_mem_padded (hpadded ▸ List.mem_cons_self))

end Padded

namespace Calendar

/-! ## Parts -/

section Parts

variable {width n : Nat} {w rest : List Char}

/-- A run of digits is taken whole, where it is no longer than may be read and no digit follows
it. -/
theorem digits?_run (hne : w ≠ []) (hdigit : ∀ c ∈ w, c.isDigit = true) (hlength : w.length ≤ width)
    (hstops : Stops Char.isDigit (rest.take (width - w.length))) :
    digits? width (w ++ rest) = some (w, rest) := by
  have hrun : ((w ++ rest).take width).takeWhile Char.isDigit = w := by
    rw [List.take_append, List.take_of_length_le hlength]
    exact takeWhile_run hdigit hstops
  simp only [digits?, hrun, List.isEmpty_eq_false_iff.2 hne, Bool.false_eq_true, if_false,
    List.drop_left]

theorem digits?_padded (hwidth : 0 < width) (hn : n < 10 ^ width) (rest : List Char) :
    digits? width (padded width n ++ rest) = some (padded width n, rest) := by
  have hlength := length_padded hwidth hn
  apply digits?_run (padded_ne_nil width n) (fun c ↦ isDigit_of_mem_padded) hlength.le
  rw [hlength, Nat.sub_self]
  exact stops_nil _

/-- A number that takes as many digits as may be read is read, whatever follows it. -/
theorem part?_padded (hwidth : 0 < width) (hn : n < 10 ^ width) (rest : List Char) :
    part? width (padded width n ++ rest) = some (n, rest) := by
  rw [part?, trimStart_padded, digits?_padded hwidth hn, Option.map_some]
  dsimp only
  rw [ofDigits_padded]

theorem mark?_cons (c : Char) (s : List Char) : mark? c (c :: s) = some s := if_pos rfl

/-- The digits of a year with a sign end at the mark behind them. -/
theorem digits?_signed (n : Nat) {c : Char} (hc : c.isDigit = false) (rest : List Char) :
    digits? (padded 4 n ++ c :: rest).length (padded 4 n ++ c :: rest) =
      some (padded 4 n, c :: rest) := by
  apply digits?_run (padded_ne_nil 4 n) (fun c ↦ isDigit_of_mem_padded)
  · rw [List.length_append]
    exact Nat.le_add_right _ _
  · rw [List.length_append, Nat.add_sub_cancel_left, List.take_length]
    exact stops_cons.2 hc

/-- A digit is no sign, so that four digits are the whole year. -/
theorem year?_padded (hn : n < 10 ^ 4) (rest : List Char) :
    year? (padded 4 n ++ rest) = some ((n : Int), rest) := by
  have hdigits := digits?_padded (by decide) hn rest
  have hvalue := ofDigits_padded 4 n
  obtain ⟨c, w, hpadded⟩ := List.exists_cons_of_ne_nil (padded_ne_nil 4 n)
  have hc : c.isDigit = true := isDigit_of_mem_padded (hpadded ▸ List.mem_cons_self)
  rw [hpadded, List.cons_append] at hdigits
  rw [hpadded] at hvalue
  unfold year?
  rw [trimStart_padded, hpadded, List.cons_append]
  split
  · next hminus =>
    cases hminus
    cases hc
  · next hplus =>
    cases hplus
    cases hc
  · rw [hdigits, Option.map_some]
    dsimp only
    rw [hvalue]

theorem year?_minus (n : Nat) (rest : List Char) :
    year? ('-' :: (padded 4 n ++ '-' :: rest)) = some (-(n : Int), '-' :: rest) := by
  change (digits? _ (padded 4 n ++ '-' :: rest)).map _ = _
  rw [digits?_signed n rfl, Option.map_some]
  dsimp only
  rw [ofDigits_padded]

theorem year?_plus (n : Nat) (rest : List Char) :
    year? ('+' :: (padded 4 n ++ '-' :: rest)) = some ((n : Int), '-' :: rest) := by
  change (digits? _ (padded 4 n ++ '-' :: rest)).map _ = _
  rw [digits?_signed n rfl, Option.map_some]
  dsimp only
  rw [ofDigits_padded]

/-- A year beyond four digits has a sign, and is read back like the others. -/
theorem year?_writeYear (year : Int) (rest : List Char) :
    year? (writeYear year ++ '-' :: rest) = some (year, '-' :: rest) := by
  unfold writeYear
  split
  · next hyear =>
    rw [year?_padded (by omega), Int.toNat_of_nonneg hyear.1]
  · split
    · next hnegative =>
      have hyear : -(year.natAbs : Int) = year := by omega
      rw [List.cons_append, year?_minus, hyear]
    · next hpositive =>
      have hyear : (year.natAbs : Int) = year := by omega
      rw [List.cons_append, year?_plus, hyear]

/-- Each way to write a fraction has as many digits as make it exact. -/
theorem writeFraction_cases {k : Nat} (hk : k < 1000000000) :
    (k = 0 ∧ writeFraction k = []) ∨
      ∃ width m, 0 < width ∧ width ≤ 9 ∧ m < 10 ^ width ∧ m * 10 ^ (9 - width) = k ∧
        writeFraction k = '.' :: padded width m := by
  unfold writeFraction
  split
  · next hzero => exact .inl ⟨hzero, rfl⟩
  · split
    · next hmillis => exact .inr ⟨3, k / 1000000, by omega, by omega, by omega, by omega, rfl⟩
    · split
      · next hmicros => exact .inr ⟨6, k / 1000, by omega, by omega, by omega, by omega, rfl⟩
      · exact .inr ⟨9, k, by omega, by omega, by omega, by omega, rfl⟩

/-- Zeros that a fraction leaves out at its end are filled in again. -/
theorem fraction?_writeFraction {k : Nat} (hk : k < 1000000000) :
    fraction? (writeFraction k) = some (k, []) := by
  rcases writeFraction_cases hk with ⟨rfl, htext⟩ | ⟨width, m, hwidth, hle, hm, hvalue, htext⟩
  · rw [htext]
    rfl
  · have hlength := length_padded hwidth hm
    have hdigits : digits? 9 (padded width m ++ []) = some (padded width m, []) :=
      digits?_run (padded_ne_nil width m) (fun c ↦ isDigit_of_mem_padded) (hlength.le.trans hle)
        (by simp)
    rw [List.append_nil] at hdigits
    rw [htext]
    change (digits? 9 (padded width m)).map _ = _
    rw [hdigits, Option.map_some]
    dsimp only
    rw [ofDigits_padded, hlength]
    exact congrArg (fun n ↦ some (n, [])) hvalue

end Parts

end Calendar

/-! ## Dates and times -/

open Calendar

/-- The parts of a date are always in range. -/
theorem Date.ofParts?_self (d : Date) : Date.ofParts? d.year d.month d.day = some d := by
  rw [Date.ofParts?, dif_pos d.year_mem, dif_pos d.month_mem, dif_pos d.day_mem]

theorem Date.day_lt (d : Date) : d.day < 100 := by
  have hdays : daysInMonth d.year d.month ≤ 31 := by
    unfold daysInMonth
    repeat' split
    all_goals decide
  have hday := d.day_mem.2
  omega

/-- A second that is written as the sixtieth is read as a leap second. Only the last one of a minute
is written so. -/
theorem Time.ofParts?_self (t : Time) :
    Time.ofParts? t.hour t.minute (t.second + t.nanosecond / 1000000000)
      (t.nanosecond % 1000000000) = some t := by
  have hnanosecond := t.nanosecond_lt
  have hparts : Time.ofParts? t.hour t.minute t.second t.nanosecond = some t := by
    have hne : t.second ≠ 60 := Nat.ne_of_lt t.second_lt
    simp only [Time.ofParts?, hne, if_false]
    rw [dif_pos t.hour_lt, dif_pos t.minute_lt, dif_pos t.second_lt, dif_pos t.nanosecond_lt]
  by_cases hleap : t.nanosecond < 1000000000
  · rw [Nat.div_eq_of_lt hleap, Nat.mod_eq_of_lt hleap]
    exact hparts
  · have hlast : t.second = 59 := by
      by_contra hne
      rw [if_neg hne] at hnanosecond
      exact hleap hnanosecond
    rw [if_pos hlast] at hnanosecond
    have hquotient : t.nanosecond / 1000000000 = 1 := by omega
    have hremainder : t.nanosecond % 1000000000 + 1000000000 = t.nanosecond := by omega
    rw [hlast] at hparts
    rw [← hparts, hlast, hquotient]
    simp only [Time.ofParts?, hremainder]
    rfl

theorem Calendar.date?_write (d : Date) (rest : List Char) :
    date? (d.write ++ rest) = some (d, rest) := by
  have hmonth : d.month < 10 ^ 2 := by have := d.month_mem; omega
  have hday : d.day < 10 ^ 2 := d.day_lt
  have htext : d.write ++ rest =
      writeYear d.year ++ '-' :: (padded 2 d.month ++ '-' :: (padded 2 d.day ++ rest)) := by
    simp [Date.write]
  rw [htext]
  unfold date?
  rw [year?_writeYear]
  simp only [Option.bind_eq_bind, Option.bind_some, mark?_cons, part?_padded (by decide) hmonth,
    part?_padded (by decide) hday, Date.ofParts?_self]
  rfl

theorem Calendar.time?_write (t : Time) : time? t.write = some (t, []) := by
  have hhour : t.hour < 10 ^ 2 := by have := t.hour_lt; omega
  have hminute : t.minute < 10 ^ 2 := by have := t.minute_lt; omega
  have hsecond : t.second + t.nanosecond / 1000000000 < 10 ^ 2 := by
    have h := t.second_lt
    have h' := t.nanosecond_lt
    split at h' <;> omega
  have htext : t.write = padded 2 t.hour ++ ':' :: (padded 2 t.minute ++ ':' ::
      (padded 2 (t.second + t.nanosecond / 1000000000) ++
        writeFraction (t.nanosecond % 1000000000))) := by
    simp [Time.write]
  rw [htext]
  unfold time?
  rw [part?_padded (by decide) hhour]
  simp only [Option.bind_eq_bind, Option.bind_some, mark?_cons, part?_padded (by decide) hminute,
    part?_padded (by decide) hsecond,
    fraction?_writeFraction (Nat.mod_lt t.nanosecond (by decide)), Time.ofParts?_self]
  rfl

/-- Every date is read back from its text. -/
theorem Date.read?_write (d : Date) : Date.read? d.write = some d := by
  have hdate := date?_write d []
  rw [List.append_nil] at hdate
  rw [Date.read?, hdate]
  rfl

/-- Every date with a time is read back from its text. -/
theorem DateTime.read?_write (t : DateTime) : DateTime.read? (t.write ' ') = some t := by
  have htime : trimStart (' ' :: t.time.write) = t.time.write := by
    change trimStart t.time.write = _
    simp only [Time.write, List.append_assoc]
    exact trimStart_padded 2 t.time.hour _
  rw [DateTime.write, DateTime.read?, date?_write]
  simp only [Option.bind_eq_bind, Option.bind_some, htime, time?_write]
  rfl

/-! ## Blanks in written dates and times -/

variable {c : Char}

theorem not_isBlank_of_mem_writeYear {year : Int} (hc : c ∈ writeYear year) :
    isBlank c = false := by
  unfold writeYear at hc
  split at hc
  · exact not_isBlank_of_mem_padded hc
  · rcases List.mem_cons.1 hc with rfl | hdigit
    · split <;> rfl
    · exact not_isBlank_of_mem_padded hdigit

theorem Date.not_isBlank_of_mem_write {d : Date} (hc : c ∈ d.write) : isBlank c = false := by
  simp only [Date.write, List.mem_append, List.mem_cons, or_assoc] at hc
  rcases hc with hyear | rfl | hmonth | rfl | hday
  · exact not_isBlank_of_mem_writeYear hyear
  · rfl
  · exact not_isBlank_of_mem_padded hmonth
  · rfl
  · exact not_isBlank_of_mem_padded hday

theorem Time.not_isBlank_of_mem_write {t : Time} (hc : c ∈ t.write) : isBlank c = false := by
  simp only [Time.write, List.mem_append, List.mem_cons, or_assoc] at hc
  rcases hc with hhour | rfl | hminute | rfl | hsecond | hfraction
  · exact not_isBlank_of_mem_padded hhour
  · rfl
  · exact not_isBlank_of_mem_padded hminute
  · rfl
  · exact not_isBlank_of_mem_padded hsecond
  · rcases writeFraction_cases (Nat.mod_lt t.nanosecond (by decide)) with
      ⟨-, htext⟩ | ⟨width, m, -, -, -, -, htext⟩
    · rw [htext] at hfraction
      cases hfraction
    · rw [htext] at hfraction
      rcases List.mem_cons.1 hfraction with rfl | hdigit
      · rfl
      · exact not_isBlank_of_mem_padded hdigit

/-- The one blank of a date with a time stands between them. -/
theorem DateTime.isTrimmed_write (t : DateTime) : IsTrimmed (t.write ' ') := by
  have hdate : IsTrimmed t.date.write :=
    isTrimmed_of_forall fun c ↦ Date.not_isBlank_of_mem_write
  have htime : IsTrimmed t.time.write :=
    isTrimmed_of_forall fun c ↦ Time.not_isBlank_of_mem_write
  have hbetween := hdate.between (by simp [Date.write]) [' '] htime (by simp [Time.write])
  rwa [List.append_assoc, List.singleton_append] at hbetween

end EntitySql
