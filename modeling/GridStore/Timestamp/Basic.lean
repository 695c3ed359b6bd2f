/-!
# Timestamps

An instant in universal time to the nanosecond: a day of the Gregorian calendar, extended to both
sides of the years in which it was kept, and a time of that day. A leap second is held as the
second before it with a thousand million nanoseconds or more.
-/

namespace GridStore

/-- Whether February has 29 days. -/
def isLeapYear (year : Int) : Bool :=
  year % 4 = 0 && (year % 100 ≠ 0 || year % 400 = 0)

/-- How many days a month has. -/
def daysInMonth (year : Int) (month : Nat) : Nat :=
  match month with
  | 2 => if isLeapYear year then 29 else 28
  | 4 | 6 | 9 | 11 => 30
  | _ => 31

/-- The earliest year of a date. -/
def minYear : Int := -262143

/-- The latest year of a date. -/
def maxYear : Int := 262142

/-- A day of the calendar. -/
@[ext]
structure Date where
  year : Int
  month : Nat
  day : Nat
  year_mem : minYear ≤ year ∧ year ≤ maxYear
  month_mem : 1 ≤ month ∧ month ≤ 12
  day_mem : 1 ≤ day ∧ day ≤ daysInMonth year month
deriving DecidableEq, Repr

namespace Date

/-- The day with the given number of a month, if the calendar has it. -/
def of? (year : Int) (month day : Nat) : Option Date :=
  if h : (minYear ≤ year ∧ year ≤ maxYear) ∧ (1 ≤ month ∧ month ≤ 12) ∧
      (1 ≤ day ∧ day ≤ daysInMonth year month) then
    some ⟨year, month, day, h.1, h.2.1, h.2.2⟩
  else none

/-- The day after, if there is one. -/
def next? (d : Date) : Option Date :=
  if d.day < daysInMonth d.year d.month then of? d.year d.month (d.day + 1)
  else if d.month < 12 then of? d.year (d.month + 1) 1
  else of? (d.year + 1) 1 1

/-- The day before, if there is one. -/
def previous? (d : Date) : Option Date :=
  if 1 < d.day then of? d.year d.month (d.day - 1)
  else if 1 < d.month then of? d.year (d.month - 1) (daysInMonth d.year (d.month - 1))
  else of? (d.year - 1) 12 31

end Date

/-- An instant in universal time. -/
@[ext]
structure Timestamp where
  date : Date
  /-- The second of the day. -/
  second : Nat
  /-- The nanosecond of the second; past the thousand millionth, that of the leap second after
  it. -/
  nano : Nat
  second_lt : second < 86400
  nano_lt : nano < 2000000000
  /-- A leap second ends a minute. Those off the end of one are left out: no text gives them, only
  setting the nanosecond of an instant that is had. -/
  leap : 1000000000 ≤ nano → second % 60 = 59
deriving DecidableEq, Repr

namespace Timestamp

/-- The first instant of 1970. -/
def epoch : Timestamp :=
  { date := ⟨1970, 1, 1, by decide, by decide, by decide⟩
    second := 0
    nano := 0
    second_lt := by decide
    nano_lt := by decide
    leap := by decide }

instance : Inhabited Timestamp := ⟨epoch⟩

/-- The instant at a second of a day, if the nanosecond is one of it. -/
def of? (date : Date) (second nano : Nat) : Option Timestamp :=
  if h : second < 86400 ∧ nano < 2000000000 ∧ (1000000000 ≤ nano → second % 60 = 59) then
    some ⟨date, second, nano, h.1, h.2.1, h.2.2⟩
  else none

/-- The day and the minute of the day, of a minute counted from the start of a day that may lie
outside it by less than a day. -/
def carryDay? (date : Date) (minute : Int) : Option (Date × Nat) :=
  if minute < 0 then date.previous?.map (·, (minute + 1440).toNat)
  else if 1440 ≤ minute then date.next?.map (·, (minute - 1440).toNat)
  else some (date, minute.toNat)

/-- The instant at a local time, if there is one: a date, the hour, minute and second (60 in a leap
second), a nanosecond, and how many minutes the local clock is ahead of universal time. -/
def ofLocal? (date : Date) (hour minute second nano : Nat) (offset : Int) : Option Timestamp := do
  if hour < 24 ∧ minute < 60 ∧ second ≤ 60 ∧ nano < 1000000000 ∧ offset.natAbs < 1440 then
    let (date, minute) ← carryDay? date (hour * 60 + minute - offset)
    if second = 60 then of? date (minute * 60 + 59) (nano + 1000000000)
    else of? date (minute * 60 + second) nano
  else none

end Timestamp

end GridStore
