/-
# Dates

A date of the Gregorian calendar, which is taken to hold for all years; the year before year 1 is
year 0.  Days are counted from the first day of year 1, a Monday.  A week of the week calendar
belongs to the year that its Thursday lies in.
-/

namespace ChatConsole
namespace Calendar

/-- A date. -/
structure Date where
  year : Int
  /-- From 1. -/
  month : Nat
  /-- Day of the month, from 1. -/
  day : Nat
  deriving DecidableEq, Repr, Inhabited

/-- Whether a year has a leap day: every fourth has, of the full centuries every fourth. -/
def isLeap (year : Int) : Bool :=
  year % 4 = 0 && (year % 100 != 0 || year % 400 = 0)

/-- Days of each month. -/
def monthLengths (year : Int) : List Nat :=
  [31, if isLeap year then 29 else 28, 31, 30, 31, 30, 31, 31, 30, 31, 30, 31]

/-- Days of some months together. -/
def daysOf (lengths : List Nat) : Nat :=
  lengths.foldr (· + ·) 0

/-- Days from the first day of year 1 to the first day of a year. -/
def daysBeforeYear (year : Int) : Int :=
  let passed := year - 1
  365 * passed + passed / 4 - passed / 100 + passed / 400

namespace Date

/-- Day of the year, from 1. -/
def dayOfYear (d : Date) : Nat :=
  daysOf ((monthLengths d.year).take (d.month - 1)) + d.day

/-- Days from the first day of year 1. -/
def dayNumber (d : Date) : Int :=
  daysBeforeYear d.year + d.dayOfYear - 1

/-- Days since Monday. -/
def weekday (d : Date) : Nat :=
  (d.dayNumber % 7).toNat

/-- Days since Sunday. -/
def daysSinceSunday (d : Date) : Nat :=
  (d.weekday + 1) % 7

/-- Number of weeks begun in the year so far, when the present week began `ago` days ago. -/
def weeksBegun (d : Date) (ago : Nat) : Nat :=
  (d.dayOfYear + 6 - ago) / 7

/-- Weeks in a year of the week calendar: one more than 52 when the year begins on a Thursday, or
ends on one. -/
def weeksIn (year : Int) : Nat :=
  if weekday ⟨year, 1, 1⟩ = 3 ∨ weekday ⟨year, 12, 31⟩ = 3 then 53 else 52

/-- Year and week in the week calendar. -/
def week (d : Date) : Int × Nat :=
  let week := (d.dayOfYear + 9 - d.weekday) / 7
  if week = 0 then (d.year - 1, weeksIn (d.year - 1))
  else if week > weeksIn d.year then (d.year + 1, 1)
  else (d.year, week)

/-- Quarter of the year, from 1. -/
def quarter (d : Date) : Nat :=
  (d.month + 2) / 3

end Date

/-- How far a clock is from universal time. -/
inductive Zone where
  | universal
  /-- Some seconds ahead. -/
  | ahead (seconds : Int)
  deriving DecidableEq, Repr, Inhabited

namespace Zone

/-- Seconds ahead of universal time. -/
def seconds : Zone → Int
  | universal => 0
  | ahead s => s

end Zone

/-- A moment as a clock shows it. -/
structure Moment where
  date : Date
  hour : Nat
  minute : Nat
  second : Nat
  /-- Nanoseconds; a thousand million more in a leap second. -/
  nano : Nat
  zone : Zone
  deriving DecidableEq, Repr, Inhabited

namespace Moment

/-- Nanoseconds of a second. -/
def nanosPerSecond : Nat := 1000000000

/-- The second as it is shown: 60 in a leap second. -/
def shownSecond (m : Moment) : Nat :=
  m.second + m.nano / nanosPerSecond

/-- The part of the second that has passed. -/
def fraction (m : Moment) : Nat :=
  m.nano % nanosPerSecond

/-- The hour on a dial. -/
def dialHour (m : Moment) : Nat :=
  if m.hour % 12 = 0 then 12 else m.hour % 12

def isAfternoon (m : Moment) : Bool :=
  m.hour ≥ 12

/-- Days from the first day of year 1 to the first of 1970. -/
def epochDay : Int := 719162

/-- Seconds since the start of 1970 in universal time, leap seconds left out. -/
def timestamp (m : Moment) : Int :=
  (m.date.dayNumber - epochDay) * 86400 + (m.hour * 3600 + m.minute * 60 + m.second : Nat)
    - m.zone.seconds

end Moment
end Calendar
end ChatConsole
