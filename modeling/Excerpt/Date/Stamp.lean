import Excerpt.Text.Basic

/-!
# Dates and times

A stamp is a date of the Gregorian calendar, a time of day to the microsecond, and an optional offset from universal
time. `Stamp.iso` writes it in the form `2024-01-15T10:00:00+01:00`.
-/

namespace Excerpt

/-- A date and time; the offset from universal time is in microseconds. -/
structure Stamp where
  year : Nat
  month : Nat
  day : Nat
  hour : Nat
  minute : Nat
  second : Nat
  micro : Nat
  offset : Option Int
deriving DecidableEq, Repr

namespace Calendar

/-- Whether a year has a day more. -/
def isLeap (year : Nat) : Bool :=
  year % 4 == 0 && (year % 100 != 0 || year % 400 == 0)

/-- The number of days of a month. -/
def daysInMonth (year month : Nat) : Nat :=
  if month = 2 then (if isLeap year then 29 else 28)
  else if month = 4 ∨ month = 6 ∨ month = 9 ∨ month = 11 then 30
  else 31

/-- The number of days of a year. -/
def daysInYear (year : Nat) : Nat :=
  if isLeap year then 366 else 365

/-- The month and day of the `n`-th day counted from the start of a month. -/
def monthDay (year : Nat) : Nat → Nat → Nat → Nat × Nat
  | 0, month, n => (month, n)
  | fuel + 1, month, n =>
    if n ≤ daysInMonth year month then (month, n) else monthDay year fuel (month + 1) (n - daysInMonth year month)

/-- The date of the `n`-th day of a year. Days before its first one belong to the year before, days after its last one
to the year after; there are dates in the years from 1 to 9999 only. -/
def ofDayOfYear? (year : Nat) (n : Int) : Option (Nat × Nat × Nat) :=
  let (year', month, day) :=
    if n < 1 then (year - 1, monthDay (year - 1) 12 1 (n + daysInYear (year - 1)).toNat)
    else if daysInYear year < n then (year + 1, monthDay (year + 1) 12 1 (n - daysInYear year).toNat)
    else (year, monthDay year 12 1 n.toNat)
  if 1 ≤ year ∧ 1 ≤ year' ∧ year' ≤ 9999 then some (year', month, day) else none

/-! ### Weeks

Days of the week are numbered from Monday, which is 0. -/

/-- The day of the week of the first of January. -/
def firstWeekday (year : Nat) : Nat :=
  let y := year - 1
  (365 * y + y / 4 - y / 100 + y / 400) % 7

/-- The day of the year that is a day of a numbered week, where weeks begin on Sunday or on Monday. Week 1 begins with
the first such day of the year, and the days before it are in week 0. -/
def dayOfWeek (year week weekday : Nat) (fromSunday : Bool) : Int :=
  let shift := if fromSunday then 1 else 0
  let first := (firstWeekday year + shift) % 7
  let day := (weekday + shift) % 7
  if week = 0 then 1 + day - first else 1 + ((7 - first) % 7 : Nat) + 7 * ((week : Int) - 1) + day

/-- The day of the year that is a day of a numbered week, where weeks begin on Monday and week 1 is the one with 4
January. -/
def dayOfIsoWeek (year week weekday : Nat) : Int :=
  7 * (week : Int) + weekday - 3 - ((firstWeekday year + 3) % 7 : Nat)

end Calendar

namespace Stamp

/-- The microseconds of a day. -/
def dayLength : Int :=
  86400000000

/-- Whether the stamp names a day and a time that exist, in the years from 1 to 9999. -/
def isValid (s : Stamp) : Bool :=
  1 ≤ s.year && s.year ≤ 9999 && 1 ≤ s.month && s.month ≤ 12 && 1 ≤ s.day &&
  s.day ≤ Calendar.daysInMonth s.year s.month &&
    s.hour < 24 && s.minute < 60 && s.second < 60 && s.micro < 1000000 &&
    match s.offset with
    | none => true
    | some o => -dayLength < o && o < dayLength

/-- A number with leading zeros. -/
def padded (width n : Nat) : Text :=
  let ds := Text.ofNat n
  List.replicate (width - ds.length) '0' ++ ds

/-- The offset in hours and minutes, with seconds and microseconds only if they are needed. -/
def isoOffset (o : Int) : Text :=
  let n := o.natAbs
  let seconds := n / 1000000
  let micro := n % 1000000
  let sign : Char := if o < 0 then '-' else '+'
  let tail : Text :=
    (if seconds % 60 = 0 ∧ micro = 0 then [] else ':' :: padded 2 (seconds % 60)) ++
      (if micro = 0 then [] else '.' :: padded 6 micro)
  sign :: padded 2 (seconds / 3600) ++ ':' :: padded 2 (seconds / 60 % 60) ++ tail

/-- The written form of the stamp; microseconds are left out if they are zero. -/
def iso (s : Stamp) : Text :=
  padded 4 s.year ++ '-' :: padded 2 s.month ++ '-' :: padded 2 s.day ++ 'T' :: padded 2 s.hour ++
    ':' :: padded 2 s.minute ++ ':' :: padded 2 s.second ++
    (if s.micro = 0 then [] else '.' :: padded 6 s.micro) ++
    (match s.offset with
      | none => []
      | some o => isoOffset o)

end Stamp

end Excerpt
