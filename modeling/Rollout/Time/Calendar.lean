/-!
# Rollout.Time.Calendar

Days of the proleptic Gregorian calendar, counted from the first day of year 1.

* `dayOf?` — the day of a date, if the date exists;
* `dateOf` — the date of a day.
-/

namespace Rollout.Time

/-- Whether a year has a day more. -/
def isLeap (year : Nat) : Bool := year % 4 = 0 ∧ (year % 100 ≠ 0 ∨ year % 400 = 0)

/-- The lengths of the months. -/
def monthLengths (year : Nat) : List Nat :=
  [31, if isLeap year then 29 else 28, 31, 30, 31, 30, 31, 31, 30, 31, 30, 31]

/-- The days before the first day of a year. -/
def daysBeforeYear (year : Nat) : Nat :=
  let y := year - 1
  y * 365 + y / 4 - y / 100 + y / 400

/-- The day of a date of the years 1 to 9999. -/
def dayOf? (year month day : Nat) : Option Nat :=
  if 1 ≤ year ∧ year ≤ 9999 ∧ 1 ≤ month ∧ month ≤ 12 ∧ 1 ≤ day ∧
      day ≤ (monthLengths year).getD (month - 1) 0 then
    some (daysBeforeYear year + ((monthLengths year).take (month - 1)).foldl (· + ·) 0 + (day - 1))
  else none

/-- The year that holds a day: a first guess from the mean length of a year is at most one too
small. -/
def yearOf (day : Nat) : Nat :=
  let guess := day * 400 / 146097 + 1
  if daysBeforeYear (guess + 1) ≤ day then guess + 1
  else if daysBeforeYear guess ≤ day then guess else guess - 1

/-- The month and the day within it of a day of the year. -/
def monthDay (rest : Nat) : List Nat → Nat → Nat × Nat
  | [], month => (month, rest + 1)
  | length :: more, month =>
    if rest < length then (month, rest + 1) else monthDay (rest - length) more (month + 1)

/-- The year, month and day of a day. -/
def dateOf (day : Nat) : Nat × Nat × Nat :=
  let year := yearOf day
  (year, monthDay (day - daysBeforeYear year) (monthLengths year) 1)

/-- The last days of the calendar. -/
example : dayOf? 9999 12 31 = some 3652058 ∧ dateOf 3652058 = (9999, 12, 31) ∧
    dateOf (daysBeforeYear 2000 + 59) = (2000, 2, 29) ∧ dayOf? 1900 2 29 = none := by decide

end Rollout.Time
