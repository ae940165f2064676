import Rollout.Time.Reading

/-!
# Rollout.Time.Iso

Date-times in ISO 8601, as a caller may write them: a date in one of six forms, any character as a
separator, a clock and an offset.

* `isoDate?` — `YYYY-MM-DD`, `YYYYMMDD`, `YYYY-Www-D`, `YYYYWwwD` and the two forms of a week;
* `isoClock?` — `HH`, `HH:MM` or `HH:MM:SS`, or the same without colons, with a fraction;
* `ofIso?` — the whole notation.
-/

namespace Rollout

namespace Time

/-- The day of the week of a day, Monday being the first and 0. -/
def weekday (day : Nat) : Nat := day % 7

/-- A year has a week 53 if it starts on a Thursday, or on a Wednesday before a leap day. -/
def isLong (year : Nat) : Bool :=
  let first := weekday (daysBeforeYear year)
  first = 3 || (first = 2 && isLeap year)

/-- The day of a week of a year; the first week is the one that holds the first Thursday. -/
def weekDay? (year week day : Nat) : Option Nat :=
  let newYear := daysBeforeYear year
  let monday := if weekday newYear ≤ 3 then newYear - weekday newYear
    else newYear + 7 - weekday newYear
  let found := monday + (week - 1) * 7 + (day - 1)
  if 1 ≤ year ∧ year ≤ 9999 ∧ 1 ≤ week ∧ (week ≤ 52 ∨ week = 53 ∧ isLong year) ∧ 1 ≤ day ∧ day ≤ 7 ∧
      found < daysBeforeYear 10000 then some found
  else none

/-- The year 1 starts on a Monday; 2020 has 53 weeks and 2021 starts within the last of them. -/
example : weekDay? 1 1 1 = some 0 ∧ weekDay? 2020 53 5 = dayOf? 2021 1 1 ∧
    weekDay? 2021 53 1 = none ∧ weekDay? 9999 52 6 = none := by decide

end Time

namespace DateTime

/-! ## dates -/

/-- A week of a year, with the digit of a day if `length` is more than that of the week; the week
alone stands for its Monday. -/
def isoWeek? (dashed : Bool) (year : Nat) (cs : List Char) : Option Nat := do
  let (week, cs) ← number? 2 cs
  if cs = [] then Time.weekDay? year week 1
  else
    let (day, cs) ← number? 1 (← if dashed then skip? '-' cs else some cs)
    guard (cs = [])
    Time.weekDay? year week day

/-- The day that a date of the given form spells. -/
def isoDate? (cs : List Char) : Option Nat := do
  let (year, cs) ← number? 4 cs
  let dashed := cs.head? = some '-'
  let cs := if dashed then cs.drop 1 else cs
  match cs with
  | 'W' :: cs => isoWeek? dashed year cs
  | cs =>
    let (month, cs) ← number? 2 cs
    let (day, cs) ← number? 2 (← if dashed then skip? '-' cs else some cs)
    guard (cs = [])
    Time.dayOf? year month day

/-- How many characters of a text are its date.  A dash behind a dashed week is the separator if two
more digits follow it.  Of several digits behind a week without dashes the first is the separator if
their number is odd, because those of a clock come in pairs; otherwise it is a day. -/
def isoDateLength (cs : List Char) : Nat :=
  if cs.length = 7 then 7
  else
    match cs.drop 4 with
    | '-' :: 'W' :: _ =>
      match cs.drop 8 with
      | '-' :: _ :: c :: _ => if c.isDigit then 8 else 10
      | '-' :: _ => 10
      | _ => 8
    | '-' :: _ => 10
    | 'W' :: _ :: _ :: rest =>
      match (rest.takeWhile Char.isDigit).length with
      | 0 => 7
      | 1 => 8
      | n => if n % 2 = 1 then 7 else 8
    | _ => 8

/-! ## clocks -/

/-- What follows two digits of a clock. -/
inductive ClockPart where
  | done (rest : List Char)
  | pair (cs : List Char)
  | fraction (cs : List Char)

/-- A single ASCII character ends the clock, whatever it is. -/
def clockPart? (colons : Bool) (cs : List Char) : Option ClockPart :=
  match cs with
  | c :: r =>
    if r = [] ∧ c.toNat < 128 then some (.done cs)
    else if colons ∧ c = ':' then some (.pair r)
    else if c = '.' ∨ c = ',' then some (.fraction r)
    else if colons then none
    else some (.pair cs)
  | [] => some (.done [])

/-- Up to six digits as microseconds; more digits are skipped. -/
def isoFraction? (cs : List Char) : Option (Nat × List Char) := do
  let (value, rest) ← number? (min 6 cs.length) cs
  return (value * Nat.pow 10 (6 - cs.length), rest.dropWhile Char.isDigit)

/-- The pairs of digits behind the hour, at most `more` of them, and microseconds. -/
def isoPairs? (colons : Bool) : (more : Nat) → List Char → Option (List Nat × Nat × List Char)
  | more, cs => do
    match ← clockPart? colons cs, more with
    | .done rest, _ => return ([], 0, rest)
    | .fraction cs, _ | .pair cs, 0 =>
      let (micro, rest) ← isoFraction? cs
      return ([], micro, rest)
    | .pair cs, more + 1 =>
      let (n, cs) ← number? 2 cs
      let (ns, micro, rest) ← isoPairs? colons more cs
      return (n :: ns, micro, rest)

/-- A clock: hours, minutes, seconds and microseconds, and what is left of the text. -/
def isoClock? (cs : List Char) : Option ((Nat × Nat × Nat × Nat) × List Char) := do
  let (hour, cs) ← number? 2 cs
  let (ns, micro, rest) ← isoPairs? (cs.head? = some ':') 2 cs
  return ((hour, ns.getD 0 0, ns.getD 1 0, micro), rest)

/-- The offset at the end of a time.  One that is less than a second is none at all. -/
def isoOffset? : List Char → Option (Option Int)
  | [] => some none
  | ['Z'] => some (some 0)
  | sign :: cs => do
    guard (sign = '+' ∨ sign = '-')
    let ((hour, min, sec, micro), rest) ← isoClock? cs
    let seconds := hour * 3600 + min * 60 + sec
    let size := if seconds = 0 then 0 else seconds * second + micro
    guard (rest = [] ∧ size < day)
    return some (if sign = '+' then size else -(size : Int))

/-- What an offset begins with. -/
def isOffsetSign (c : Char) : Bool := c = '+' || c = '-' || c = 'Z'

/-- A clock with an offset, or to the end of the text. -/
def isoTime? (days : Nat) (cs : List Char) : Option DateTime := do
  let ((hour, min, sec, micro), rest) ← isoClock? (cs.takeWhile fun c => !isOffsetSign c)
  let offset ← isoOffset? (cs.dropWhile fun c => !isOffsetSign c)
  guard (rest = [] ∨ offset.isSome)
  guard (hour < 24 ∧ min < 60 ∧ sec < 60)
  return ⟨days * day + (hour * 3600 + min * 60 + sec) * second + micro, offset⟩

/-- A date-time in ISO 8601: a date, and possibly any separator and a time. -/
def ofIso? (s : String) : Option DateTime := do
  let length := isoDateLength s.toList
  let days ← isoDate? (s.toList.take length)
  match s.toList.drop length with
  | [] => return ofDay days
  | _ :: cs => isoTime? days cs

end DateTime

end Rollout
