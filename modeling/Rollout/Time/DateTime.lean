import Rollout.Number.Binary64
import Rollout.Time.Calendar

/-!
# Rollout.Time.DateTime

Date-times to the microsecond, with or without an offset from UTC.

A date-time is kept as the reading of a clock, in microseconds since the start of year 1, and the
offset of that clock.  Two date-times compare by their instants if both have an offset or neither
has one; otherwise they have no order.

* `before?`, `notBefore?` — the order, where there is one;
* `unixMillis?` — milliseconds since 1970 as a client computes them, in floating point: seconds
  rounded to a binary number, times a thousand, the fraction cut off.
-/

namespace Rollout

/-- The reading of a clock, and its offset from UTC if that is known; both in microseconds. -/
structure DateTime where
  wall : Nat
  offset : Option Int
  deriving DecidableEq, Repr, Inhabited

namespace DateTime

/-- Microseconds in a second, a minute and a day. -/
def second : Nat := 1000000
def minute : Nat := 60 * second
def day : Nat := 86400 * second

/-- The first reading past the end of year 9999. -/
def wallLimit : Nat := 3652059 * day

/-- The reading at the start of 1970. -/
def epoch : Nat := 719162 * day

/-- The date-time of a date and a time of day. -/
def ofParts? (year month dayOfMonth hour min sec micro : Nat) (offset : Option Int) :
    Option DateTime := do
  let days ← Time.dayOf? year month dayOfMonth
  guard (hour < 24 ∧ min < 60 ∧ sec < 60 ∧ micro < second)
  guard (offset.all fun o => o.natAbs < day)
  return ⟨days * day + (hour * 3600 + min * 60 + sec) * second + micro, offset⟩

/-- Midnight of a day, without an offset. -/
def ofDay (days : Nat) : DateTime := ⟨days * day, none⟩

/-- The reading of a clock in UTC at the same moment; a missing offset counts as none. -/
def instant (t : DateTime) : Int := t.wall - t.offset.getD 0

/-- The same reading, taken as UTC if no offset is known. -/
def orUtc (t : DateTime) : DateTime := { t with offset := some (t.offset.getD 0) }

/-- Both have an offset, or neither has. -/
def comparable (a b : DateTime) : Bool := a.offset.isSome == b.offset.isSome

/-- Whether `a` is earlier than `b`. -/
def before? (a b : DateTime) : Option Bool :=
  if comparable a b then some (a.instant < b.instant) else none

/-- Whether `a` is as late as `b` or later. -/
def notBefore? (a b : DateTime) : Option Bool :=
  if comparable a b then some (b.instant ≤ a.instant) else none

/-- A later date-time; none past the end of year 9999. -/
def later? (t : DateTime) (micros : Nat) : Option DateTime :=
  if t.wall + micros < wallLimit then some { t with wall := t.wall + micros } else none

/-! ## milliseconds since 1970 -/

/-- Seconds since 1970, in floating point.  With an offset they are one quotient; without one, the
whole seconds and the fraction are added, and the first day of the calendar has no answer because
the day before it is asked for. -/
def unixSeconds? (t : DateTime) : Option Binary64 :=
  match t.offset with
  | some _ =>
    let micros := t.instant - epoch
    some (Binary64.ofQuotient (micros < 0) micros.natAbs second)
  | none =>
    if t.wall < day then none
    else
      let whole : Int := (t.wall / second : Nat) - (epoch / second : Nat)
      some (Binary64.ofQuotient (whole < 0) whole.natAbs 1 +
        Binary64.ofQuotient false (t.wall % second) second)

/-- Milliseconds since 1970. -/
def unixMillis? (t : DateTime) : Option Int := do
  let seconds ← t.unixSeconds?
  (seconds * Binary64.ofQuotient false 1000 1).truncate?

/-! ## text -/

/-- The last `width` decimal digits of a number. -/
def digits (width n : Nat) : List Char :=
  (List.range width).reverse.map fun i => Nat.digitChar (n / Nat.pow 10 i % 10)

/-- The text of a day. -/
def dayText (days : Nat) : String :=
  let (year, month, dayOfMonth) := Time.dateOf days
  String.ofList (digits 4 year ++ '-' :: digits 2 month ++ '-' :: digits 2 dayOfMonth)

/-- The text of an offset, to the minute. -/
def offsetText (offset : Int) : String :=
  let minutes := offset.natAbs / minute
  String.ofList ((if offset < 0 then '-' else '+') :: digits 2 (minutes / 60) ++
    ':' :: digits 2 (minutes % 60))

/-- The text of a date-time, with six digits of a second. -/
def text (t : DateTime) : String :=
  let micros := t.wall % day
  let seconds := micros / second
  dayText (t.wall / day) ++
    String.ofList ('T' :: digits 2 (seconds / 3600) ++ ':' :: digits 2 (seconds / 60 % 60) ++
      ':' :: digits 2 (seconds % 60) ++ '.' :: digits 6 (micros % second)) ++
    (t.offset.map offsetText).getD ""

end DateTime

end Rollout
