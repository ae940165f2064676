import Rollout.Number.Numeral
import Rollout.Time.DateTime

/-!
# Rollout.Time.Reading

Date-times as texts and numbers spell them.

* `ofTimestamp?` — a timestamp of an API document: a date, a separator and a time, with an optional
  fraction and offset; or a bare date; or a number of seconds since 1970;
* `ofSeconds?`, `ofFloat?` — such a number, counted in milliseconds if it is large.
-/

namespace Rollout.DateTime

/-! ## pieces -/

/-- A number of exactly `width` ASCII digits, and the rest. -/
def number? (width : Nat) (cs : List Char) : Option (Nat × List Char) :=
  if (cs.take width).length = width ∧ (cs.take width).all Char.isDigit then
    some (Text.ofAscii (cs.take width), cs.drop width)
  else none

/-- The rest after the given character. -/
def skip? (c : Char) : List Char → Option (List Char)
  | [] => none
  | d :: r => if c = d then some r else none

/-- `YYYY-MM-DD`. -/
def date? (cs : List Char) : Option (Nat × List Char) := do
  let (year, cs) ← number? 4 cs
  let (month, cs) ← number? 2 (← skip? '-' cs)
  let (dayOfMonth, cs) ← number? 2 (← skip? '-' cs)
  return (← Time.dayOf? year month dayOfMonth, cs)

/-- The digits of a fraction of a second as microseconds; those past the sixth are cut off. -/
def micros (digits : List Char) : Nat :=
  Text.ofAscii ((digits ++ List.replicate 6 '0').take 6)

/-- A fraction of a second, if a point or comma follows; it needs a digit. -/
def fraction? : List Char → Option (Nat × List Char)
  | c :: cs =>
    if c = '.' ∨ c = ',' then
      let shown := cs.takeWhile Char.isDigit
      if shown = [] then none else some (micros shown, cs.dropWhile Char.isDigit)
    else some (0, c :: cs)
  | [] => some (0, [])

/-! ## timestamps of API documents -/

/-- `HH:MM`, then optional seconds with an optional fraction; as microseconds of the day. -/
def clock? (cs : List Char) : Option (Nat × List Char) := do
  let (hour, cs) ← number? 2 cs
  let (min, cs) ← number? 2 (← skip? ':' cs)
  guard (hour < 24 ∧ min < 60)
  let (sec, micro, cs) ← match cs with
    | ':' :: r => do
      let (sec, r) ← number? 2 r
      guard (sec < 60)
      let (micro, r) ← fraction? r
      pure (sec, micro, r)
    | r => pure (0, 0, r)
  return ((hour * 3600 + min * 60 + sec) * second + micro, cs)

/-- An offset to the end of the text: `Z`, `±HH:MM` or `±HHMM`, below a day; or none. -/
def offset? : List Char → Option (Option Int)
  | [] => some none
  | ['Z'] | ['z'] => some (some 0)
  | sign :: cs => do
    guard (sign = '+' ∨ sign = '-' ∨ sign = '\u2212')
    let (hours, cs) ← number? 2 cs
    let cs := match cs with
      | ':' :: r => r
      | r => r
    let (minutes, cs) ← number? 2 cs
    guard (cs = [] ∧ minutes < 60 ∧ hours < 24)
    let size : Int := (hours * 60 + minutes : Nat) * minute
    return some (if sign = '+' then size else -size)

/-- A date, one of the separators `T`, `t`, blank and `_`, a time and an offset. -/
def rfc3339? (cs : List Char) : Option DateTime := do
  let (days, cs) ← date? cs
  match cs with
  | [] => none
  | sep :: cs =>
    guard (sep = 'T' ∨ sep = 't' ∨ sep = ' ' ∨ sep = '_')
    let (clock, cs) ← clock? cs
    return ⟨days * day + clock, ← offset? cs⟩

/-- A bare date is its midnight, without an offset. -/
def bareDate? (cs : List Char) : Option DateTime := do
  let (days, cs) ← date? cs
  guard (cs = [])
  return ofDay days

/-! ## numbers of seconds -/

/-- The largest number that counts seconds and not milliseconds. -/
def watershed : Nat := 20000000000

/-- The moment `seconds` and `micros` after the start of 1970, in UTC. -/
def ofUnix? (seconds : Int) (micros : Nat) : Option DateTime :=
  let wall := (epoch : Int) + seconds * second + micros
  if 0 ≤ wall ∧ wall < wallLimit then some ⟨wall.toNat, some 0⟩ else none

/-- The moment `millis` and `micros` after the start of 1970, in UTC. -/
def ofMillis? (millis : Int) (micros : Nat) : Option DateTime :=
  ofUnix? (Int.fdiv millis 1000) ((Int.fmod millis 1000).toNat * 1000 + micros)

/-- The moment that a whole number stands for. -/
def ofSeconds? (n : Int) : Option DateTime :=
  if n.natAbs ≤ watershed then ofUnix? n 0 else ofMillis? n 0

/-- The microseconds nearest to a fraction that is counted in `unit` microseconds; a half is rounded
up. -/
def roundMicros (fraction : Binary64) (unit : Nat) : Nat :=
  match fraction * Binary64.ofQuotient false unit 1 with
  | .finite _ units => (2 * units + Binary64.one) / (2 * Binary64.one)
  | _ => 0

/-- The moment that a floating point number stands for: the whole number below it, and the fraction
above that to the microsecond. -/
def ofFloat? (x : Binary64) : Option DateTime := do
  let whole ← x.floor?
  let fraction := x + -(Binary64.ofQuotient (whole < 0) whole.natAbs 1)
  let limit := Binary64.ofQuotient false watershed 1
  if limit.lt x ∨ x.lt (-limit) then ofMillis? whole (roundMicros fraction 1000)
  else ofUnix? whole (roundMicros fraction second)

/-- A numeral of seconds: a sign and digits.  With a point it is a floating point number, and a power
of ten may follow. -/
def secondsText? (cs : List Char) : Option DateTime := do
  let (negative, body) := splitSign cs
  let whole := body.takeWhile Char.isDigit
  guard (Text.ofAscii whole < Nat.pow 2 63)
  match body.drop whole.length with
  | [] =>
    guard (whole ≠ [])
    ofSeconds? (if negative then -(Text.ofAscii whole : Int) else Text.ofAscii whole)
  | '.' :: _ => ofFloat? (← Binary64.ofNumeral? cs)
  | _ => none

/-- A timestamp of an API document. -/
def ofTimestamp? (s : String) : Option DateTime :=
  (rfc3339? s.toList).or ((bareDate? s.toList).or (secondsText? s.toList))

end Rollout.DateTime
