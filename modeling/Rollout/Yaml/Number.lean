import Rollout.Number.Numeral
import Rollout.Time.DateTime
import Rollout.Yaml.Cursor
import Rollout.Yaml.Tag

/-!
# Rollout.Yaml.Number

The numbers and timestamps that scalars spell.  A scalar with an explicit tag may hold any
text, so each reading can fail.

* `integer` — in base two, eight, ten, sixteen or sixty;
* `real` — with a point, in base ten or sixty, an infinity, or not a number;
* `instant` — a date, or a date-time.
-/

namespace Rollout.Yaml

/-- The letter that may stand after a zero to announce a base. -/
def baseLetter? : Nat → Option Char
  | 2 => some 'b'
  | 8 => some 'o'
  | 16 => some 'x'
  | _ => none

/-- A whole number in one base.  In base ten, at most `mostDigits` digits have a value. -/
def numeral (base : Nat) (cs : List Char) : Except Fault Int :=
  let (negative, body) := splitSign (trimmedDigits cs)
  let body := match body with
    | '0' :: c :: r => if baseLetter? base = some c.toLower then r else body
    | _ => body
  match Text.ofAscii? base body with
  | none => .error .value
  | some n =>
    if body = [] ∨ (base = 10 ∧ mostDigits < body.length) then .error .value
    else .ok (if negative then -n else n)

/-- The first character as a sign, and the rest. -/
def leadingSign (cs : List Char) : Except Fault (Bool × List Char) :=
  match cs with
  | [] => .error .emptyNumber
  | c :: rest => .ok (c = '-', if c = '+' ∨ c = '-' then rest else cs)

/-- The sum of the parts of a number in base sixty, the last one counting ones. -/
def sixtieths (parts : List Int) : Int := parts.foldl (fun sum part => sum * 60 + part) 0

/-- A whole number. -/
def integer (s : String) : Except Fault Int := do
  let (negative, body) ← leadingSign (s.toList.filter (· ≠ '_'))
  let size ← match body with
    | [] => .error .emptyNumber
    | ['0'] => .ok 0
    | '0' :: 'b' :: digits => numeral 2 digits
    | '0' :: 'x' :: digits => numeral 16 digits
    | '0' :: _ => numeral 8 body
    | _ =>
      if ':' ∈ body then ((Tag.colonParts body).mapM (numeral 10)).map sixtieths
      else numeral 10 body
  return if negative then -size else size

example : (integer "-1:30").toOption = some (-90) := by decide +kernel

/-- A decimal numeral with blanks around it, or a word. -/
def decimal? (cs : List Char) : Option Binary64 := Binary64.ofText? (trimmedDigits cs)

/-- The sum of the parts of a number in base sixty, from the last to the first; each weight has to
be a finite number. -/
def sixtiethSum : List Binary64 → Nat → Binary64 → Except Fault Binary64
  | [], _, sum => .ok sum
  | part :: rest, weight, sum => do
    let some w := Binary64.ofInt? weight | .error .overflow
    sixtiethSum rest (weight * 60) (sum + part * w)

/-- The word for what is not a number. -/
def nanWord : List Char := ".nan".toList

/-- The sign and the rest of a floating point number, in lower case and without underscores. -/
def realParts (s : String) : Except Fault (Bool × List Char) :=
  leadingSign ((s.toList.filter (· ≠ '_')).map Char.toLower)

/-- A floating point number. -/
def real (s : String) : Except Fault Binary64 := do
  let (negative, body) ← realParts s
  let size ←
    if body = ".inf".toList then .ok (.infinite false)
    else if body = nanWord then .ok .nan
    else if ':' ∈ body then do
      let some parts := (Tag.colonParts body).mapM decimal? | .error .value
      sixtiethSum parts.reverse 1 .zero
    else
      match decimal? body with
      | some x => .ok x
      | none => .error .value
  return if negative then -size else size

/-- A date, or a date-time with an optional offset. -/
def instant (s : String) : Except Fault (Nat ⊕ DateTime) :=
  match Tag.stamp? (Tag.withoutBreak s.toList) with
  | none => .error .timestamp
  | some t =>
    match t.time with
    | none =>
      match Time.dayOf? t.year t.month t.day with
      | some days => .ok (.inl days)
      | none => .error .value
    | some (hour, min, sec, fraction, zone) =>
      let micros := Text.ofAscii ((fraction ++ List.replicate 6 '0').take 6)
      let offset := zone.map fun (west, hours, minutes) =>
        let size : Int := (hours * 60 + minutes : Nat) * DateTime.minute
        if west then -size else size
      match DateTime.ofParts? t.year t.month t.day hour min sec micros offset with
      | some t => .ok (.inr t)
      | none => .error .value

end Rollout.Yaml
