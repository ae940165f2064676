import Rollout.Number.Binary64
import Rollout.Text.Blank
import Rollout.Text.Digit

/-!
# Rollout.Number.Numeral

Numbers as texts spell them.

* `Binary64.ofNumeral?` — a decimal numeral in ASCII: a sign, digits with at most one point among
  them, and a power of ten behind an `e`;
* `Binary64.ofText?` — such a numeral, or a word for an infinity or for what is not a number;
* `trimmedDigits` — digits of any script in ASCII, without blanks around them;
* `wholeNumber?` — a whole number in digits of any script, with single underscores between them.
-/

namespace Rollout

/-- A sign in front, as whether it is a minus, and the rest; a missing sign is a plus. -/
def splitSign : List Char → Bool × List Char
  | '-' :: r => (true, r)
  | '+' :: r => (false, r)
  | r => (false, r)

/-! ## floating point numbers -/

/-- The power of ten behind the digits of a numeral: nothing, or a letter, a sign and digits. -/
def powerOfTen? : List Char → Option Int
  | [] => some 0
  | c :: r =>
    let (minus, digits) := splitSign r
    if (c = 'e' ∨ c = 'E') ∧ digits ≠ [] ∧ digits.all Char.isDigit then
      some (if minus then -(Text.ofAscii digits : Int) else Text.ofAscii digits)
    else none

/-- The number that a numeral spells, rounded to nearest.  There has to be a digit on at least one
side of the point. -/
def Binary64.ofNumeral? (cs : List Char) : Option Binary64 := do
  let (negative, body) := splitSign cs
  let whole := body.takeWhile Char.isDigit
  let (fraction, rest) := match body.drop whole.length with
    | '.' :: r => (r.takeWhile Char.isDigit, r.dropWhile Char.isDigit)
    | r => ([], r)
  guard (whole ≠ [] ∨ fraction ≠ [])
  let power ← powerOfTen? rest
  return .ofDecimal negative (Text.ofAscii (whole ++ fraction)) (power - fraction.length)

/-- The number that a numeral spells, or a word in any case. -/
def Binary64.ofText? (cs : List Char) : Option Binary64 :=
  let (negative, body) := splitSign cs
  let word := String.ofList (body.map Char.toLower)
  if word = "inf" ∨ word = "infinity" then some (.infinite negative)
  else if word = "nan" then some .nan
  else ofNumeral? cs

/-! ## digits of any script -/

/-- The text in ASCII, with the digits of any script and the white space of any kind replaced. -/
def asciiDigits (cs : List Char) : List Char :=
  cs.map fun c =>
    if c.toNat < 0x80 then c
    else if Text.isSpace c then ' '
    else ((Text.digit? c).map Nat.digitChar).getD '?'

/-- A text without white space at its ends, in ASCII. -/
def trimmedDigits (cs : List Char) : List Char := Text.trimList Text.isSpace (asciiDigits cs)

/-- The most decimal digits that a whole number may have. -/
def mostDigits : Nat := 4300

/-- The number that decimal digits spell, with single underscores between them. -/
def barredDigits? (cs : List Char) : Option Nat :=
  let parts := cs.splitOn '_'
  let digits := parts.flatten
  if parts.all (fun p => p ≠ [] && p.all Char.isDigit) && digits.length ≤ mostDigits then
    some (Text.ofAscii digits)
  else none

/-- A whole number with blanks around it, a sign, and single underscores between its digits. -/
def wholeNumber? (cs : List Char) : Option Int :=
  let (negative, body) := splitSign (trimmedDigits cs)
  (barredDigits? body).map fun n => if negative then -(n : Int) else n

example : wholeNumber? " +1_0".toList = some 10 ∧ wholeNumber? "١".toList = some 1 ∧
    wholeNumber? "1_".toList = none ∧ wholeNumber? "+-1".toList = none := by decide +kernel

end Rollout
