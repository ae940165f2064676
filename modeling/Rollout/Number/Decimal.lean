import Rollout.Number.Binary64
import Rollout.Text.Blank
import Rollout.Text.Digit

/-!
# Rollout.Number.Decimal

Decimal numbers as they are written: a sign, a coefficient and a power of ten, with infinities and
two kinds of `nan`.

* `ofText?` — reading, which is exact: a numeral whose exponent would have to be rounded away is
  refused;
* `mul` — multiplication rounded to 28 digits, half to even, or what traps it;
* `toBinary64?` — the nearest binary number.
-/

namespace Rollout

/-- A decimal number; `finite s c e` is `c * 10 ^ e` with the sign `s`.  `signal` is the `nan`
that arithmetic and conversion refuse. -/
inductive Decimal where
  | finite (negative : Bool) (coefficient : Nat) (exponent : Int)
  | infinite (negative : Bool)
  | nan
  | signal
  deriving DecidableEq, Repr

namespace Decimal

/-- Digits kept by arithmetic. -/
def precision : Nat := 28

/-- The largest power of ten of the leading digit of a result. -/
def maxPower : Int := 999999

/-- The largest power of ten of the leading digit of a numeral. -/
def maxReadPower : Int := 999999999999999999

/-- The smallest power of ten of the last digit of a numeral. -/
def minReadPower : Int := -1999999999999999997

/-- The power of ten of the leading digit. -/
def leading (coefficient : Nat) (exponent : Int) : Int :=
  Binary64.decimalLength coefficient - 1 + exponent

/-! ## reading -/

/-- The ASCII form of a numeral: blanks around it and underscores left out, digits of any script
made ASCII.  None if another character that is not ASCII occurs. -/
def ascii? (cs : List Char) : Option (List Char) :=
  (Text.trimList Text.isBlank cs).filter (· ≠ '_') |>.mapM fun c =>
    if c = '\x00' then none
    else if c.toNat < 0x80 then some c
    else if Text.isSpace c then some ' '
    else (Text.digit? c).map Nat.digitChar

/-- The power of ten behind the letter of an exponent: a sign and at least one digit. -/
def exponent? (cs : List Char) : Option Int :=
  let (negative, digits) := match cs with
    | '-' :: r => (true, r)
    | '+' :: r => (false, r)
    | r => (false, r)
  if digits ≠ [] ∧ digits.all Char.isDigit then
    some (if negative then -(Text.ofAscii digits : Int) else Text.ofAscii digits)
  else none

/-- A numeral without its sign: digits with at most one point, then an optional exponent. -/
def unsigned? (negative : Bool) (cs : List Char) : Option Decimal := do
  let whole := cs.takeWhile Char.isDigit
  let rest := cs.dropWhile Char.isDigit
  let (fraction, rest) := match rest with
    | '.' :: r => (r.takeWhile Char.isDigit, r.dropWhile Char.isDigit)
    | r => ([], r)
  guard (whole ≠ [] ∨ fraction ≠ [])
  let power ← match rest with
    | [] => some 0
    | c :: r => if c = 'e' ∨ c = 'E' then exponent? r else none
  let coefficient := Text.ofAscii (whole ++ fraction)
  let exponent := power - fraction.length
  guard (minReadPower ≤ exponent)
  guard (leading coefficient exponent ≤ maxReadPower)
  return finite negative coefficient exponent

/-- A word for an infinity or a `nan`; digits may follow the latter. -/
def word? (negative : Bool) (cs : List Char) : Option Decimal :=
  let cs := cs.map Char.toLower
  if cs = "inf".toList ∨ cs = "infinity".toList then some (infinite negative)
  else if cs.take 3 = "nan".toList ∧ (cs.drop 3).all Char.isDigit then some nan
  else if cs.take 4 = "snan".toList ∧ (cs.drop 4).all Char.isDigit then some signal
  else none

/-- The number that a text spells. -/
def ofText? (s : String) : Option Decimal := do
  let cs ← ascii? s.toList
  let (negative, body) := match cs with
    | '-' :: r => (true, r)
    | '+' :: r => (false, r)
    | r => (false, r)
  (word? negative body).or (unsigned? negative body)

/-! ## arithmetic -/

/-- What traps arithmetic: a result that is too large, or a `nan` that signals. -/
inductive Trap where
  | overflow
  | invalid
  deriving DecidableEq, Repr

/-- A finite result rounded to the precision.  It overflows if its leading digit stands too high. -/
def rounded (negative : Bool) (coefficient : Nat) (exponent : Int) : Except Trap Decimal :=
  let excess := Binary64.decimalLength coefficient - precision
  let kept := Binary64.divEven coefficient (Nat.pow 10 excess)
  if kept ≠ 0 ∧ maxPower < leading kept (exponent + excess) then .error .overflow
  else .ok (finite negative kept (exponent + excess))

/-- The product with `factor * 10 ^ power`, the factor being positive. -/
def mul (d : Decimal) (factor : Nat) (power : Int) : Except Trap Decimal :=
  match d with
  | finite s c e => rounded s (c * factor) (e + power)
  | infinite s => .ok (infinite s)
  | nan => .ok nan
  | signal => .error .invalid

/-- The nearest binary number; a `nan` that signals has none. -/
def toBinary64? : Decimal → Option Binary64
  | finite s c e => some (Binary64.ofDecimal s c e)
  | infinite s => some (.infinite s)
  | nan => some .nan
  | signal => none

end Decimal

end Rollout
