/-!
# Rollout.Number.Binary64

Binary floating point numbers of 64 bits, with exact definitions.

A finite number is a sign and a count of *units*, the unit being `2 ^ -1074`, the smallest positive
number of the format.  Every operation computes its exact result as a quotient of natural numbers
and rounds once, so each is a short expression over `roundUnits`:

* `roundUnits n d` — the quotient `n / d` of units, rounded to 53 binary digits, a tie to the even
  neighbour;
* `add`, `mul`, `ofDecimal` — the exact result, then `roundUnits`;
* `toBits`, `ofBits` — the interchange encoding.

Zeros keep their sign, and a result too large for the format is an infinity.
-/

namespace Rollout

/-- A number of the 64-bit binary format.  `finite s u` has magnitude `u * 2 ^ -1074`. -/
inductive Binary64 where
  | nan
  | infinite (negative : Bool)
  | finite (negative : Bool) (units : Nat)
  deriving DecidableEq, Repr, Inhabited

namespace Binary64

/-! ## rounding -/

/-- The number of binary digits of `n`. -/
def bitLength (n : Nat) : Nat := if n = 0 then 0 else n.log2 + 1

/-- The whole number nearest to `n / d`; a half goes to the even neighbour. -/
def divEven (n d : Nat) : Nat :=
  let q := n / d
  let r := n % d
  if 2 * r < d then q else if d < 2 * r then q + 1 else if q % 2 = 0 then q else q + 1

/-- A whole quotient is not rounded. -/
theorem divEven_mul (q d : Nat) (hd : 0 < d) : divEven (q * d) d = q := by
  simp [divEven, Nat.mul_div_cancel q hd, hd]

/-- The quotient `n / d` of units rounded to what the format can hold: 53 binary digits, and no
fraction of a unit. -/
def roundUnits (n d : Nat) : Nat :=
  let shift := bitLength (n / d) - 53
  divEven n (d * Nat.pow 2 shift) * Nat.pow 2 shift

/-- The units of one. -/
def one : Nat := Nat.pow 2 1074

/-- The first count of units that is too large. -/
def limit : Nat := Nat.pow 2 2098

/-- The number nearest to `n / d` units. -/
def ofUnits (negative : Bool) (n d : Nat) : Binary64 :=
  let u := roundUnits n d
  if u < limit then finite negative u else infinite negative

/-- The number nearest to the quotient `n / d`. -/
def ofQuotient (negative : Bool) (n d : Nat) : Binary64 := ofUnits negative (n * one) d

/-- The positive zero. -/
def zero : Binary64 := finite false 0

/-- The number nearest to an integer; none if that is infinite. -/
def ofInt? (i : Int) : Option Binary64 :=
  match ofQuotient (i < 0) i.natAbs 1 with
  | finite s u => some (finite s u)
  | _ => none

/-- The number of decimal digits of `n`, one for zero. -/
def decimalLength (n : Nat) : Nat := (Nat.toDigits 10 n).length

/-- The number nearest to `digits * 10 ^ exponent`.  Exponents far outside the range of the format
are answered without computing the power. -/
def ofDecimal (negative : Bool) (digits : Nat) (exponent : Int) : Binary64 :=
  if digits = 0 then finite negative 0
  else if 400 < decimalLength digits + exponent then infinite negative
  else if decimalLength digits + exponent < -400 then finite negative 0
  else if 0 ≤ exponent then ofQuotient negative (digits * Nat.pow 10 exponent.toNat) 1
  else ofQuotient negative digits (Nat.pow 10 (-exponent).toNat)

/-! ## arithmetic -/

/-- The value of a finite number, in units. -/
def signed (negative : Bool) (units : Nat) : Int := if negative then -units else units

/-- The number with the other sign. -/
def neg : Binary64 → Binary64
  | nan => nan
  | infinite s => infinite !s
  | finite s u => finite (!s) u

/-- The sum.  A zero sum is negative only if both terms are. -/
def add : Binary64 → Binary64 → Binary64
  | nan, _ | _, nan => nan
  | infinite s, infinite t => if s = t then infinite s else nan
  | infinite s, finite _ _ => infinite s
  | finite _ _, infinite t => infinite t
  | finite s u, finite t v =>
    let sum := signed s u + signed t v
    if sum = 0 then finite (s && t) 0 else ofUnits (sum < 0) sum.natAbs 1

/-- The product, rounded to nearest. -/
def mul : Binary64 → Binary64 → Binary64
  | nan, _ | _, nan => nan
  | infinite s, infinite t => infinite (s != t)
  | infinite s, finite t v => if v = 0 then nan else infinite (s != t)
  | finite s u, infinite t => if u = 0 then nan else infinite (s != t)
  | finite s u, finite t v => ofUnits (s != t) (u * v) one

instance : Neg Binary64 := ⟨neg⟩
instance : Add Binary64 := ⟨add⟩
instance : Mul Binary64 := ⟨mul⟩

/-! ## order and whole parts -/

/-- A key in the order of the numbers; `nan` has none. -/
def key? : Binary64 → Option Int
  | nan => none
  | infinite s => some (signed s limit)
  | finite s u => some (signed s u)

/-- Strictly smaller.  Nothing is smaller or larger than `nan`. -/
def lt (a b : Binary64) : Bool :=
  match a.key?, b.key? with
  | some x, some y => x < y
  | _, _ => false

/-- Equal as numbers: the two zeros are, and `nan` is equal to nothing. -/
def same (a b : Binary64) : Bool :=
  match a.key?, b.key? with
  | some x, some y => x == y
  | _, _ => false

/-- The whole part, the fraction cut off; none if the number is not finite. -/
def truncate? : Binary64 → Option Int
  | finite s u => some (if s then -((u / one : Nat) : Int) else (u / one : Nat))
  | _ => none

/-- The largest integer that is not above the number; none if the number is not finite. -/
def floor? : Binary64 → Option Int
  | finite s u => some (Int.fdiv (signed s u) one)
  | _ => none

/-- The integer that the number is, if it is one. -/
def toInt? : Binary64 → Option Int
  | finite s u => if u % one = 0 then some (signed s (u / one)) else none
  | _ => none

/-! ## the interchange encoding -/

/-- The bit above the fraction, which is not written. -/
def hidden : Nat := Nat.pow 2 52

/-- The sign bit, eleven bits of exponent and 52 bits of fraction. -/
def toBits : Binary64 → Nat
  | nan => 0x7ff8000000000000
  | infinite s => sign s + 0x7ff0000000000000
  | finite s u =>
    let shift := bitLength u - 53
    let digits := u / Nat.pow 2 shift
    sign s + (if digits < hidden then digits else (shift + 1) * hidden + (digits - hidden))
where
  sign (s : Bool) : Nat := if s then Nat.pow 2 63 else 0

/-- The number with the given bits. -/
def ofBits (bits : Nat) : Binary64 :=
  let negative := bits / Nat.pow 2 63 % 2 = 1
  let exponent := bits / hidden % Nat.pow 2 11
  let fraction := bits % hidden
  if exponent = 2047 then (if fraction = 0 then infinite negative else nan)
  else if exponent = 0 then finite negative fraction
  else finite negative ((hidden + fraction) * Nat.pow 2 (exponent - 1))

/-- Encoding and decoding the extreme finite numbers. -/
example : ofBits (toBits (finite true 1)) = finite true 1 ∧
    toBits (ofBits 0x7fefffffffffffff) = 0x7fefffffffffffff ∧
    toBits (ofQuotient false 1 10) = 0x3fb999999999999a := by decide +kernel

end Binary64

end Rollout
