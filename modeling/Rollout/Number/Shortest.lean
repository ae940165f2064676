import Rollout.Number.Binary64

/-!
# Rollout.Number.Shortest

The decimal text of a binary floating point number: the fewest significant digits that read back as
the same number, and of those the nearest.

* `Decimal.shortest` — the digits and the power of ten, by trying one digit, two digits, …;
* `Binary64.text` — the layout: positional while the decimal point stands within or near the
  digits, otherwise one digit, a point and an exponent of at least two digits.
-/

namespace Rollout

namespace Binary64

/-- The power of ten of the leading decimal digit of `n / d`: the largest `k` with
`10 ^ k ≤ n / d`, found from a first guess by the lengths of both numbers. -/
def leadingPower (n d : Nat) : Int :=
  let guess : Int := decimalLength n - decimalLength d
  if fits guess then guess else guess - 1
where
  fits (k : Int) : Bool := if 0 ≤ k then d * Nat.pow 10 k.toNat ≤ n else d ≤ n * Nat.pow 10 (-k).toNat

/-- The two whole multiples of `10 ^ power` beside `n / d`, the nearer first. -/
def neighbours (n d : Nat) (power : Int) : List Nat :=
  let (n, d) :=
    if 0 ≤ power then (n, d * Nat.pow 10 power.toNat) else (n * Nat.pow 10 (-power).toNat, d)
  let low := n / d
  if 2 * (n % d) < d then [low, low + 1] else [low + 1, low]

/-- The shortest digits, and the power of ten that they count, which read back as `units` units.
Seventeen digits always do. -/
def shortest (units : Nat) : Nat × Int :=
  let top := leadingPower units one
  let candidates := (List.range 17).flatMap fun (more : Nat) =>
    let power := top - (more : Nat)
    (neighbours units one power).map fun digits => (digits, power)
  (candidates.find? fun (digits, power) => ofDecimal false digits power = finite false units).getD
    (0, 0)

/-- The text of a positive finite number. -/
def positiveText (units : Nat) : String :=
  let (digits, power) := shortest units
  let shown := Nat.toDigits 10 digits
  let kept := (shown.reverse.dropWhile (· = '0')).reverse
  let point : Int := shown.length + power
  if -3 ≤ point ∧ point ≤ 16 then
    if point ≤ 0 then
      String.ofList ("0.".toList ++ List.replicate (-point).toNat '0' ++ kept)
    else if kept.length ≤ point.toNat then
      String.ofList (kept ++ List.replicate (point.toNat - kept.length) '0' ++ ".0".toList)
    else
      String.ofList (kept.take point.toNat ++ '.' :: kept.drop point.toNat)
  else
    let fraction := if kept.length = 1 then [] else '.' :: kept.drop 1
    let exponent := point - 1
    let places := Nat.toDigits 10 exponent.natAbs
    let places := if places.length < 2 then '0' :: places else places
    String.ofList (kept.take 1 ++ fraction ++ 'e' :: (if exponent < 0 then '-' else '+') :: places)

/-- The text of a number, in the spelling of a JSON writer that knows `NaN` and `Infinity`. -/
def text : Binary64 → String
  | nan => "NaN"
  | infinite s => if s then "-Infinity" else "Infinity"
  | finite s u =>
    (if s then "-" else "") ++ (if u = 0 then "0.0" else positiveText u)

end Binary64

end Rollout
