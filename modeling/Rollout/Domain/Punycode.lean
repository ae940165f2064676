/-!
# Rollout.Domain.Punycode

Any text as letters and digits of ASCII.  The characters of ASCII come first; then, in the order of
their code points, the others are put in between.  The code points and the places of a character are
one number: how far it is from the place after the one before, counting all places for each code
point in between.  The numbers are written with digits whose weights depend on the numbers so far.

* `encode` — the encoded text;
* `decode?` — the text again, if there is one.
-/

namespace Rollout.Domain.Punycode

/-! ## digits -/

/-- The digit of a number below 36. -/
def digitChar (d : Nat) : Char := Char.ofNat (if d < 26 then 0x61 + d else 0x30 + (d - 26))

/-- The number of a digit, in small letters. -/
def digit? (c : Char) : Option Nat :=
  if 'a' ≤ c ∧ c ≤ 'z' then some (c.toNat - 0x61)
  else if c.isDigit then some (c.toNat - 0x30 + 26)
  else none

/-- Reading a digit that has been written gives the number back. -/
theorem digit?_digitChar {d : Nat} (h : d < 36) : digit? (digitChar d) = some d := by
  have all : ∀ e ∈ List.range 36, digit? (digitChar e) = some e := by decide
  exact all d (List.mem_range.mpr h)

/-- The first value that the last digit of a number does not have, at a place whose weight grows by
36 from digit to digit. -/
def threshold (place bias : Nat) : Nat := max 1 (min 26 (place - bias))

theorem one_le_threshold (place bias : Nat) : 1 ≤ threshold place bias := by
  unfold threshold; omega

/-- How often a number is divided by 35 until it is at most 455, by 36, and what is left. -/
def shrink (places delta : Nat) : Nat × Nat :=
  if 455 < delta then shrink (places + 36) (delta / 35) else (places, delta)
termination_by delta

/-- The bias after a number, the first of all or not, when there are `count` characters. -/
def adapt (delta count : Nat) (first : Bool) : Nat :=
  let delta := if first then delta / 700 else delta / 2
  let (places, rest) := shrink 0 (delta + delta / count)
  places + 36 * rest / (rest + 38)

/-- The number of characters of ASCII. -/
def firstOther : Nat := 0x80

/-- The bias at the start. -/
def firstBias : Nat := 72

/-! ## encoding -/

/-- The digits of a number. -/
def digits (bias place q : Nat) : List Char :=
  let t := threshold place bias
  if q < t then [digitChar q]
  else digitChar (t + (q - t) % (36 - t)) :: digits bias (place + 36) ((q - t) / (36 - t))
termination_by q
decreasing_by
  have h := one_le_threshold place bias
  exact Nat.lt_of_le_of_lt (Nat.div_le_self _ _) (by omega)

/-- Adds an insertion behind those of code points that are not larger. -/
def putIn (a : Nat × Nat) : List (Nat × Nat) → List (Nat × Nat)
  | [] => [a]
  | b :: rest => if a.1 < b.1 then a :: b :: rest else b :: putIn a rest

/-- The code point of each other character of a text, in order, and its place in the text at the time
when it is put in: behind all that are smaller, or equal and before it. -/
def insertions (cs : List Char) : List (Nat × Nat) :=
  let others := (cs.zipIdx.filter fun (c, _) => firstOther ≤ c.toNat).map fun (c, i) =>
    (c.toNat, (cs.take i).countP (· ≤ c))
  others.foldl (fun done a => putIn a done) []

/-- The digits of insertions into a text of `count` characters, from a place and for a code point
on. -/
def encodeFrom (bias count code place : Nat) (first : Bool) : List (Nat × Nat) → List Char
  | [] => []
  | (c, i) :: rest =>
    let delta := (c - code) * (count + 1) + i - place
    digits bias 36 delta ++
      encodeFrom (adapt delta (count + 1) first) (count + 1) c (i + 1) false rest

/-- A text as letters and digits of ASCII. -/
def encode (cs : List Char) : List Char :=
  let basic := cs.filter fun c => c.toNat < firstOther
  basic ++ (if basic = [] then [] else ['-']) ++
    encodeFrom firstBias basic.length firstOther 0 true (insertions cs)

/-! ## decoding -/

/-- The number that digits spell, and the rest. -/
def number? (bias place weight : Nat) : List Char → Option (Nat × List Char)
  | [] => none
  | c :: rest => do
    let d ← digit? c
    let t := threshold place bias
    if d < t then return (d * weight, rest)
    else
      let (more, rest) ← number? bias (place + 36) (weight * (36 - t)) rest
      return (d * weight + more, rest)

/-- A text with the characters put in that digits name.  The fuel bounds their number; every one
takes a digit. -/
def decodeFrom (bias code place : Nat) (first : Bool) :
    Nat → List Char → List Char → Option (List Char)
  | _, done, [] => some done
  | 0, _, _ => none
  | fuel + 1, done, cs => do
    let (delta, rest) ← number? bias 36 1 cs
    let count := done.length + 1
    let c := code + (place + delta) / count
    let i := (place + delta) % count
    guard c.isValidChar
    decodeFrom (adapt delta count first) c (i + 1) false fuel
      (done.take i ++ Char.ofNat c :: done.drop i) rest

/-- The text that letters and digits encode: characters of ASCII up to the last hyphen, if there is
one, and numbers. -/
def decode? (cs : List Char) : Option (List Char) :=
  let numbers := (cs.reverse.takeWhile (· ≠ '-')).reverse
  let basic := cs.take (cs.length - numbers.length - 1)
  decodeFrom firstBias firstOther 0 true numbers.length basic numbers

/-- A character between others, and two of one kind. -/
example : encode "bücher".toList = "bcher-kva".toList ∧
    decode? "bcher-kva".toList = some "bücher".toList ∧
    encode "üaü".toList = "a-dhab".toList := by decide +kernel

end Rollout.Domain.Punycode
