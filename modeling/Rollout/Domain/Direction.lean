import Rollout.Domain.Mark

/-!
# Rollout.Domain.Direction

The direction in which the characters of domain names are written.

* `direction` — the direction of a character;
* `directionsFit` — whether the directions in a label go together.
-/

namespace Rollout.Domain

/-- Directions.  Digits have one of two kinds, marks follow their letters, and neutral characters
follow what is around them. -/
inductive Direction where
  | left
  | right
  | digit
  | arabicDigit
  | mark
  | neutral
  deriving DecidableEq, Repr

/-- Letters that are written from right to left, with the marks that need room. -/
def rightRuns : List (Nat × Nat) := [
  (0x5d0, 0x5f4), (0x620, 0x64a), (0x66e, 0x66f), (0x671, 0x6d5), (0x6e5, 0x6e6), (0x6ee, 0x6ef),
  (0x6fa, 0x710), (0x712, 0x72f), (0x74d, 0x7a5), (0x7b1, 0x7ea), (0x7f4, 0x7f5), (0x800, 0x815),
  (0x81a, 0x81a), (0x824, 0x824), (0x828, 0x828), (0x840, 0x858), (0x860, 0x88e), (0x8a0, 0x8c9),
  (0xfe73, 0xfe73), (0x10800, 0x10a00), (0x10a10, 0x10a35), (0x10a60, 0x10ae4), (0x10b00, 0x10d23),
  (0x10e80, 0x10ea9), (0x10eb0, 0x10f45), (0x10f70, 0x10f81), (0x10fb0, 0x10ff6),
  (0x1e800, 0x1e8c4), (0x1e922, 0x1e943), (0x1e94b, 0x1e959)]

/-- Neutral characters. -/
def neutralRuns : List (Nat × Nat) := [
  (0x2d, 0x2d), (0xb7, 0xb7), (0x2b9, 0x2ba), (0x2c6, 0x2cf), (0x2ec, 0x2ec), (0x375, 0x375),
  (0x200c, 0x200d), (0x2e2f, 0x2e2f), (0x30fb, 0x30fb), (0xa67f, 0xa67f), (0xa717, 0xa71f),
  (0xa788, 0xa788)]

/-- Digits, of ASCII and the eastern Arabic ones. -/
def digitRuns : List (Nat × Nat) := [
  (0x30, 0x39), (0x6f0, 0x6f9)]

/-- Arabic and similar digits. -/
def arabicDigitRuns : List (Nat × Nat) := [
  (0x660, 0x669), (0x10d30, 0x10d39)]

/-- Marks with the direction of letters. -/
def leftMarkRuns : List (Nat × Nat) := [
  (0xcbf, 0xcbf), (0xcc6, 0xcc6), (0x11a07, 0x11a08), (0x11c3f, 0x11c3f)]

/-- The direction of a character. -/
def direction (c : Char) : Direction :=
  if Text.inRuns rightRuns c then .right
  else if Text.inRuns digitRuns c then .digit
  else if Text.inRuns arabicDigitRuns c then .arabicDigit
  else if Text.inRuns neutralRuns c then .neutral
  else if isNonspacing c && !Text.inRuns leftMarkRuns c then .mark
  else .left

/-- Whether the directions in a label go together.  A label with anything that is written from right
to left, or with an Arabic digit, begins with such a letter, has none that is written from left to
right, ends in a letter or a digit, apart from marks, and has one kind of digits only. -/
def directionsFit (label : List Char) : Bool :=
  let ds := label.map direction
  if .right ∈ ds ∨ .arabicDigit ∈ ds then
    ds.head? = some .right && .left ∉ ds && !(.digit ∈ ds && .arabicDigit ∈ ds) &&
      (ds.reverse.find? (· ≠ .mark)).any (· ≠ .neutral)
  else true

end Rollout.Domain
