/-!
# Rollout.Text.Utf8

The characters that bytes encode, when not all of the bytes have to encode one.

* `decodeUtf8` — every longest run of bytes that begins a character without completing it, and every
  other byte that begins none, becomes one replacement character.
-/

namespace Rollout.Text

/-- What the first byte of a character of several bytes says: how many more there are, the bounds of
the first of these, and the bits that it brings. -/
def lead? (b : Nat) : Option (Nat × Nat × Nat × Nat) :=
  if 0xc2 ≤ b ∧ b ≤ 0xdf then some (1, 0x80, 0xbf, b - 0xc0)
  else if b = 0xe0 then some (2, 0xa0, 0xbf, 0)
  else if b = 0xed then some (2, 0x80, 0x9f, 0xd)
  else if 0xe1 ≤ b ∧ b ≤ 0xef then some (2, 0x80, 0xbf, b - 0xe0)
  else if b = 0xf0 then some (3, 0x90, 0xbf, 0)
  else if b = 0xf4 then some (3, 0x80, 0x8f, 4)
  else if 0xf1 ≤ b ∧ b ≤ 0xf3 then some (3, 0x80, 0xbf, b - 0xf0)
  else none

/-- The bytes, at most `more` of them, that go on with a character; the first one lies in the given
bounds. -/
def continuation : Nat → Nat → Nat → List UInt8 → List Nat
  | 0, _, _, _ | _, _, _, [] => []
  | more + 1, low, high, b :: rest =>
    if low ≤ b.toNat ∧ b.toNat ≤ high then b.toNat :: continuation more 0x80 0xbf rest else []

/-- The characters that bytes encode; `fuel` is at least their number. -/
def decodeBytes : Nat → List UInt8 → List Char
  | 0, _ | _, [] => []
  | fuel + 1, b :: rest =>
    if b < 0x80 then Char.ofNat b.toNat :: decodeBytes fuel rest
    else
      match lead? b.toNat with
      | none => '\ufffd' :: decodeBytes fuel rest
      | some (more, low, high, bits) =>
        let tail := continuation more low high rest
        let c := if tail.length = more then
          Char.ofNat (tail.foldl (fun n b => n * 0x40 + (b - 0x80)) bits) else '\ufffd'
        c :: decodeBytes fuel (rest.drop tail.length)

/-- The characters that bytes encode. -/
def decodeUtf8 (bytes : List UInt8) : List Char := decodeBytes bytes.length bytes

/-- Half of a pair encodes nothing, and a character cut short becomes one replacement. -/
example : decodeUtf8 [0xed, 0xa0, 0x80] = ['\ufffd', '\ufffd', '\ufffd'] ∧
    decodeUtf8 [0x61, 0xe2, 0x82, 0x62] = ['a', '\ufffd', 'b'] ∧
    decodeUtf8 [0xf0, 0x9f, 0x98, 0x80] = ['😀'] := by decide +kernel

end Rollout.Text
