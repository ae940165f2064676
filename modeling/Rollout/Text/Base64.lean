/-!
# Rollout.Text.Base64

Bytes as texts of 64 different characters, three bytes in four characters.

* `base64` — the text of bytes, filled up with `=`;
* `ofBase64?` — the bytes of a text, in which other characters are passed over.
-/

namespace Rollout.Text

/-- The character that stands for six bits. -/
def sextetChar (n : Nat) : Char :=
  if n < 26 then Char.ofNat (n + 65)
  else if n < 52 then Char.ofNat (n + 71)
  else if n < 62 then Char.ofNat (n - 4)
  else if n = 62 then '+'
  else '/'

/-- The six bits that a character of the alphabet stands for. -/
def sextet? (c : Char) : Option Nat :=
  if c.isUpper then some (c.toNat - 65)
  else if c.isLower then some (c.toNat - 71)
  else if c.isDigit then some (c.toNat + 4)
  else if c = '+' then some 62
  else if c = '/' then some 63
  else none

/-- Each six bits have a character of their own. -/
theorem sextet?_sextetChar {n : Nat} (h : n < 64) : sextet? (sextetChar n) = some n := by
  have all : ∀ m ∈ List.range 64, sextet? (sextetChar m) = some m := by decide
  exact all n (List.mem_range.mpr h)

/-- The text of bytes. -/
def base64 : List UInt8 → List Char
  | a :: b :: c :: rest =>
    let n := a.toNat * 65536 + b.toNat * 256 + c.toNat
    sextetChar (n / 262144) :: sextetChar (n / 4096 % 64) :: sextetChar (n / 64 % 64) ::
      sextetChar (n % 64) :: base64 rest
  | [a, b] =>
    let n := a.toNat * 1024 + b.toNat * 4
    [sextetChar (n / 4096), sextetChar (n / 64 % 64), sextetChar (n % 64), '=']
  | [a] => [sextetChar (a.toNat / 4), sextetChar (a.toNat * 16 % 64), '=', '=']
  | [] => []

/-- Bytes from groups of four characters; `held` bits are waiting, `filled` characters of the group
and `pads` signs `=` have been met.  Other characters are passed over, and a group that its signs
fill ends the text. -/
def sextets : List Char → Nat → Nat → Nat → Option (List UInt8)
  | [], _, filled, _ => if filled = 0 then some [] else none
  | c :: rest, held, filled, pads =>
    if c = '=' then
      if 2 ≤ filled ∧ 4 ≤ filled + pads + 1 then some []
      else sextets rest held filled (if 2 ≤ filled then pads + 1 else pads)
    else
      match sextet? c with
      | none => sextets rest held filled pads
      | some n =>
        match filled with
        | 0 => sextets rest n 1 0
        | 1 => (sextets rest (n % 16) 2 0).map ((held * 4 + n / 16).toUInt8 :: ·)
        | 2 => (sextets rest (n % 4) 3 0).map ((held * 16 + n / 4).toUInt8 :: ·)
        | _ => (sextets rest 0 0 0).map ((held * 64 + n).toUInt8 :: ·)

/-- The bytes of an ASCII text. -/
def ofBase64? (cs : List Char) : Option (List UInt8) :=
  if cs.all fun c => c.toNat < 0x80 then sextets cs 0 0 0 else none

example : base64 [77, 97, 110, 77] = "TWFuTQ==".toList ∧
    ofBase64? "TWFu TQ==".toList = some [77, 97, 110, 77] := by decide

end Rollout.Text
