import Rollout.Text.Codes

/-!
# Rollout.Text.Encoding

Texts in bytes that do not say how they are encoded, but begin with two characters of ASCII: zero
bytes among the first ones show how many bytes a character has, and in which order.

* `decodeText?` — the text; none if the bytes do not encode one.
-/

namespace Rollout.Text

/-- How a text is encoded: in bytes, or in units of two or four bytes, the largest byte first or
last. -/
inductive Encoding where
  | bytes
  | pairs (largestFirst : Bool)
  | quadruples (largestFirst : Bool)
  deriving DecidableEq, Repr

/-- How bytes encode a text that begins with characters of ASCII. -/
def encodingOf : List UInt8 → Encoding
  | a :: b :: c :: d :: _ =>
    if a = 0 then (if b = 0 then .quadruples true else .pairs true)
    else if b = 0 then (if c = 0 ∧ d = 0 then .quadruples false else .pairs false)
    else .bytes
  | [a, b] => if a = 0 then .pairs true else if b = 0 then .pairs false else .bytes
  | _ => .bytes

/-- The number that a few bytes make up. -/
def ofBytes (largestFirst : Bool) (bytes : List UInt8) : Nat :=
  (if largestFirst then bytes else bytes.reverse).foldl (fun n b => n * 256 + b.toNat) 0

/-- The numbers that groups of two bytes make up; none if a byte is left. -/
def pairsOf? (largestFirst : Bool) : List UInt8 → Option (List Nat)
  | [] => some []
  | a :: b :: rest => (pairsOf? largestFirst rest).map (ofBytes largestFirst [a, b] :: ·)
  | _ => none

/-- The numbers that groups of four bytes make up; none if bytes are left. -/
def quadruplesOf? (largestFirst : Bool) : List UInt8 → Option (List Nat)
  | [] => some []
  | a :: b :: c :: d :: rest =>
    (quadruplesOf? largestFirst rest).map (ofBytes largestFirst [a, b, c, d] :: ·)
  | _ => none

/-- The characters of code points. -/
def charsOf? (codes : List Nat) : Option (List Char) :=
  codes.mapM fun n => if n.isValidChar then some (Char.ofNat n) else none

/-- The text that bytes encode.  A byte order mark is no part of it. -/
def decodeText? (bytes : List UInt8) : Option (List Char) :=
  match encodingOf bytes with
  | .bytes =>
    (String.fromUTF8? ⟨bytes.toArray⟩).map fun s =>
      if s.toList.head? = some '\ufeff' then s.toList.drop 1 else s.toList
  | .pairs largestFirst => (pairsOf? largestFirst bytes).bind fun units => charsOf? (joinPairs units)
  | .quadruples largestFirst => (quadruplesOf? largestFirst bytes).bind charsOf?

/-- One text in all encodings. -/
example : decodeText? [0x7b, 0x7d] = some ['\x7b', '\x7d'] ∧
    decodeText? [0x7b, 0, 0x7d, 0] = some ['\x7b', '\x7d'] ∧
    decodeText? [0, 0, 0, 0x7b, 0, 0, 0, 0x7d] = some ['\x7b', '\x7d'] := by decide +kernel

end Rollout.Text
