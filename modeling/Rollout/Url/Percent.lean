import Rollout.Text.Digit
import Rollout.Text.Quoted
import Rollout.Text.Utf8

/-!
# Rollout.Url.Percent

Characters of URLs, and the encoding of all others as `%` and two digits for each of their bytes.

* `encode` — with the characters of a class left as they are;
* `encodeParam` — for names and values of a query;
* `decode`, `decodeParam` — back again.
-/

namespace Rollout.Url

/-- The bytes of characters. -/
def bytesOf (cs : List Char) : List UInt8 := (String.ofList cs).toUTF8.data.toList

/-- A byte as `%` and two digits. -/
def encodedByte (b : UInt8) : List Char :=
  '%' :: (Text.hex 2 b.toNat).map Char.toUpper

/-! ## classes of characters -/

/-- A character that needs no encoding anywhere. -/
def isUnreserved (c : Char) : Bool := c.isAlphanum || c = '-' || c = '.' || c = '_' || c = '~'

/-- A printable character of ASCII that is none of the given ones. -/
def isPrintableBut (others : String) (c : Char) : Bool := ' ' < c && c ≤ '~' && c ∉ others.toList

/-- A character that may stand in the name and password of a user, or between them. -/
def isUserChar : Char → Bool := isPrintableBut "\"#<>?`\x7b\x7d/;=@[\\]^|"

/-- A character that may stand in the name of a host. -/
def isHostChar (c : Char) : Bool := isUnreserved c || c ∈ "!$&'()*+,;=\"`\x7b\x7d%|\\".toList

/-- A character that may stand in a path. -/
def isPathChar : Char → Bool := isPrintableBut "\"#<>?`\x7b\x7d"

/-- A character that may stand in a query. -/
def isQueryChar : Char → Bool := isPrintableBut "\"#<>"

/-- A character that may stand in a fragment. -/
def isFragmentChar : Char → Bool := isPrintableBut "\"<>`"

/-! ## encoding -/

/-- The text with the characters outside the class encoded; a `%` in it stays. -/
def encode (allowed : Char → Bool) (cs : List Char) : List Char :=
  cs.flatMap fun c => if allowed c then [c] else (bytesOf [c]).flatMap encodedByte

/-- A name or value of a query: blanks become `+`. -/
def encodeParam (s : String) : List Char :=
  s.toList.flatMap fun c =>
    if c = ' ' then ['+'] else if isUnreserved c then [c] else (bytesOf [c]).flatMap encodedByte

/-- The bytes of a text with `%` escapes. -/
def escapedBytes : List Char → List UInt8
  | '%' :: a :: b :: rest =>
    match Text.ofAscii? 16 [a, b] with
    | some n => n.toUInt8 :: escapedBytes rest
    | none => bytesOf ['%'] ++ escapedBytes (a :: b :: rest)
  | c :: rest => bytesOf [c] ++ escapedBytes rest
  | [] => []

/-- The text that escapes spell; bytes that encode no character become replacement characters. -/
def decode (cs : List Char) : List Char := Text.decodeUtf8 (escapedBytes cs)

/-- A name or value of a query: `+` stands for a blank. -/
def decodeParam (cs : List Char) : String :=
  String.ofList (decode (cs.map fun c => if c = '+' then ' ' else c))

end Rollout.Url
