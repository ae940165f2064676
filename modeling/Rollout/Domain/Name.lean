import Rollout.Domain.Composed
import Rollout.Domain.Direction
import Rollout.Domain.Joining
import Rollout.Domain.Letter
import Rollout.Domain.Punycode

/-!
# Rollout.Domain.Name

Domain names with characters outside ASCII.

* `labelFits` — whether a text may be a label of a domain name;
* `asciiName?` — the name with every label in ASCII, as it is sent.

A label outside ASCII is encoded, behind `xn--`.  A label that is encoded already has to encode one
that fits.
-/

namespace Rollout.Domain

/-! ## labels -/

/-- Whether a character that may stand in some labels only may stand between the characters before
it, given from there, and those after it. -/
def contextFits (before : List Char) (c : Char) (after : List Char) : Bool :=
  if c = '\u00b7' then before.head? = some 'l' && after.head? = some 'l'
  else if c = '\u0375' then after.head?.any isGreek
  else if c = '\u05f3' ∨ c = '\u05f4' then before.head?.any isHebrew
  else if c = '\u200c' then before.head?.any isVirama || joinsAround before after
  else if c = '\u200d' then before.head?.any isVirama
  else if c = '\u30fb' then (before ++ after).any isJapanese
  else if isArabicDigit c then !(before ++ after).any isEasternDigit
  else isEasternDigit c && !(before ++ after).any isArabicDigit

/-- Whether all characters may stand where they stand, after those before them, given from there. -/
def lettersFit (before : List Char) : List Char → Bool
  | [] => true
  | c :: after => (isLetter c || contextFits before c after) && lettersFit (c :: before) after

/-- No hyphen at either end, and not two as the third and fourth character. -/
def hyphensFit (label : List Char) : Bool :=
  label.head? ≠ some '-' && label.getLast? ≠ some '-' && (label.drop 2).take 2 ≠ ['-', '-']

/-- Whether a text may be a label: it is not empty and in composed form, does not begin with a mark,
and has letters, hyphens and directions that fit. -/
def labelFits (label : List Char) : Bool :=
  label ≠ [] && lettersFit [] label && hyphensFit label && !label.head?.any isMark &&
    isComposed label && directionsFit label

/-- The longest label. -/
def maxLabel : Nat := 63

/-- What an encoded label begins with. -/
def encodedMark : List Char := "xn--".toList

/-- Whether a label of ASCII fits, or the label that it encodes. -/
def asciiFits (label : List Char) : Bool :=
  if label.take 4 = encodedMark then
    label.getLast? ≠ some '-' && (Punycode.decode? (label.drop 4)).any labelFits
  else labelFits label

/-- A label in ASCII. -/
def asciiLabel? (label : List Char) : Option (List Char) := do
  let sent ←
    if label.all fun c => c.toNat < 0x80 then
      guard (asciiFits label)
      pure label
    else
      guard (labelFits label)
      pure (encodedMark ++ Punycode.encode label)
  guard (sent.length ≤ maxLabel)
  return sent

/-! ## names -/

/-- The points between labels. -/
def isPoint (c : Char) : Bool := c ∈ ['.', '\u3002', '\uff0e', '\uff61']

/-- The longest name, without a point at its end. -/
def maxName : Nat := 253

/-- A name in ASCII, where it is no shorter than written; a point at its end stays. -/
def asciiName? (name : List Char) : Option (List Char) := do
  guard (name.length ≤ maxName + 1)
  let labels := name.splitOnP isPoint
  let ended := labels.getLast? = some []
  let sent ← (if ended then labels.dropLast else labels).mapM asciiLabel?
  let whole := ['.'].intercalate (if ended then sent ++ [[]] else sent)
  guard (sent ≠ [] ∧ whole.length ≤ (if ended then maxName + 1 else maxName))
  return whole

/-- A name of two labels, and one with a character that may not stand in a name. -/
example : asciiName? "bücher.example".toList = some "xn--bcher-kva.example".toList ∧
    asciiName? "bü_cher".toList = none := by decide +kernel

end Rollout.Domain
