import Rollout.Text.Digit

/-!
# Rollout.Url.Address

The addresses that may stand between brackets in the authority of a URL: those of the sixth version
of the protocol, and those of a later one that is announced by a `v`.
-/

namespace Rollout.Url

/-- A group of at most four hexadecimal digits. -/
def isGroup (cs : List Char) : Bool :=
  cs ≠ [] && cs.length ≤ 4 && cs.all fun c => (Text.hexDigit? c).isSome

/-- A number up to 255 in decimal digits, without zeros in front. -/
def isByte (cs : List Char) : Bool :=
  cs ≠ [] && cs.length ≤ 3 && cs.all Char.isDigit && (cs.length = 1 || cs.head? ≠ some '0') &&
    Text.ofAscii cs ≤ 255

/-- Four bytes with points between them. -/
def isDotted (cs : List Char) : Bool :=
  let parts := cs.splitOn '.'
  parts.length = 4 && parts.all isByte

/-- The parts between colons; the last one may be four bytes, which count as two groups. -/
def groups (cs : List Char) : List (List Char) :=
  let parts := cs.splitOn ':'
  match parts.getLast? with
  | some last => if isDotted last then parts.dropLast ++ [['0'], ['0']] else parts
  | none => parts

/-- The groups beside `::`; a lone empty one is the end of the text. -/
def besideGap (parts : List (List Char)) : List (List Char) := if parts = [[]] then [] else parts

/-- Eight groups, or fewer with one `::` in the place of the others. -/
def isSixth (cs : List Char) : Bool :=
  let parts := groups cs
  let inner := (parts.drop 1).dropLast
  if (cs.splitOn ':').length < 3 then false
  else
    match inner.count [] with
    | 0 => parts.length = 8 && parts.all isGroup
    | 1 =>
      let before := besideGap (parts.take (inner.idxOf [] + 1))
      let after := besideGap (parts.drop (inner.idxOf [] + 2))
      before.length + after.length ≤ 7 && before.all isGroup && after.all isGroup
    | _ => false

/-- A zone after a `%`, if there is one. -/
def zoneFits (cs : List Char) : Bool :=
  match cs with
  | [] => true
  | _ :: zone => zone ≠ [] && '%' ∉ zone

/-- An address of a later version: `v`, digits, a point and anything else. -/
def isFuture (cs : List Char) : Bool :=
  let digits := (cs.drop 1).takeWhile fun c => (Text.hexDigit? c).isSome
  let rest := (cs.drop 1).drop digits.length
  cs.head? = some 'v' && digits ≠ [] && rest.head? = some '.' && 2 ≤ rest.length &&
    '\n' ∉ rest.drop 1

/-- An address that may stand between brackets. -/
def isAddress (cs : List Char) : Bool :=
  if cs.head? = some 'v' then isFuture cs
  else '/' ∉ cs && isSixth (cs.takeWhile (· ≠ '%')) && zoneFits (cs.dropWhile (· ≠ '%'))

end Rollout.Url
