import Rollout.Text.Digit

/-!
# Rollout.Yaml.Tag

Tags, and the tag that a plain scalar gets from its text alone.

* `Tag.ofText` — a tag that is written out;
* `Tag.ofScalar` — the implicit tag: of a truth word, a number, a merge sign, a null word, a
  timestamp, a value sign, and of a string if it is none of these.

The patterns are over ASCII characters; each is one predicate below.  A final line break does not
count.
-/

namespace Rollout.Yaml

/-- The kind of a node. -/
inductive Tag where
  | null
  | bool
  | int
  | float
  | binary
  | timestamp
  | omap
  | pairs
  | set
  | str
  | seq
  | map
  | merge
  | value
  | unknown
  deriving DecidableEq, Repr, Inhabited

namespace Tag

/-- What the tags of the format's own types begin with. -/
def base : String := "tag:yaml.org,2002:"

/-- The types of the format, by their names. -/
def named : List (String × Tag) := [
  ("null", null), ("bool", bool), ("int", int), ("float", float), ("binary", binary),
  ("timestamp", timestamp), ("omap", omap), ("pairs", pairs), ("set", set), ("str", str),
  ("seq", seq), ("map", map), ("merge", merge), ("value", value)]

/-- A tag that is written out. -/
def ofText (s : String) : Tag := ((named.find? fun (name, _) => base ++ name = s).map (·.2)).getD unknown

/-! ## patterns -/

/-- Words for the two truth values. -/
def truthWords : List (String × Bool) := [("yes", true), ("no", false), ("true", true),
  ("false", false), ("on", true), ("off", false)]

/-- A word in lower case, in upper case, or with a capital. -/
def cases (word : String) : List String := [word, word.capitalize, word.toUpper]

/-- The text without its sign. -/
def unsigned : List Char → List Char
  | '+' :: cs | '-' :: cs => cs
  | cs => cs

/-- The parts of a text between colons. -/
def colonParts (cs : List Char) : List (List Char) := cs.splitOn ':'

/-- A part of a number in base sixty after the first: at most 59. -/
def isSixtieth : List Char → Bool
  | [d] => d.isDigit
  | [t, d] => '0' ≤ t && t ≤ '5' && d.isDigit
  | _ => false

/-- Digits and underscores. -/
def isDigitOrBar (c : Char) : Bool := c.isDigit || c = '_'

/-- Digits and underscores, a digit first. -/
def isNumeral : List Char → Bool
  | [] => false
  | c :: cs => c.isDigit && cs.all isDigitOrBar

/-- An exponent with a sign and at least one digit; or nothing. -/
def isExponent : List Char → Bool
  | [] => true
  | e :: sign :: digits =>
    (e = 'e' || e = 'E') && (sign = '+' || sign = '-') && digits ≠ [] && digits.all Char.isDigit
  | _ => false

/-- A floating point number: with a point, an infinity, or not a number. -/
def isFloat (cs : List Char) : Bool :=
  let body := unsigned cs
  let whole := body.takeWhile (· ≠ '.')
  match body.drop whole.length with
  | [] => false
  | _ :: after =>
    let fraction := after.takeWhile isDigitOrBar
    let tail := after.drop fraction.length
    (isNumeral whole && isExponent tail) ||
      (cs.head? = some '.' && isNumeral fraction && isExponent tail) ||
      (tail = [] && match colonParts whole with
        | first :: second :: rest => isNumeral first && (second :: rest).all isSixtieth
        | _ => false) ||
      (whole = [] && String.ofList after ∈ cases "inf") ||
      (cs.head? = some '.' && String.ofList after ∈ ["nan", "NaN", "NAN"])

/-- A whole number: in base two, eight, ten, sixteen or sixty. -/
def isInt (cs : List Char) : Bool :=
  match unsigned cs with
  | [] => false
  | ['0'] => true
  | '0' :: 'b' :: digits => digits ≠ [] && digits.all fun c => c = '0' || c = '1' || c = '_'
  | '0' :: 'x' :: digits => digits ≠ [] &&
      digits.all fun c => (Text.hexDigit? c).isSome || c = '_'
  | '0' :: digits => digits.all fun c => '0' ≤ c && c ≤ '7' || c = '_'
  | body =>
    match colonParts body with
    | [] => false
    | first :: rest => isNumeral first && rest.all isSixtieth

/-- What a timestamp spells: its date, whether month and day have two digits, and its time of day
with the offset. -/
structure Stamp where
  year : Nat
  month : Nat
  day : Nat
  padded : Bool
  time : Option (Nat × Nat × Nat × List Char × Option (Bool × Nat × Nat))

/-- At least `least` and at most two digits, as a number, and the rest. -/
def digits? (least : Nat) (cs : List Char) : Option (Nat × List Char) :=
  let shown := (cs.take 2).takeWhile Char.isDigit
  if shown.length < least then none else some (Text.ofAscii shown, cs.drop shown.length)

/-- The rest of a text after a character. -/
def after? (c : Char) : List Char → Option (List Char)
  | [] => none
  | d :: cs => if c = d then some cs else none

/-- An offset at the end of a text, after blanks; or nothing. -/
def zone? (cs : List Char) : Option (Option (Bool × Nat × Nat)) :=
  match cs with
  | [] => some none
  | _ =>
    match cs.dropWhile fun c => c = ' ' || c = '\t' with
    | ['Z'] => some (some (false, 0, 0))
    | sign :: rest => do
      guard (sign = '+' ∨ sign = '-')
      let (hours, rest) ← digits? 1 rest
      match rest with
      | [] => return some (sign = '-', hours, 0)
      | _ =>
        let (minutes, rest) ← digits? 2 (← after? ':' rest)
        guard (rest = [])
        return some (sign = '-', hours, minutes)
    | [] => none

/-- The timestamp that a text spells. -/
def stamp? (cs : List Char) : Option Stamp := do
  let (century, rest) ← digits? 2 cs
  let (year, rest) ← digits? 2 rest
  let (month, afterMonth) ← digits? 1 (← after? '-' rest)
  let (day, afterDay) ← digits? 1 (← after? '-' afterMonth)
  let padded := cs.length = afterDay.length + 10
  let whole (time) : Stamp := ⟨century * 100 + year, month, day, padded, time⟩
  let clock ← match afterDay with
    | [] => return whole none
    | c :: rest =>
      if c = 'T' ∨ c = 't' then some rest
      else if c = ' ' ∨ c = '\t' then some (rest.dropWhile fun c => c = ' ' || c = '\t')
      else none
  let (hour, rest) ← digits? 1 clock
  let (minute, rest) ← digits? 2 (← after? ':' rest)
  let (second, rest) ← digits? 2 (← after? ':' rest)
  let (fraction, rest) := match rest with
    | '.' :: r => (r.takeWhile Char.isDigit, r.dropWhile Char.isDigit)
    | r => ([], r)
  return whole (some (hour, minute, second, fraction, ← zone? rest))

/-! ## the implicit tag -/

/-- A text without one line break at its end. -/
def withoutBreak (cs : List Char) : List Char := if cs.getLast? = some '\n' then cs.dropLast else cs

/-- The implicit tag of a text. -/
def ofScalar (s : String) : Tag :=
  let cs := withoutBreak s.toList
  let word := String.ofList cs
  if s = "" then null
  else if cs = [] then str
  else if truthWords.any fun (w, _) => word ∈ cases w then bool
  else if isFloat cs then float
  else if isInt cs then int
  else if word = "<<" then merge
  else if word = "~" ∨ word ∈ cases "null" then null
  else if (stamp? cs).any fun t => t.padded || t.time.isSome then timestamp
  else if word = "=" then value
  else str

end Tag

end Rollout.Yaml
