import Rollout.Document
import Rollout.Number.Numeral
import Rollout.Text.Blank
import Rollout.Text.Digit
import Rollout.Time.Reading

/-!
# Rollout.Document.Lenient

Documents as plain values, read leniently: a number may be spelled as a text, a truth value as a
word or a number, a moment as a number of seconds.

* `asText?`, `asFlag?`, `asWhole?`, `asReal?`, `asTime?` — scalars;
* `asLabels?`, `asList?` — maps from text to text, and lists;
* `strictText?`, `strictWhole?` — the same kinds, without any leniency.
-/

namespace Rollout

/-- Texts under names, in order. -/
abbrev Labels := List (String × String)

/-- A text that is there and not empty. -/
def nonEmpty? (s : Option String) : Option String := s.filter (· ≠ "")

namespace Document

/-! ## texts -/

/-- A text, or bytes that encode one. -/
def asText? : Document → Option String
  | text s => some s
  | bytes bs => String.fromUTF8? ⟨bs.toArray⟩
  | _ => none

/-- A text that is none of bytes. -/
def strictText? : Document → Option String
  | text s => some s
  | _ => none

/-- The characters of a scalar that is spelled out; a text with surrogates spells nothing. -/
def spelled? : Document → Option (List Char)
  | text s => if Text.hasHalves s then none else some s.toList
  | bytes bs => (String.fromUTF8? ⟨bs.toArray⟩).map String.toList
  | _ => none

/-! ## truth values -/

/-- Words for the truth values, in any case. -/
def flagWords : List (String × Bool) := [
  ("0", false), ("off", false), ("f", false), ("false", false), ("n", false), ("no", false),
  ("1", true), ("on", true), ("t", true), ("true", true), ("y", true), ("yes", true)]

/-- A truth value, zero or one, or a word for one. -/
def asFlag? : Document → Option Bool
  | bool b => some b
  | int i => if i = 0 then some false else if i = 1 then some true else none
  | float x => if x.same .zero then some false else if x.toInt? = some 1 then some true else none
  | d => do flagWords.lookup (String.ofList ((← d.spelled?).map Char.toLower))

/-! ## whole numbers -/

/-- The zeros in front of a numeral, with underscores between them, left out; the one before a point
stays.  A minus sign may follow them. -/
def dropZeros : List Char → Option (List Char)
  | '0' :: rest =>
    match rest.dropWhile fun c => c = '0' || c = '_' with
    | [] => some [(rest.getLast?).getD '0']
    | '.' :: more => some ((('0' :: rest).take (rest.length - more.length)).getLastD '0' :: '.' :: more)
    | c :: more => if c.isDigit ∨ c = '-' then some (c :: more) else none
  | c :: rest => if c.isDigit then some (c :: rest) else none
  | [] => none

/-- A fraction of zeros left out. -/
def dropFraction (cs : List Char) : List Char :=
  match cs.dropWhile (· ≠ '.') with
  | _ :: fraction =>
    if fraction ≠ [] ∧ fraction.all (· = '0') then cs.takeWhile (· ≠ '.') else cs
  | [] => cs

/-- Whether two underscores stand side by side. -/
def hasDoubleBar : List Char → Bool
  | '_' :: '_' :: _ => true
  | _ :: rest => hasDoubleBar rest
  | [] => false

/-- Single underscores between other characters left out; none if there are others, or none at
all. -/
def dropBars? (cs : List Char) : Option (List Char) :=
  if cs.head? = some '_' ∨ cs.getLast? = some '_' ∨ hasDoubleBar cs ∨ '_' ∉ cs then none
  else some (cs.filter (· ≠ '_'))

/-- A whole number in its plain notation: a minus sign, and digits without a zero in front. -/
def plainWhole? (cs : List Char) : Option Int :=
  let (negative, digits) := match cs with
    | '-' :: r => (true, r)
    | r => (false, r)
  if digits = [] ∨ !digits.all Char.isDigit ∨ mostDigits < digits.length ∨
      (digits.head? = some '0' ∧ digits.length ≠ 1) then none
  else
    let size : Int := Text.ofAscii digits
    some (if negative then -size else size)

/-- A whole number with blanks around it, a sign, zeros in front, underscores between digits or a
fraction of zeros. -/
def wholeOfText? (cs : List Char) : Option Int :=
  (plainWhole? cs).or do
    let (minus, body) ← match Text.trimList Text.isSpace cs with
      | '+' :: '-' :: _ => none
      | body => some (splitSign body)
    let digits := dropFraction (← dropZeros body)
    let digits := (dropBars? digits).getD digits
    plainWhole? (if minus then '-' :: digits else digits)

/-- The whole number that a floating point number is, if it fits in 64 bits. -/
def wholeOfReal? (x : Binary64) : Option Int := do
  let i ← x.toInt?
  guard (-0x8000000000000000 < i ∧ i < 0x8000000000000000)
  return i

/-- A whole number, also as a truth value, as a floating point number without a fraction, or spelled
out. -/
def asWhole? : Document → Option Int
  | int i => some i
  | bool b => some (if b then 1 else 0)
  | float x => wholeOfReal? x
  | d => do wholeOfText? (← d.spelled?)

/-- A whole number that is written as one. -/
def strictWhole? : Document → Option Int
  | int i => some i
  | _ => none

/-! ## floating point numbers -/

/-- A floating point number, also as a whole number or a truth value, or spelled out. -/
def asReal? : Document → Option Binary64
  | float x => some x
  | int i => Binary64.ofInt? i
  | bool b => some (Binary64.ofQuotient false (if b then 1 else 0) 1)
  | d => do
    let cs ← d.spelled?
    (Binary64.ofText? (Text.trimList Text.isSpace cs)).or ((dropBars? cs).bind Binary64.ofText?)

/-! ## moments -/

/-- A moment, also as a date, a number of seconds, or spelled out. -/
def asTime? : Document → Option DateTime
  | time t => some t
  | date days => some (.ofDay days)
  | int i =>
    if -0x8000000000000000 ≤ i ∧ i < 0x8000000000000000 then DateTime.ofSeconds? i
    else (Binary64.ofInt? i).bind DateTime.ofFloat?
  | float x => DateTime.ofFloat? x
  | d => do DateTime.ofTimestamp? (String.ofList (← d.spelled?))

/-! ## collections -/

/-- A text set under a name: a name that is there keeps its place. -/
def setLabel (labels : Labels) (name value : String) : Labels :=
  match labels with
  | [] => [(name, value)]
  | (k, v) :: rest => if k = name then (k, value) :: rest else (k, v) :: setLabel rest name value

/-- A map from text to text. -/
def asLabels? : Document → Option Labels
  | map _ entries => do
    let pairs ← entries.mapM fun (k, v) => do return (← k.asText?, ← v.asText?)
    return pairs.foldl (fun labels (k, v) => setLabel labels k v) []
  | _ => none

/-- A list, or the members of a set, each read by `read`. -/
def asList? {α : Type} (read : Document → Option α) : Document → Option (List α)
  | list items | set items => items.mapM read
  | _ => none

end Document

end Rollout
