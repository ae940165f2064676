import Rollout.Document
import Rollout.Number.Numeral
import Rollout.Number.Shortest
import Rollout.Text.Codes
import Rollout.Text.Digit
import Rollout.Text.Quoted

/-!
# Rollout.Document.Json

JSON text of documents.

* `readJson`, `ofJson?` — reading, down to some depth or to any.  Whole numbers and numbers with a
  point or exponent are different kinds, members keep their order, of two members with one name the
  last value counts, and the words `NaN`, `Infinity` and `-Infinity` are numbers;
* `json`, `unicodeJson` — writing on one line, in ASCII or with all characters.
-/

namespace Rollout.Document

/-! ## reading -/

/-- The rest of a text after JSON white space. -/
def skipBlank (cs : List Char) : List Char :=
  cs.dropWhile fun c => c = ' ' ∨ c = '\t' ∨ c = '\n' ∨ c = '\r'

/-- The character that a one-letter escape stands for. -/
def escaped? : Char → Option Nat
  | '"' => some 34
  | '\\' => some 92
  | '/' => some 47
  | 'b' => some 8
  | 'f' => some 12
  | 'n' => some 10
  | 'r' => some 13
  | 't' => some 9
  | _ => none

/-- The code points of a string after its opening quote, and the rest after the closing one. -/
def readString : List Char → Option (List Nat × List Char)
  | [] => none
  | '"' :: rest => some ([], rest)
  | '\\' :: 'u' :: a :: b :: c :: d :: rest => do
    let n ← Text.ofAscii? 16 [a, b, c, d]
    let (codes, rest) ← readString rest
    return (n :: codes, rest)
  | '\\' :: c :: rest => do
    let n ← escaped? c
    let (codes, rest) ← readString rest
    return (n :: codes, rest)
  | c :: rest => do
    guard (' ' ≤ c)
    let (codes, rest) ← readString rest
    return (c.toNat :: codes, rest)

/-- A number without its sign, and the rest. -/
def readNumber (negative : Bool) (cs : List Char) : Option (Document × List Char) := do
  let whole := cs.takeWhile Char.isDigit
  let rest := cs.dropWhile Char.isDigit
  guard (whole ≠ [] ∧ (whole.head? ≠ some '0' ∨ whole.length = 1))
  let (fraction, afterFraction) := match rest with
    | '.' :: r =>
      if (r.takeWhile Char.isDigit) = [] then ([], rest)
      else (r.takeWhile Char.isDigit, r.dropWhile Char.isDigit)
    | r => ([], r)
  let (power, last) := match afterFraction with
    | c :: r =>
      if c = 'e' ∨ c = 'E' then
        let (minus, digits) := match r with
          | '-' :: t => (true, t)
          | '+' :: t => (false, t)
          | t => (false, t)
        let shown := digits.takeWhile Char.isDigit
        if shown = [] then (none, afterFraction)
        else
          let size : Int := Text.ofAscii shown
          (some (if minus then -size else size), digits.dropWhile Char.isDigit)
      else (none, afterFraction)
    | [] => (none, afterFraction)
  if fraction = [] ∧ power = none then
    guard (whole.length ≤ mostDigits)
    let size : Int := Text.ofAscii whole
    return (int (if negative then -size else size), last)
  else
    let exponent := power.getD 0 - fraction.length
    return (float (Binary64.ofDecimal negative (Text.ofAscii (whole ++ fraction)) exponent), last)

/-- The rest of a text after a word. -/
def afterWord? (word : String) (cs : List Char) : Option (List Char) :=
  if cs.take word.length = word.toList then some (cs.drop word.length) else none

/-- A value that is neither a string nor a container. -/
def readAtom (cs : List Char) : Option (Document × List Char) :=
  ((afterWord? "null" cs).map (null, ·)).or <|
  ((afterWord? "true" cs).map (bool true, ·)).or <|
  ((afterWord? "false" cs).map (bool false, ·)).or <|
  ((afterWord? "NaN" cs).map (float .nan, ·)).or <|
  ((afterWord? "Infinity" cs).map (float (.infinite false), ·)).or <|
  ((afterWord? "-Infinity" cs).map (float (.infinite true), ·)).or <|
  match cs with
  | '-' :: rest => readNumber true rest
  | rest => readNumber false rest

/-- Why a text holds no document. -/
inductive JsonFault where
  /-- It breaks a rule of the format. -/
  | form
  /-- It is nested too deep. -/
  | tooDeep
  deriving DecidableEq, Repr

/-- A reading that is there, or a text that breaks a rule. -/
def orForm {α : Type} (a : Option α) : Except JsonFault α := a.elim (.error .form) .ok

mutual

/-- The value at the start of a text, and the rest.  `room` is how deep it may be nested.  The fuel
bounds the depth and the number of parts; twice the length of the text is enough, since every part
has a character of its own, and a collection takes two rounds. -/
def readValue (room : Nat) : Nat → List Char → Except JsonFault (Document × List Char)
  | 0, _ => .error .form
  | fuel + 1, cs =>
    match skipBlank cs with
    | '"' :: rest => orForm ((readString rest).map fun (codes, rest) =>
        (ofCodes (Text.joinPairs codes), rest))
    | '[' :: rest =>
      match skipBlank rest, room with
      | ']' :: rest, _ => .ok (list [], rest)
      | _, 0 => .error .tooDeep
      | rest, room + 1 => (readItems room fuel rest).map fun (items, rest) => (list items, rest)
    | '\x7b' :: rest =>
      match skipBlank rest, room with
      | '\x7d' :: rest, _ => .ok (map none [], rest)
      | _, 0 => .error .tooDeep
      | rest, room + 1 => (readMembers room fuel rest).map fun (members, rest) =>
          (map none (ofEntries members), rest)
    | rest => orForm (readAtom rest)

/-- The values of a list up to its closing bracket. -/
def readItems (room : Nat) : Nat → List Char → Except JsonFault (List Document × List Char)
  | 0, _ => .error .form
  | fuel + 1, cs => do
    let (item, rest) ← readValue room fuel cs
    match skipBlank rest with
    | ']' :: rest => return ([item], rest)
    | ',' :: rest =>
      let (items, rest) ← readItems room fuel rest
      return (item :: items, rest)
    | _ => throw .form

/-- The members of an object up to its closing brace. -/
def readMembers (room : Nat) :
    Nat → List Char → Except JsonFault (List (Document × Document) × List Char)
  | 0, _ => .error .form
  | fuel + 1, cs =>
    match skipBlank cs with
    | '"' :: rest => do
      let (codes, rest) ← orForm (readString rest)
      match skipBlank rest with
      | ':' :: rest =>
        let (value, rest) ← readValue room fuel rest
        let member := (ofCodes (Text.joinPairs codes), value)
        match skipBlank rest with
        | '\x7d' :: rest => return ([member], rest)
        | ',' :: rest =>
          let (members, rest) ← readMembers room fuel rest
          return (member :: members, rest)
        | _ => throw .form
      | _ => throw .form
    | _ => .error .form

end

/-- The document that a JSON text holds, if it holds exactly one and is not nested deeper than
`room`. -/
def readJson (room : Nat) (cs : List Char) : Except JsonFault Document := do
  let (value, rest) ← readValue room (2 * cs.length + 1) cs
  if skipBlank rest = [] then return value else throw .form

/-- The document that a JSON text holds, if it holds exactly one. -/
def ofJson? (s : String) : Option Document := (readJson s.length s.toList).toOption

/-! ## writing -/

/-- Which characters of a JSON string are written as they are: those of ASCII, or all. -/
inductive Charset where
  | ascii
  | unicode
  deriving DecidableEq, Repr

/-- Whether a character is written as it is. -/
def Charset.holds : Charset → Char → Bool
  | ascii, c => ' ' ≤ c && c ≤ '~'
  | unicode, c => ' ' ≤ c

/-- One character of a JSON string. -/
def jsonChar (charset : Charset) (c : Char) : List Char :=
  if c = '"' ∨ c = '\\' then ['\\', c]
  else if c = '\n' then ['\\', 'n']
  else if c = '\r' then ['\\', 'r']
  else if c = '\t' then ['\\', 't']
  else if c = '\x08' then ['\\', 'b']
  else if c = '\x0c' then ['\\', 'f']
  else if charset.holds c then [c]
  else (Text.units c).flatMap fun n => '\\' :: 'u' :: Text.hex 4 n

/-- One code point of a JSON string; a surrogate is escaped. -/
def jsonCode (charset : Charset) (n : Nat) : List Char :=
  if Text.isSurrogate n then '\\' :: 'u' :: Text.hex 4 n else jsonChar charset (Char.ofNat n)

/-- A JSON string. -/
def jsonString (charset : Charset) (s : String) : List Char :=
  '"' :: (Text.codesOf s.toList).flatMap (jsonCode charset) ++ ['"']

/-- Parts with a comma and a blank between them. -/
def commaList : List (List Char) → List Char
  | [] => []
  | [part] => part
  | part :: parts => part ++ ',' :: ' ' :: commaList parts

mutual

/-- The characters of the JSON text.  What JSON has no notation for is written as its parts or its
text. -/
def jsonChars (charset : Charset) : Document → List Char
  | null => "null".toList
  | bool b => (if b then "true" else "false").toList
  | int i => (toString i).toList
  | float x => x.text.toList
  | text s => jsonString charset s
  | bytes bs => commaList (bs.map fun b => (toString b).toList)
  | date day => jsonString charset (DateTime.dayText day)
  | time t => jsonString charset t.text
  | list items | set items => '[' :: commaList (jsonItems charset items) ++ [']']
  | map _ entries => '\x7b' :: commaList (jsonMembers charset entries) ++ ['\x7d']
  | endless => "null".toList

def jsonItems (charset : Charset) : List Document → List (List Char)
  | [] => []
  | d :: ds => jsonChars charset d :: jsonItems charset ds

def jsonMembers (charset : Charset) : List (Document × Document) → List (List Char)
  | [] => []
  | (k, v) :: rest =>
    (jsonChars charset k ++ ':' :: ' ' :: jsonChars charset v) :: jsonMembers charset rest

end

/-- The JSON text of a document, on one line and in ASCII. -/
def json (d : Document) : String := String.ofList (jsonChars .ascii d)

/-- The JSON text of a document, on one line and with all characters as they are. -/
def unicodeJson (d : Document) : String := String.ofList (jsonChars .unicode d)

end Rollout.Document
