/-!
# Rollout.Yaml.Cursor

A place in a YAML 1.1 text: the characters that are left, and the index, line and column that they
start at.  The end of the text reads as the character zero, which no YAML text holds.

* `peek`, `peekAt` — the characters ahead;
* `advance` — over a number of characters, keeping line and column;
* `lineBreak` — over one line break, however it is written.
-/

namespace Rollout.Yaml

/-- Why a text is no document.  All faults of its form are one cause; the others are scalars whose
text is right but whose value does not exist. -/
inductive Fault where
  /-- The text breaks a rule of the format or of its composition. -/
  | form
  /-- A number, date or character code without a value. -/
  | value
  /-- A number without any digits. -/
  | emptyNumber
  /-- A word that is no truth value, explicitly tagged as one. -/
  | truthWord
  /-- A text that is no timestamp, explicitly tagged as one. -/
  | timestamp
  /-- A timestamp that a mapping stands for. -/
  | timestampOfMapping
  /-- Collections inside each other without end, or too many of them. -/
  | tooDeep
  /-- A character code beyond any integer width. -/
  | overflow
  deriving DecidableEq, Repr

/-! ## characters -/

/-- A character that may occur in a text. -/
def isAllowed (c : Char) : Bool :=
  c = '\t' ∨ c = '\n' ∨ c = '\r' ∨ (' ' ≤ c ∧ c ≤ '~') ∨ c = '\x85' ∨
    ('\xa0' ≤ c ∧ c ≤ '\ufffd') ∨ 0x10000 ≤ c.toNat

/-- A character that breaks the line. -/
def isBreak (c : Char) : Bool :=
  c = '\n' ∨ c = '\r' ∨ c = '\x85' ∨ c = '\u2028' ∨ c = '\u2029'

/-- A line break or the end of the text. -/
def isBreakOrEnd (c : Char) : Bool := isBreak c || c = '\x00'

/-- A blank, a line break or the end of the text. -/
def isGapNoTab (c : Char) : Bool := isBreakOrEnd c || c = ' '

/-- A blank, a tab, a line break or the end of the text. -/
def isGap (c : Char) : Bool := isGapNoTab c || c = '\t'

/-- A character of a name. -/
def isWord (c : Char) : Bool := c.isAlphanum || c = '-' || c = '_'

/-! ## places -/

/-- A place in a text. -/
structure Cursor where
  rest : List Char
  index : Nat
  line : Nat
  column : Nat

namespace Cursor

/-- The start of a text. -/
def ofText (cs : List Char) : Cursor := ⟨cs, 0, 0, 0⟩

/-- The character `n` places ahead. -/
def peekAt (c : Cursor) (n : Nat) : Char := c.rest.getD n '\x00'

/-- The character ahead. -/
def peek (c : Cursor) : Char := c.peekAt 0

/-- The place after one character.  A carriage return before a line feed does not count as a line
break of its own, and a byte order mark takes no column. -/
def next (c : Cursor) : Cursor :=
  match c.rest with
  | [] => c
  | d :: rest =>
    if d ≠ '\r' ∧ isBreak d ∨ d = '\r' ∧ rest.head? ≠ some '\n' then
      ⟨rest, c.index + 1, c.line + 1, 0⟩
    else if d = '\ufeff' then ⟨rest, c.index + 1, c.line, c.column⟩
    else ⟨rest, c.index + 1, c.line, c.column + 1⟩

/-- The place after `n` characters. -/
def advance (c : Cursor) : Nat → Cursor
  | 0 => c
  | n + 1 => c.next.advance n

/-- The characters of a class ahead. -/
def run (c : Cursor) (p : Char → Bool) : List Char := c.rest.takeWhile p

/-- The place after the characters of a class. -/
def skip (c : Cursor) (p : Char → Bool) : Cursor := c.advance (c.run p).length

/-- The place after blanks, as long as they stand left of the given column. -/
def skipIndent (c : Cursor) (column : Nat) : Cursor :=
  c.advance (min (c.run (· = ' ')).length (column - c.column))

/-- The line break ahead in its normal form, and the place after it; none if there is no line
break. -/
def lineBreak? (c : Cursor) : Option (Char × Cursor) :=
  if c.peek = '\r' ∧ c.peekAt 1 = '\n' then some ('\n', c.advance 2)
  else if c.peek = '\r' ∨ c.peek = '\n' ∨ c.peek = '\x85' then some ('\n', c.next)
  else if c.peek = '\u2028' ∨ c.peek = '\u2029' then some (c.peek, c.next)
  else none

/-- Whether three equal characters and a gap are ahead. -/
def marks (c : Cursor) (d : Char) : Bool :=
  c.peek = d ∧ c.peekAt 1 = d ∧ c.peekAt 2 = d ∧ isGap (c.peekAt 3)

/-- Whether a line that separates documents begins here. -/
def separates (c : Cursor) : Bool := c.marks '-' || c.marks '.'

end Cursor

end Rollout.Yaml
