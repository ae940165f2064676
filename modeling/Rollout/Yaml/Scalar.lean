import Rollout.Text.Codes
import Rollout.Text.Digit
import Rollout.Yaml.Cursor

/-!
# Rollout.Yaml.Scalar

The text of a scalar in each of the five styles, read from a place in a YAML text.  A text is a list
of code points, since an escape may spell a surrogate.

* `quotedScalar` — between single or double quotes;
* `plainScalar` — without quotes, up to a sign that ends it;
* `blockScalar` — indented below its header, literally or folded.

Each loop carries a fuel; every round consumes a character, so the length of the text is enough.
-/

namespace Rollout.Yaml

/-- The code points of characters. -/
def codes (cs : List Char) : List Nat := cs.map Char.toNat

/-! ## quoted -/

/-- The code point of a one-letter escape between double quotes. -/
def escape? : Char → Option Nat
  | '0' => some 0
  | 'a' => some 7
  | 'b' => some 8
  | 't' | '\t' => some 9
  | 'n' => some 10
  | 'v' => some 11
  | 'f' => some 12
  | 'r' => some 13
  | 'e' => some 27
  | ' ' => some 32
  | '"' => some 34
  | '\\' => some 92
  | '/' => some 47
  | 'N' => some 0x85
  | '_' => some 0xa0
  | 'L' => some 0x2028
  | 'P' => some 0x2029
  | _ => none

/-- The number of hexadecimal digits after the letter of an escape. -/
def escapeWidth? : Char → Option Nat
  | 'x' => some 2
  | 'u' => some 4
  | 'U' => some 8
  | _ => none

/-- The line breaks ahead, with the blanks before them skipped.  A line that separates documents
may not stand inside quotes. -/
def quotedBreaks : Nat → Cursor → Except Fault (List Nat × Cursor)
  | 0, _ => .error .form
  | fuel + 1, c =>
    if c.separates then .error .form
    else
      let c := c.skip fun d => d = ' ' ∨ d = '\t'
      match c.lineBreak? with
      | none => .ok ([], c)
      | some (d, c) => do
        let (more, c) ← quotedBreaks fuel c
        return (d.toNat :: more, c)

/-- The characters up to the next blank, line break or closing quote. -/
def quotedWord (double : Bool) : Nat → Cursor → Except Fault (List Nat × Cursor)
  | 0, _ => .error .form
  | fuel + 1, c => do
    let literal := c.run fun d => !(isGap d || d = '\'' || d = '"' || d = '\\')
    let c := c.advance literal.length
    let found ← match c.peek with
      | '\'' =>
        if double then pure (some ([39], c.next))
        else if c.peekAt 1 = '\'' then pure (some ([39], c.advance 2))
        else pure none
      | '"' => pure (if double then none else some ([34], c.next))
      | '\\' =>
        if !double then pure (some ([92], c.next))
        else
          let letter := c.peekAt 1
          match escape? letter, escapeWidth? letter with
          | some n, _ => pure (some ([n], c.advance 2))
          | none, some width =>
            match Text.ofAscii? 16 ((c.rest.drop 2).take width) with
            | none => .error .form
            | some n =>
              if (c.rest.drop 2).length < width then .error .form
              else if 0x7fffffff < n then .error .overflow
              else if 0x10ffff < n then .error .value
              else pure (some ([n], c.advance (2 + width)))
          | none, none =>
            match c.next.lineBreak? with
            | none => .error .form
            | some (_, c) => do
              let (breaks, c) ← quotedBreaks fuel c
              pure (some (breaks, c))
      | _ => pure none
    match found with
    | none => return (codes literal, c)
    | some (more, c) =>
      let (last, c) ← quotedWord double fuel c
      return (codes literal ++ more ++ last, c)

/-- The blanks ahead: kept within a line, folded around line breaks. -/
def quotedSpace (fuel : Nat) (c : Cursor) : Except Fault (List Nat × Cursor) :=
  let blanks := c.run fun d => d = ' ' ∨ d = '\t'
  let c := c.advance blanks.length
  if c.peek = '\x00' then .error .form
  else
    match c.lineBreak? with
    | none => .ok (codes blanks, c)
    | some (d, c) => do
      let (breaks, c) ← quotedBreaks fuel c
      let first := if d ≠ '\n' then [d.toNat] else if breaks = [] then [32] else []
      return (first ++ breaks, c)

/-- The rest of a quoted text, up to its closing quote. -/
def quotedRest (double : Bool) : Nat → Cursor → Except Fault (List Nat × Cursor)
  | 0, _ => .error .form
  | fuel + 1, c => do
    let (word, c) ← quotedWord double (c.rest.length + 1) c
    if c.peek = (if double then '"' else '\'') then return (word, c.next)
    else
      let (space, c) ← quotedSpace (c.rest.length + 1) c
      let (last, c) ← quotedRest double fuel c
      return (word ++ space ++ last, c)

/-- A text between quotes, the cursor standing at the opening one. -/
def quotedScalar (c : Cursor) : Except Fault (List Nat × Cursor) :=
  quotedRest (c.peek = '"') (c.rest.length + 1) c.next

/-! ## plain -/

/-- The number of characters of a plain text up to the next one that ends it or a word of it. -/
def plainLength (inFlow : Bool) : List Char → Nat
  | [] => 0
  | d :: rest =>
    let after := rest.headD '\x00'
    let flowSign (e : Char) : Bool := e = ',' ∨ e = '[' ∨ e = ']' ∨ e = '\x7b' ∨ e = '\x7d'
    if isGap d ∨ (d = ':' ∧ (isGap after ∨ (inFlow ∧ flowSign after))) ∨
        (inFlow ∧ (flowSign d ∨ d = '?')) then 0
    else plainLength inFlow rest + 1

/-- The line breaks ahead, with blanks between them; none where a line separates documents. -/
def plainBreaks : Nat → Cursor → Option (List Nat) × Cursor
  | 0, c => (none, c)
  | fuel + 1, c =>
    if c.separates then (none, c)
    else
      let c := c.skip (· = ' ')
      match c.lineBreak? with
      | none => (some [], c)
      | some (d, c) =>
        let (more, c) := plainBreaks fuel c
        (more.map (d.toNat :: ·), c)

/-- The space ahead within a plain text: kept within a line, folded around line breaks.  The truth
value tells whether a line break was passed. -/
def plainSpace (c : Cursor) : List Nat × Bool × Cursor :=
  let blanks := c.run (· = ' ')
  let c := c.advance blanks.length
  match c.lineBreak? with
  | none => (codes blanks, false, c)
  | some (d, c) =>
    let (breaks, c) := plainBreaks (c.rest.length + 1) c
    match breaks with
    | none => ([], true, c)
    | some breaks =>
      let first := if d ≠ '\n' then [d.toNat] else if breaks = [] then [32] else []
      (first ++ breaks, true, c)

/-- The words of a plain text and the spaces between them, and whether a line break follows the last
word. -/
def plainWords (inFlow : Bool) (indent : Int) :
    Nat → List Nat → Bool → Cursor → List Nat × Bool × Cursor
  | 0, _, broke, c => ([], broke, c)
  | fuel + 1, space, broke, c =>
    let size := plainLength inFlow c.rest
    if c.peek = '#' ∨ size = 0 then ([], broke, c)
    else
      let word := codes (c.rest.take size)
      let (after, broke, c) := plainSpace (c.advance size)
      if after = [] ∨ c.peek = '#' ∨ (!inFlow ∧ (c.column : Int) < indent) then
        (space ++ word, broke, c)
      else
        let (more, broke, c) := plainWords inFlow indent fuel after broke c
        (space ++ word ++ more, broke, c)

/-- A text without quotes.  In block context it ends at a line indented less than `indent`; the
truth value tells whether a line break follows. -/
def plainScalar (inFlow : Bool) (indent : Int) (c : Cursor) : List Nat × Bool × Cursor :=
  plainWords inFlow indent (c.rest.length + 1) [] false c

/-! ## block -/

/-- What becomes of the line breaks at the end of a block text. -/
inductive Chomp where
  | strip
  | clip
  | keep

/-- The signs after `|` or `>`: how to end, and the indentation if it is given. -/
def blockHeader (c : Cursor) : Except Fault (Chomp × Option Nat × Cursor) := do
  let chomp (c : Cursor) : Option Chomp :=
    if c.peek = '+' then some .keep else if c.peek = '-' then some .strip else none
  let digit (c : Cursor) : Option Nat := if c.peek.isDigit then some (c.peek.toNat - 48) else none
  let (ending, width, c) := match chomp c with
    | some e =>
      match digit c.next with
      | some n => (e, some n, c.advance 2)
      | none => (e, none, c.next)
    | none =>
      match digit c with
      | some n =>
        match chomp c.next with
        | some e => (e, some n, c.advance 2)
        | none => (.clip, some n, c.next)
      | none => (.clip, none, c)
  if width = some 0 ∨ !isGapNoTab c.peek then .error .form
  return (ending, width, c)

/-- The place after the rest of a line that holds blanks and possibly a comment. -/
def endOfLine (c : Cursor) : Except Fault Cursor :=
  let c := c.skip (· = ' ')
  let c := if c.peek = '#' then c.skip (!isBreakOrEnd ·) else c
  if isBreakOrEnd c.peek then .ok (match c.lineBreak? with
    | some (_, c) => c
    | none => c)
  else .error .form

/-- The line breaks before the first line of a block text, and the widest indentation among the
lines passed. -/
def blockIndent : Nat → Nat → Cursor → List Nat × Nat × Cursor
  | 0, widest, c => ([], widest, c)
  | fuel + 1, widest, c =>
    let c := c.skip (· = ' ')
    let widest := max widest c.column
    match c.lineBreak? with
    | none => ([], widest, c)
    | some (d, c) =>
      let (more, widest, c) := blockIndent fuel widest c
      (d.toNat :: more, widest, c)

/-- The empty lines ahead, and the place where the next line's text starts. -/
def blockBreaks (indent : Nat) : Nat → Cursor → List Nat × Cursor
  | 0, c => ([], c)
  | fuel + 1, c =>
    let c := c.skipIndent indent
    match c.lineBreak? with
    | none => ([], c)
    | some (d, c) =>
      let (more, c) := blockBreaks indent fuel c
      (d.toNat :: more, c)

/-- The lines of a block text, the cursor standing at the first one; then the last line break and
the empty lines after it. -/
def blockLines (folded : Bool) (indent : Nat) :
    Nat → List Nat → Cursor → List Nat × List Nat × List Nat × Cursor
  | 0, breaks, c => ([], [], breaks, c)
  | fuel + 1, breaks, c =>
    if c.column ≠ indent ∨ c.peek = '\x00' then ([], [], breaks, c)
    else
      let open? (d : Char) : Bool := d ≠ ' ' ∧ d ≠ '\t'
      let leading := open? c.peek
      let line := c.run (!isBreakOrEnd ·)
      let c := c.advance line.length
      let (ending, c) := match c.lineBreak? with
        | some (d, c) => ([d.toNat], c)
        | none => ([], c)
      let (after, c) := blockBreaks indent (c.rest.length + 1) c
      if c.column = indent ∧ c.peek ≠ '\x00' then
        let joint :=
          if folded ∧ ending = [10] ∧ leading ∧ open? c.peek then (if after = [] then [32] else [])
          else ending
        let (more, last, tail, c) := blockLines folded indent fuel after c
        (breaks ++ codes line ++ joint ++ more, last, tail, c)
      else (breaks ++ codes line, ending, after, c)

/-- A block text below a node indented by `parent`, the cursor standing at its header. -/
def blockScalar (parent : Int) (c : Cursor) : Except Fault (List Nat × Cursor) := do
  let folded := c.peek = '>'
  let (chomp, width, c) ← blockHeader c.next
  let c ← endOfLine c
  let least := (max (parent + 1) 1).toNat
  let fuel := c.rest.length + 1
  let (indent, breaks, c) := match width with
    | some n =>
      let (breaks, c) := blockBreaks (least + n - 1) fuel c
      (least + n - 1, breaks, c)
    | none =>
      let (breaks, widest, c) := blockIndent fuel 0 c
      (max least widest, breaks, c)
  let (lines, last, tail, c) := blockLines folded indent fuel breaks c
  let ending := match chomp with
    | .strip => []
    | .clip => last
    | .keep => last ++ tail
  return (lines ++ ending, c)

end Rollout.Yaml
