import Rollout.Yaml.Scalar

/-!
# Rollout.Yaml.Token

The tokens of a YAML text: signs, names and scalars, and the beginnings and ends of block
collections, which the text shows by indentation only.

* `Token.ofText` — all tokens of a text, the last one either `streamEnd` or the `fault` that keeps
  the text from being read any further.

A key without a `?` is recognised only at its `:`, so the place of every token that may turn out to
be such a key is kept as a `Candidate`, one for each level of flow brackets.  It has to be followed
by its `:` on the same line and within 1024 characters.
-/

namespace Rollout.Yaml

/-- A token of a YAML text. -/
inductive Token where
  /-- `%YAML`, with the major version. -/
  | version (major : Nat)
  /-- `%TAG`, which declares a short form of tags. -/
  | shorthand (handle expansion : String)
  /-- Any other directive. -/
  | reserved
  | documentStart
  | documentEnd
  | blockSequence
  | blockMapping
  | blockEnd
  | openSequence
  | closeSequence
  | openMapping
  | closeMapping
  | comma
  | dash
  | key
  | value
  | reference (name : String)
  | anchor (name : String)
  /-- A tag: its handle, if it has one, and the rest. -/
  | tag (handle : Option String) (suffix : String)
  | scalar (plain : Bool) (codes : List Nat)
  | streamEnd
  | fault (cause : Fault)
  deriving DecidableEq, Repr, Inhabited

/-- A token that may turn out to be a key: its number, whether the text is wrong if it is none, and
where it starts. -/
structure Candidate where
  number : Nat
  required : Bool
  index : Nat
  line : Nat
  column : Nat

/-- The state between two tokens: the place, the tokens so far, the depth of flow brackets, the
indentation of the block collection and of those around it, whether a key may start here, and the
candidates with their depths. -/
structure Lexer where
  cursor : Cursor
  tokens : Array Token
  depth : Nat
  indent : Int
  outer : List Int
  keyAllowed : Bool
  candidates : List (Nat × Candidate)

namespace Lexer

/-- The start of a text, before its first token. -/
def ofText (cs : List Char) : Lexer := ⟨.ofText cs, #[], 0, -1, [], true, []⟩

/-- Whether brackets are open. -/
def inFlow (s : Lexer) : Bool := s.depth ≠ 0

/-- Adds a token. -/
def push (s : Lexer) (t : Token) : Lexer := { s with tokens := s.tokens.push t }

/-- Adds a token that is `n` characters long. -/
def take (s : Lexer) (n : Nat) (t : Token) : Lexer :=
  { s.push t with cursor := s.cursor.advance n }

/-! ## between tokens -/

/-- The place of the next token, over blanks, comments and line breaks.  After a line break in block
context a key may start. -/
def skipSpace : Nat → Lexer → Lexer
  | 0, s => s
  | fuel + 1, s =>
    let c := s.cursor.skip (· = ' ')
    let c := if c.peek = '#' then c.skip (!isBreakOrEnd ·) else c
    match c.lineBreak? with
    | none => { s with cursor := c }
    | some (_, c) => skipSpace fuel { s with cursor := c, keyAllowed := s.keyAllowed || !s.inFlow }

/-- A byte order mark at the start of a text is no part of it. -/
def skipMark (s : Lexer) : Lexer :=
  if s.cursor.index = 0 ∧ s.cursor.peek = '\ufeff' then { s with cursor := s.cursor.next } else s

/-- Whether the `:` can no longer follow. -/
def isStale (s : Lexer) (k : Candidate) : Bool :=
  k.line ≠ s.cursor.line ∨ k.index + 1024 < s.cursor.index

/-- Without the candidates whose `:` can no longer follow. -/
def dropStale (s : Lexer) : Except Fault Lexer :=
  if s.candidates.any fun (_, k) => s.isStale k && k.required then .error .form
  else .ok { s with candidates := s.candidates.filter fun (_, k) => !s.isStale k }

/-- Without the candidate of the present depth, which can be no key any more. -/
def dropCandidate (s : Lexer) : Except Fault Lexer :=
  if s.candidates.any fun (depth, k) => depth = s.depth && k.required then .error .form
  else .ok { s with candidates := s.candidates.filter fun (depth, _) => depth ≠ s.depth }

/-- The next token may be a key, if one is allowed here. -/
def saveCandidate (s : Lexer) : Except Fault Lexer :=
  if s.keyAllowed then do
    let s ← s.dropCandidate
    let c := s.cursor
    let required := !s.inFlow && s.indent = c.column
    return { s with
      candidates := (s.depth, ⟨s.tokens.size, required, c.index, c.line, c.column⟩) ::
        s.candidates }
  else .ok s

/-- Ends the block collections that are indented further than `column`. -/
def unwind (s : Lexer) (column : Int) : Lexer :=
  if s.inFlow then s else go s.indent s.outer s.tokens
where
  go (indent : Int) (outer : List Int) (tokens : Array Token) : Lexer :=
    match outer with
    | before :: rest =>
      if column < indent then go before rest (tokens.push .blockEnd)
      else { s with indent := indent, outer := outer, tokens := tokens }
    | [] => { s with indent := indent, outer := outer, tokens := tokens }

/-- Begins a block collection at `column` unless one is there: its first token goes before the token
of the given number. -/
def beginBlock (s : Lexer) (column : Int) (number : Nat) (t : Token) : Lexer :=
  if s.indent < column then
    { s with
      indent := column
      outer := s.indent :: s.outer
      tokens := s.tokens.insertIdxIfInBounds number t }
  else s

/-! ## names and tags -/

/-- The name after `*` or `&`. -/
def name (s : Lexer) : Except Fault (String × Nat) :=
  let word := s.cursor.next.run isWord
  let after := s.cursor.peekAt (word.length + 1)
  if word = [] then .error .form
  else if isGap after ∨ after ∈ "?:,]\x7d%@`".toList then
    .ok (String.ofList word, word.length + 1)
  else .error .form

/-- A character of a tag's text. -/
def isTagChar (c : Char) : Bool := c.isAlphanum || c ∈ "-;/?:@&=+$,_.!~*'()[]%".toList

/-- The bytes that `%` escapes at the start of a text spell, and the rest. -/
def escapedBytes : List Char → Except Fault (List UInt8 × List Char)
  | '%' :: a :: b :: rest => do
    let some n := Text.ofAscii? 16 [a, b] | .error .form
    let (more, rest) ← escapedBytes rest
    return (n.toUInt8 :: more, rest)
  | '%' :: _ => .error .form
  | rest => .ok ([], rest)

/-- The text of a tag with its escapes resolved, and the rest. -/
def tagChars : Nat → List Char → Except Fault (List Char × List Char)
  | 0, _ => .error .form
  | _, [] => .ok ([], [])
  | fuel + 1, c :: rest =>
    if c = '%' then do
      let (bytes, rest) ← escapedBytes (c :: rest)
      let some s := String.fromUTF8? ⟨bytes.toArray⟩ | .error .form
      let (more, rest) ← tagChars fuel rest
      return (s.toList ++ more, rest)
    else if isTagChar c then do
      let (more, rest) ← tagChars fuel rest
      return (c :: more, rest)
    else .ok ([], c :: rest)

/-- The text of a tag, and the place after it. -/
def tagText (c : Cursor) : Except Fault (String × Cursor) := do
  let (text, rest) ← tagChars (c.rest.length + 1) c.rest
  if rest.length = c.rest.length then .error .form
  return (String.ofList text, c.advance (c.rest.length - rest.length))

/-- A handle: `!`, or a name between two of them. -/
def tagHandle (c : Cursor) : Except Fault (String × Cursor) :=
  let word := c.next.run isWord
  if c.peek ≠ '!' then .error .form
  else if c.peekAt 1 = ' ' then .ok ("!", c.next)
  else if c.peekAt (word.length + 1) = '!' then
    .ok (String.ofList ('!' :: word ++ ['!']), c.advance (word.length + 2))
  else .error .form

/-- A tag. -/
def tag (c : Cursor) : Except Fault (Token × Cursor) := do
  let (t, c) ←
    if c.peekAt 1 = '<' then do
      let (text, c) ← tagText (c.advance 2)
      if c.peek = '>' then pure (Token.tag none text, c.next) else .error .form
    else if isGap (c.peekAt 1) then pure (.tag none "!", c.next)
    else if '!' ∈ (c.next.run (!isGapNoTab ·)) then do
      let (handle, c) ← tagHandle c
      let (text, c) ← tagText c
      pure (.tag (some handle) text, c)
    else do
      let (text, c) ← tagText c.next
      pure (.tag (some "!") text, c)
  if isGapNoTab c.peek then return (t, c) else .error .form

/-! ## directives -/

/-- A number of a version, and the place after it. -/
def versionNumber (c : Cursor) : Except Fault (Nat × Cursor) :=
  let digits := c.run Char.isDigit
  if digits = [] then .error .form
  else if 4300 < digits.length then .error .value
  else .ok (Text.ofAscii digits, c.advance digits.length)

/-- A directive, the cursor standing at its `%`. -/
def directive (c : Cursor) : Except Fault (Token × Cursor) := do
  let word := c.next.run isWord
  let c := c.advance (word.length + 1)
  if word = [] ∨ !isGapNoTab c.peek then .error .form
  let (t, c) ←
    if word = "YAML".toList then do
      let (major, c) ← versionNumber (c.skip (· = ' '))
      if c.peek ≠ '.' then .error .form
      let (_, c) ← versionNumber c.next
      if !isGapNoTab c.peek then .error .form
      pure (Token.version major, c)
    else if word = "TAG".toList then do
      let (handle, c) ← tagHandle (c.skip (· = ' '))
      if c.peek ≠ ' ' then .error .form
      let (expansion, c) ← tagText (c.skip (· = ' '))
      if !isGapNoTab c.peek then .error .form
      pure (.shorthand handle expansion, c)
    else pure (.reserved, c.skip (!isBreakOrEnd ·))
  return (t, ← endOfLine c)

/-! ## one token -/

/-- The end of the document's block collections, before a directive or a line of `---` or `...`. -/
def endDocument (s : Lexer) : Except Fault Lexer := do
  let s ← (s.unwind (-1)).dropCandidate
  return { s with keyAllowed := false }

/-- A token that may be a key, and none may start after it until something else is met. -/
def content (s : Lexer) (read : Cursor → Except Fault (Token × Cursor)) : Except Fault Lexer := do
  let s ← s.saveCandidate
  let (t, c) ← read s.cursor
  return { s.push t with cursor := c, keyAllowed := false }

/-- `-` before an item, or `?` before a key, of a block collection that starts with `first`. -/
def blockSign (s : Lexer) (first t : Token) (keyAfter : Bool) : Except Fault Lexer := do
  if !s.inFlow ∧ !s.keyAllowed then .error .form
  let s := if s.inFlow then s else s.beginBlock s.cursor.column s.tokens.size first
  let s ← { s with keyAllowed := keyAfter }.dropCandidate
  return s.take 1 t

/-- `:` before a value.  If a candidate is there, it is the key. -/
def valueSign (s : Lexer) : Except Fault Lexer := do
  match s.candidates.find? fun (depth, _) => depth = s.depth with
  | some (_, k) =>
    let s := { s with
      candidates := s.candidates.filter fun (depth, _) => depth ≠ s.depth
      tokens := s.tokens.insertIdxIfInBounds k.number .key
      keyAllowed := false }
    let s := if s.inFlow then s else s.beginBlock k.column k.number .blockMapping
    return s.take 1 .value
  | none =>
    if !s.inFlow ∧ !s.keyAllowed then .error .form
    let s := if s.inFlow then s else s.beginBlock s.cursor.column s.tokens.size .blockMapping
    let s ← { s with keyAllowed := !s.inFlow }.dropCandidate
    return s.take 1 .value

/-- A closing bracket. -/
def close (s : Lexer) (t : Token) : Except Fault Lexer := do
  if !s.inFlow then .error .form
  let s ← s.dropCandidate
  return { s.take 1 t with depth := s.depth - 1, keyAllowed := false }

/-- An opening bracket. -/
def openBracket (s : Lexer) (t : Token) : Except Fault Lexer := do
  let s ← s.saveCandidate
  return { s.take 1 t with depth := s.depth + 1, keyAllowed := true }

/-- Whether a text without quotes can start here. -/
def startsPlain (s : Lexer) : Bool :=
  let c := s.cursor.peek
  !(isGap c || c ∈ "-?:,[]\x7b\x7d#&*!|>'\"%@`".toList) ||
    !isGap (s.cursor.peekAt 1) && (c = '-' || !s.inFlow && (c = '?' || c = ':'))

/-- A text without quotes.  After a line break a key may start. -/
def plain (s : Lexer) : Except Fault Lexer := do
  let s ← s.saveCandidate
  let (codes, broke, c) := plainScalar s.inFlow (s.indent + 1) s.cursor
  return { s.push (.scalar true codes) with cursor := c, keyAllowed := broke }

/-- The next token, with the beginnings and ends of collections before it. -/
def step (s : Lexer) : Except Fault Lexer := do
  let s ← (s.skipMark.skipSpace (s.cursor.rest.length + 1)).dropStale
  let s := s.unwind s.cursor.column
  let c := s.cursor
  let gapAfter := isGap (c.peekAt 1)
  match c.peek with
  | '\x00' => return { (← s.endDocument).push .streamEnd with candidates := [] }
  | d =>
    if d = '%' ∧ c.column = 0 then
      let s ← s.endDocument
      let (t, c) ← directive s.cursor
      return { s.push t with cursor := c }
    else if c.column = 0 ∧ c.marks '-' then return (← s.endDocument).take 3 .documentStart
    else if c.column = 0 ∧ c.marks '.' then return (← s.endDocument).take 3 .documentEnd
    else if d = '[' then s.openBracket .openSequence
    else if d = '\x7b' then s.openBracket .openMapping
    else if d = ']' then s.close .closeSequence
    else if d = '\x7d' then s.close .closeMapping
    else if d = ',' then return (← { s with keyAllowed := true }.dropCandidate).take 1 .comma
    else if d = '-' ∧ gapAfter then s.blockSign .blockSequence .dash true
    else if d = '?' ∧ (s.inFlow ∨ gapAfter) then s.blockSign .blockMapping .key !s.inFlow
    else if d = ':' ∧ (s.inFlow ∨ gapAfter) then s.valueSign
    else if d = '*' then
      let (word, size) ← s.name
      s.content fun c => .ok (.reference word, c.advance size)
    else if d = '&' then
      let (word, size) ← s.name
      s.content fun c => .ok (.anchor word, c.advance size)
    else if d = '!' then s.content tag
    else if (d = '|' ∨ d = '>') ∧ !s.inFlow then
      let s ← { s with keyAllowed := true }.dropCandidate
      let (codes, c) ← blockScalar s.indent s.cursor
      return { s.push (.scalar false codes) with cursor := c }
    else if d = '\'' ∨ d = '"' then
      s.content fun c => do
        let (codes, c) ← quotedScalar c
        return (.scalar false codes, c)
    else if s.startsPlain then s.plain
    else .error .form

/-! ## all tokens -/

/-- The number of tokens that are certain: no key can be inserted among them any more. -/
def settled (s : Lexer) : Nat :=
  (s.candidates.filter fun (_, k) => !s.isStale k).foldl (fun n (_, k) => min n k.number)
    s.tokens.size

/-- The tokens up to the end of the text or to the fault.  A fault hides the tokens that are not
certain yet, since nothing can be built from them. -/
def run : Nat → Lexer → List Token
  | 0, s => s.tokens.toList ++ [.fault .form]
  | fuel + 1, s =>
    match s.step with
    | .error cause => s.tokens.toList.take s.settled ++ [.fault cause]
    | .ok t => if t.tokens.back? = some .streamEnd then t.tokens.toList else run fuel t

end Lexer

/-- The tokens of a text. -/
def Token.ofText (cs : List Char) : List Token :=
  if cs.all isAllowed then (Lexer.ofText cs).run (cs.length + 1) else [.fault .form]

end Rollout.Yaml
