import Rollout.Text.Codes
import Rollout.Text.Printable

/-!
# Rollout.Text.Quoted

A text between quotes, as it stands inside a message.  Single quotes are used unless the text holds
one and no double quote; the quote in use and the backslash are escaped, and so is every character
that is not printable.
-/

namespace Rollout.Text

/-- The last `width` hexadecimal digits of a number, in lower case. -/
def hex (width n : Nat) : List Char :=
  (List.range width).reverse.map fun i => Nat.digitChar (n / Nat.pow 16 i % 16)

/-- The quote for a text. -/
def quoteFor (cs : List Char) : Char := if '\'' ∈ cs ∧ '"' ∉ cs then '"' else '\''

/-- One character between quotes. -/
def quotedChar (quote c : Char) : List Char :=
  if c = quote ∨ c = '\\' then ['\\', c]
  else if c = '\n' then ['\\', 'n']
  else if c = '\r' then ['\\', 'r']
  else if c = '\t' then ['\\', 't']
  else if isPrintable c then [c]
  else if c.toNat < 0x100 then '\\' :: 'x' :: hex 2 c.toNat
  else if c.toNat < 0x10000 then '\\' :: 'u' :: hex 4 c.toNat
  else '\\' :: 'U' :: hex 8 c.toNat

/-- One code point between quotes; a surrogate is escaped. -/
def quotedCode (quote : Char) (n : Nat) : List Char :=
  if isSurrogate n then '\\' :: 'u' :: hex 4 n else quotedChar quote (Char.ofNat n)

/-- A text between quotes. -/
def quoted (s : String) : String :=
  let quote := quoteFor s.toList
  String.ofList (quote :: (codesOf s.toList).flatMap (quotedCode quote) ++ [quote])

end Rollout.Text
