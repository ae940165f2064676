/-!
# Rollout.Text.Blank

White space at the ends of texts.  Two standard classes differ only in the four information
separators: `isSpace` is the White_Space property, `isBlank` adds those four.

* `trim` — a text without the characters of a class at its ends;
* `trimRight` — without a character's repetitions at its end, as for the slashes after a base URL.
-/

namespace Rollout.Text

/-- The White_Space property. -/
def isSpace (c : Char) : Bool :=
  ('\t' ≤ c ∧ c ≤ '\r') ∨ c = ' ' ∨ c = '\x85' ∨ c = '\xa0' ∨ c = '\u1680' ∨
    ('\u2000' ≤ c ∧ c ≤ '\u200a') ∨ c = '\u2028' ∨ c = '\u2029' ∨ c = '\u202f' ∨ c = '\u205f' ∨
    c = '\u3000'

/-- White space, or one of the four information separators. -/
def isBlank (c : Char) : Bool := isSpace c || ('\x1c' ≤ c ∧ c ≤ '\x1f')

/-! ## trimming -/

/-- The characters before the last one outside the class `p`, that one included. -/
def dropRight (p : Char → Bool) (cs : List Char) : List Char := (cs.reverse.dropWhile p).reverse

/-- The characters between the first and the last one outside the class `p`. -/
def trimList (p : Char → Bool) (cs : List Char) : List Char := dropRight p (cs.dropWhile p)

/-- A text without the characters of the class `p` at both ends. -/
def trim (p : Char → Bool) (s : String) : String := String.ofList (trimList p s.toList)

/-- A text without the repetitions of `c` at its end. -/
def trimRight (c : Char) (s : String) : String := String.ofList (dropRight (· == c) s.toList)

/-- Trimming leaves no character of the class in front. -/
theorem head?_dropWhile (p : Char → Bool) (cs : List Char) (c : Char)
    (h : (cs.dropWhile p).head? = some c) : p c = false := by
  induction cs with
  | nil => simp at h
  | cons d ds ih => by_cases hd : p d <;> simp_all

/-- Trimming leaves no character of the class at the end. -/
theorem getLast?_dropRight (p : Char → Bool) (cs : List Char) (c : Char)
    (h : (dropRight p cs).getLast? = some c) : p c = false := by
  rw [dropRight, List.getLast?_reverse] at h
  exact head?_dropWhile p _ c h

end Rollout.Text
