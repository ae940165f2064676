/-!
# Rollout.Text.Codes

Texts as lists of code points, which may hold surrogates: escapes can spell any code point, and a
character outside the basic plane is two surrogates in some notations.

* `joinPairs` — each high surrogate followed by a low one becomes the character the pair encodes;
* `units` — the reverse for one character;
* `ofCodes`, `codesOf` — code points as characters, and back: a surrogate is written as a sign and a
  character for its value, so that no two lists of code points are one text;
* `hasHalves` — whether a text holds surrogates.
-/

namespace Rollout.Text

/-- The first half of a pair. -/
def isHigh (n : Nat) : Bool := 0xd800 ≤ n ∧ n < 0xdc00

/-- The second half of a pair. -/
def isLow (n : Nat) : Bool := 0xdc00 ≤ n ∧ n < 0xe000

/-- A half of a pair, which stands for no character. -/
def isSurrogate (n : Nat) : Bool := 0xd800 ≤ n ∧ n < 0xe000

/-- The code point that a pair of surrogates encodes. -/
def pairCode (high low : Nat) : Nat := 0x10000 + (high - 0xd800) * 0x400 + (low - 0xdc00)

/-- The code points with every pair of surrogates joined. -/
def joinPairs : List Nat → List Nat
  | [] => []
  | [n] => [n]
  | a :: b :: rest =>
    if isHigh a ∧ isLow b then pairCode a b :: joinPairs rest else a :: joinPairs (b :: rest)

/-- The code units of a character: two surrogates outside the basic plane. -/
def units (c : Char) : List Nat :=
  let n := c.toNat
  if n < 0x10000 then [n] else [0xd800 + (n - 0x10000) / 0x400, 0xdc00 + (n - 0x10000) % 0x400]

/-! ## surrogates in texts -/

/-- Whether a character after the sign `\uffff` would be taken for a part of it: one that stands for a
surrogate, or the mark of a sign that stands for itself. -/
def isHalfPart (n : Nat) : Bool := (0xe000 ≤ n ∧ n < 0xe800) ∨ n = 0xefff

/-- The characters of code points.  A surrogate becomes the sign `\uffff` and a private character; a
sign that stands for itself is marked where the next character would be taken for a part of it. -/
def charsOf : List Nat → List Char
  | [] => []
  | n :: rest =>
    if isSurrogate n then '\uffff' :: Char.ofNat (n + 0x800) :: charsOf rest
    else if n = 0xffff ∧ rest.head?.any isHalfPart then '\uffff' :: '\uefff' :: charsOf rest
    else Char.ofNat n :: charsOf rest

/-- The text of code points. -/
def ofCodes (codes : List Nat) : String := String.ofList (charsOf codes)

/-- The code points of characters. -/
def codesOf : List Char → List Nat
  | [] => []
  | [c] => [c.toNat]
  | c :: d :: rest =>
    if c = '\uffff' ∧ d = '\uefff' then 0xffff :: codesOf rest
    else if c = '\uffff' ∧ isHalfPart d.toNat then (d.toNat - 0x800) :: codesOf rest
    else c.toNat :: codesOf (d :: rest)

/-- Whether a text holds surrogates. -/
def hasHalves (s : String) : Bool := (codesOf s.toList).any isSurrogate

/-- The characters that stand for themselves. -/
theorem codesOf_cons {c : Char} {cs : List Char}
    (h : c = '\uffff' → cs.head?.any (fun d => isHalfPart d.toNat) = false) :
    codesOf (c :: cs) = c.toNat :: codesOf cs := by
  cases cs with
  | nil => rfl
  | cons d rest =>
      by_cases hc : c = '\uffff'
      · have hd : isHalfPart d.toNat = false := h hc
        have hmark : d ≠ '\uefff' := by
          rintro rfl
          exact absurd hd (by decide)
        rw [codesOf, if_neg (by simp [hmark]), if_neg (by simp [hd])]
      · rw [codesOf, if_neg (by simp [hc]), if_neg (by simp [hc])]

theorem toNat_ofNat {n : Nat} (h : n < 0x110000) (hn : isSurrogate n = false) :
    (Char.ofNat n).toNat = n := by
  have hvalid : n.isValidChar := by
    simp only [isSurrogate, decide_eq_false_iff_not] at hn
    unfold Nat.isValidChar
    omega
  rw [Char.ofNat, dif_pos hvalid]
  rfl

/-- No part of a sign comes first where none did. -/
theorem head_charsOf {codes : List Nat} (hcodes : ∀ n ∈ codes, n < 0x110000)
    (h : codes.head?.any isHalfPart = false) :
    (charsOf codes).head?.any (fun d => isHalfPart d.toNat) = false := by
  cases codes with
  | nil => rfl
  | cons n rest =>
      have hn : isHalfPart n = false := h
      have hsign : isHalfPart '\uffff'.toNat = false := by decide
      unfold charsOf
      split
      · exact hsign
      split
      · exact hsign
      case isFalse hsurrogate _ =>
        rw [Bool.not_eq_true] at hsurrogate
        simpa [toNat_ofNat (hcodes n (.head _)) hsurrogate] using hn

/-- Texts of different code points are different. -/
theorem codesOf_charsOf {codes : List Nat} (h : ∀ n ∈ codes, n < 0x110000) :
    codesOf (charsOf codes) = codes := by
  induction codes with
  | nil => rfl
  | cons n rest ih =>
      have hrest := ih fun m hm => h m (.tail _ hm)
      unfold charsOf
      split
      case isTrue hn =>
        have hrange : 0xd800 ≤ n ∧ n < 0xe000 := of_decide_eq_true hn
        have hcode : (Char.ofNat (n + 0x800)).toNat = n + 0x800 :=
          toNat_ofNat (by omega) (decide_eq_false (by omega))
        have hmark : Char.ofNat (n + 0x800) ≠ '\uefff' := by
          intro heq
          rw [heq] at hcode
          have hmark : n + 0x800 = 0xefff := hcode.symm
          omega
        have hpart : isHalfPart (n + 0x800) = true := decide_eq_true (by omega)
        rw [codesOf, if_neg (by simp [hmark]), hcode, if_pos ⟨rfl, hpart⟩, hrest,
          Nat.add_sub_cancel]
      split
      case isTrue hsign =>
        rw [codesOf, if_pos ⟨rfl, rfl⟩, hrest, hsign.1]
      case isFalse hn hsign =>
        have hcode := toNat_ofNat (h n (.head _)) (Bool.not_eq_true _ ▸ hn)
        rw [codesOf_cons fun hc => ?_, hcode, hrest]
        refine head_charsOf (fun m hm => h m (.tail _ hm)) ?_
        rw [hc] at hcode
        rw [Bool.eq_false_iff]
        exact fun hpart => hsign ⟨hcode.symm, hpart⟩

end Rollout.Text
