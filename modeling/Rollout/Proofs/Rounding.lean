import Mathlib.Algebra.GroupWithZero.Nat
import Rollout.Number.Binary64

/-!
# Rollout.Proofs.Rounding

How far rounding to a binary number of 53 digits moves a quotient.

* `divEven_le`, `le_divEven`, `divEven_mono` — the nearest whole number to a quotient, and its order;
* `place` — the place of the last binary digit that is kept; `roundUnits_near` — what is rounded moves
  by at most half a unit of that place, and `roundUnits_exact` — not at all if its digits suffice;
* `roundUnits_mono` — rounding keeps the order;
* `wholeValue_mono`, `eq_of_wholeValue_eq` — whole numbers as floating point numbers keep it, up to
  those that become equal.
-/

namespace Rollout.Binary64

/-! ## whole numbers -/

/-- A rounded quotient is off by half at most. -/
theorem divEven_near (n : Nat) {d : Nat} (hd : 0 < d) :
    2 * (divEven n d * d) ≤ 2 * n + d ∧ 2 * n ≤ 2 * (divEven n d * d) + d := by
  have hn : n = n / d * d + n % d := (Nat.div_add_mod' n d).symm
  have hr : n % d < d := Nat.mod_lt n hd
  have hnext : (n / d + 1) * d = n / d * d + d := Nat.succ_mul _ _
  simp only [divEven]
  split
  · omega
  split
  · omega
  split <;> omega

/-- The nearest whole number is one of the two beside the quotient. -/
theorem divEven_cases (n d : Nat) : divEven n d = n / d ∨ divEven n d = n / d + 1 := by
  simp only [divEven]
  split
  · exact .inl rfl
  split
  · exact .inr rfl
  split
  · exact .inl rfl
  · exact .inr rfl

/-- A greater dividend has no smaller rounded quotient. -/
theorem divEven_mono {n m : Nat} (h : n ≤ m) (d : Nat) : divEven n d ≤ divEven m d := by
  have hquot : n / d ≤ m / d := Nat.div_le_div_right h
  obtain hlt | heq := Nat.lt_or_eq_of_le hquot
  · have hn := divEven_cases n d
    have hm := divEven_cases m d
    omega
  · -- With the same quotient, the remainders have the order of the numbers.
    have hrest : n % d ≤ m % d := by
      have hn := Nat.div_add_mod n d
      have hm := Nat.div_add_mod m d
      rw [heq] at hn
      omega
    simp only [divEven, heq]
    grind

/-- Rounding does not fall below a whole number that is reached. -/
theorem le_divEven {n q d : Nat} (hd : 0 < d) (h : q * d ≤ n) : q ≤ divEven n d :=
  divEven_mul q d hd ▸ divEven_mono h d

/-- Nor does it go past one that is not exceeded. -/
theorem divEven_le {n q d : Nat} (hd : 0 < d) (h : n ≤ q * d) : divEven n d ≤ q :=
  divEven_mul q d hd ▸ divEven_mono h d

/-! ## digits -/

theorem lt_two_pow_bitLength (n : Nat) : n < 2 ^ bitLength n := by
  unfold bitLength
  split
  · omega
  · exact Nat.lt_log2_self

/-- A number below a power of two is no longer than its exponent. -/
theorem bitLength_le {n k : Nat} (h : n < 2 ^ k) : bitLength n ≤ k := by
  unfold bitLength
  split
  · omega
  case isFalse hn => exact Nat.succ_le_of_lt ((Nat.log2_lt hn).mpr h)

theorem two_pow_le {n k : Nat} (h : k < bitLength n) : 2 ^ k ≤ n :=
  Nat.not_lt.mp fun hlt => absurd (bitLength_le hlt) (Nat.not_le.mpr h)

theorem bitLength_mono {n m : Nat} (h : n ≤ m) : bitLength n ≤ bitLength m :=
  bitLength_le (Nat.lt_of_le_of_lt h (lt_two_pow_bitLength m))

/-- The place of the last binary digit of a quotient that is kept. -/
def place (n d : Nat) : Nat := bitLength (n / d) - 53

/-- Rounding to units is rounding at the place that is kept. -/
theorem roundUnits_eq (n d : Nat) :
    roundUnits n d = divEven n (d * 2 ^ place n d) * 2 ^ place n d := rfl

/-- A quotient of few digits is kept exactly. -/
theorem place_le {n d k : Nat} (h : n / d < 2 ^ (k + 53)) : place n d ≤ k := by
  have hlength := bitLength_le h
  unfold place
  omega

theorem div_lt_two_pow_place (n d : Nat) : n / d < 2 ^ (place n d + 53) := by
  refine Nat.lt_of_lt_of_le (lt_two_pow_bitLength _) (Nat.pow_le_pow_right (by decide) ?_)
  unfold place
  omega

/-! ## rounding -/

/-- Rounding moves a quotient by at most half a unit of the last place that is kept. -/
theorem roundUnits_near (n : Nat) {d : Nat} (hd : 0 < d) :
    2 * (roundUnits n d * d) ≤ 2 * n + d * 2 ^ place n d ∧
      2 * n ≤ 2 * (roundUnits n d * d) + d * 2 ^ place n d := by
  have hnear := divEven_near n (Nat.mul_pos hd (Nat.two_pow_pos (place n d)))
  have hunits : roundUnits n d * d =
      divEven n (d * 2 ^ place n d) * (d * 2 ^ place n d) := by
    rw [roundUnits_eq, Nat.mul_assoc, Nat.mul_comm (2 ^ place n d)]
  rwa [hunits]

/-- A number of at most 53 binary digits, at whatever place they stand, is not moved. -/
theorem roundUnits_exact {k d : Nat} (hk : k < 2 ^ 53) (e : Nat) (hd : 0 < d) :
    roundUnits (k * 2 ^ e * d) d = k * 2 ^ e := by
  have hplace : place (k * 2 ^ e * d) d ≤ e := by
    refine place_le ?_
    rw [Nat.mul_div_cancel _ hd, Nat.add_comm, Nat.pow_add]
    exact Nat.mul_lt_mul_of_pos_right hk (Nat.two_pow_pos e)
  rw [roundUnits_eq]
  generalize place (k * 2 ^ e * d) d = p at hplace ⊢
  have hsplit : k * 2 ^ e = k * 2 ^ (e - p) * 2 ^ p := by
    rw [Nat.mul_assoc, ← Nat.pow_add, Nat.sub_add_cancel hplace]
  have hmul : k * 2 ^ e * d = k * 2 ^ (e - p) * (d * 2 ^ p) := by
    rw [hsplit, Nat.mul_assoc, Nat.mul_comm (2 ^ p)]
  rw [hmul, divEven_mul _ _ (Nat.mul_pos hd (Nat.two_pow_pos p)), ← hsplit]

/-- What is rounded stays below the power of two that bounds it. -/
theorem roundUnits_le (n : Nat) {d : Nat} (hd : 0 < d) :
    roundUnits n d ≤ 2 ^ (place n d + 53) := by
  have hbound : n ≤ 2 ^ 53 * (d * 2 ^ place n d) := by
    have hlt := (Nat.div_lt_iff_lt_mul hd).mp (div_lt_two_pow_place n d)
    rw [Nat.mul_comm d, ← Nat.mul_assoc, ← Nat.pow_add, Nat.add_comm 53]
    exact Nat.le_of_lt hlt
  rw [roundUnits_eq, Nat.add_comm, Nat.pow_add]
  exact Nat.mul_le_mul_right _
    (divEven_le (Nat.mul_pos hd (Nat.two_pow_pos _)) hbound)

/-- Where digits are left out, all 53 digits are kept. -/
theorem le_roundUnits {n d : Nat} (hd : 0 < d) (hplace : 0 < place n d) :
    2 ^ (place n d + 52) ≤ roundUnits n d := by
  have hquot : 2 ^ (place n d + 52) ≤ n / d := two_pow_le (by unfold place at hplace ⊢; omega)
  have hbound : 2 ^ 52 * (d * 2 ^ place n d) ≤ n := by
    rw [Nat.mul_comm d, ← Nat.mul_assoc, ← Nat.pow_add, Nat.add_comm 52]
    exact (Nat.le_div_iff_mul_le hd).mp hquot
  rw [roundUnits_eq, Nat.add_comm, Nat.pow_add]
  exact Nat.mul_le_mul_right _ (le_divEven (Nat.mul_pos hd (Nat.two_pow_pos _)) hbound)

/-- Rounding keeps the order. -/
theorem roundUnits_mono {n m d : Nat} (hd : 0 < d) (h : n ≤ m) :
    roundUnits n d ≤ roundUnits m d := by
  have hplace : place n d ≤ place m d :=
    Nat.sub_le_sub_right (bitLength_mono (Nat.div_le_div_right h)) 53
  obtain hlt | heq := Nat.lt_or_eq_of_le hplace
  · -- A power of two stands between numbers whose last digits are kept at different places.
    calc roundUnits n d ≤ 2 ^ (place n d + 53) := roundUnits_le n hd
      _ ≤ 2 ^ (place m d + 52) := Nat.pow_le_pow_right (by decide) (by omega)
      _ ≤ roundUnits m d := le_roundUnits hd (by omega)
  · rw [roundUnits_eq, roundUnits_eq, heq]
    exact Nat.mul_le_mul_right _ (divEven_mono h _)

/-! ## whole numbers as floating point numbers -/

theorem one_eq : one = 2 ^ 1074 := by
  unfold one
  generalize 1074 = e
  rfl

theorem one_pos : 0 < one := by
  unfold one
  generalize 1074 = e
  exact Nat.two_pow_pos e

/-- The units of a whole number, rounded. -/
def wholeUnits (n : Nat) : Nat := roundUnits (n * one) 1

theorem wholeUnits_mono {n m : Nat} (h : n ≤ m) : wholeUnits n ≤ wholeUnits m :=
  roundUnits_mono Nat.one_pos (Nat.mul_le_mul_right one h)

/-- A whole number below 2 ^ 53 is exact. -/
theorem wholeUnits_exact {n : Nat} (h : n < 2 ^ 53) : wholeUnits n = n * one := by
  have hexact : roundUnits (n * 2 ^ 1074 * 1) 1 = n * 2 ^ 1074 :=
    roundUnits_exact h 1074 Nat.one_pos
  rwa [Nat.mul_one, ← one_eq] at hexact

theorem wholeUnits_pos {n : Nat} (h : 0 < n) : 0 < wholeUnits n := by
  have hone : wholeUnits 1 = 1 * one := wholeUnits_exact (by decide)
  have hle : wholeUnits 1 ≤ wholeUnits n := wholeUnits_mono h
  have hpos := one_pos
  omega

/-- A number of units is finite as long as it stays below the limit. -/
theorem ofUnits_eq (negative : Bool) (n d : Nat) : ofUnits negative n d =
    if roundUnits n d < limit then finite negative (roundUnits n d) else infinite negative := rfl

theorem ofInt?_eq (i : Int) :
    ofInt? i = if wholeUnits i.natAbs < limit then some (finite (i < 0) (wholeUnits i.natAbs))
      else none := by
  -- The definition is opened before it is applied: to compare the two sides as they stand, Lean would
  -- compute the units of an unknown number.
  obtain ⟨f, hf⟩ : ∃ f, f = ofInt? := ⟨_, rfl⟩
  rw [← hf]
  delta ofInt? at hf
  have happlied : f i = _ := congrFun hf i
  rw [happlied, ofQuotient, ofUnits_eq, ← wholeUnits]
  clear happlied hf
  generalize wholeUnits i.natAbs = u
  generalize limit = l
  by_cases hlimit : u < l
  · rw [if_pos hlimit, if_pos hlimit]
  · rw [if_neg hlimit, if_neg hlimit]

/-- The value of a whole number in units, rounded. -/
def wholeValue (i : Int) : Int := signed (i < 0) (wholeUnits i.natAbs)

/-- A number that was made from an integer is ordered by its value. -/
theorem key?_of_ofInt? {i : Int} {t : Binary64} (h : ofInt? i = some t) :
    t.key? = some (wholeValue i) := by
  rw [ofInt?_eq] at h
  split at h
  · obtain rfl := Option.some.inj h
    rfl
  · cases h

/-- A greater integer has no smaller value. -/
theorem wholeValue_mono {i j : Int} (h : i ≤ j) : wholeValue i ≤ wholeValue j := by
  unfold wholeValue signed
  simp only [decide_eq_true_eq]
  split
  case isTrue hi =>
    split
    case isTrue hj =>
      have hunits : wholeUnits j.natAbs ≤ wholeUnits i.natAbs := wholeUnits_mono (by omega)
      omega
    case isFalse => omega
  case isFalse hi =>
    have hunits : wholeUnits i.natAbs ≤ wholeUnits j.natAbs := wholeUnits_mono (by omega)
    rw [if_neg (by omega)]
    exact Int.ofNat_le.mpr hunits

/-- A floating point number of a whole number is known by its value, as only zero has two signs. -/
theorem eq_of_wholeValue_eq {i j : Int} {t u : Binary64} (ht : ofInt? i = some t)
    (hu : ofInt? j = some u) (h : wholeValue i = wholeValue j) : t = u := by
  have hpos {k : Int} (hk : k < 0) : 0 < wholeUnits k.natAbs := wholeUnits_pos (by omega)
  have hsame : (i < 0 ↔ j < 0) ∧ wholeUnits i.natAbs = wholeUnits j.natAbs := by
    unfold wholeValue signed at h
    simp only [decide_eq_true_eq] at h
    split at h <;> split at h
    case isTrue.isTrue hi hj => exact ⟨by simp [hi, hj], by omega⟩
    case isTrue.isFalse hi hj =>
      have := hpos hi
      omega
    case isFalse.isTrue hi hj =>
      have := hpos hj
      omega
    case isFalse.isFalse hi hj => exact ⟨by simp [hi, hj], by omega⟩
  rw [ofInt?_eq, decide_eq_decide.mpr hsame.1, hsame.2, ← ofInt?_eq, hu] at ht
  exact (Option.some.inj ht).symm

end Rollout.Binary64
