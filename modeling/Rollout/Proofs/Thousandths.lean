import Mathlib.Tactic.Linarith
import Mathlib.Tactic.Ring
import Rollout.Proofs.Rounding
import Rollout.Time.DateTime

/-!
# Rollout.Proofs.Thousandths

What becomes of a whole number that is divided by a thousand and multiplied by it again, in floating
point.

* `thousandfold` — the product, rounded; `le_thousandfold` — it is rounded up to a whole number that is
  close enough;
* `Thousandth` — a quotient that is a thousandth, up to a small error; `Thousandth.whole_part` — the whole
  part of the product is the number or the one before it;
* `Blurred` — the numbers that begin with the digits of a thousand, but are below 1024;
  `Thousandth.le_thousandfold_of_large`, `le_thousandfold_of_lt` — others are met, and
  `thousandfold_lt` — among these there is one that is not, at every place;
* `add_fraction` — whole seconds and a fraction make up a thousandth of milliseconds.
-/

namespace Rollout.Binary64

/-! ## products by a thousand -/

theorem limit_eq : limit = 2 ^ 2098 := by
  unfold limit
  generalize 2098 = e
  rfl

theorem exists_one_eq : ∃ e, e = 1074 ∧ one = 2 ^ e := by
  unfold one
  generalize 1074 = e
  exact ⟨e, rfl, rfl⟩

theorem one_eq_mul {i j : Nat} (h : i + j = 1074) : one = 2 ^ i * 2 ^ j := by
  rw [one_eq, ← Nat.pow_add, h]

theorem two_pow_le_one {i : Nat} (h : i ≤ 1074) : 2 ^ i ≤ one := by
  obtain ⟨j, hj⟩ := Nat.exists_eq_add_of_le h
  rw [one_eq_mul hj.symm]
  exact Nat.le_mul_of_pos_right _ (Nat.two_pow_pos j)

theorem one_le_two_pow {i : Nat} (h : 1074 ≤ i) : one ≤ 2 ^ i := by
  obtain ⟨e, he, hone⟩ := exists_one_eq
  rw [hone]
  exact Nat.pow_le_pow_right (by decide) (he ▸ h)

/-- A quotient that is not too large is finite. -/
theorem ofUnits_eq_finite {n d k : Nat} (hd : 0 < d) (h : n / d < 2 ^ (k + 53)) (hk : k + 53 < 2098)
    (negative : Bool) : ofUnits negative n d = finite negative (roundUnits n d) := by
  have hplace : place n d ≤ k := place_le h
  rw [ofUnits_eq, limit_eq]
  generalize 2098 = l at hk ⊢
  have hlt : 2 ^ (place n d + 53) < 2 ^ l := Nat.pow_lt_pow_right (by decide) (by omega)
  rw [if_pos (Nat.lt_of_le_of_lt (roundUnits_le n hd) hlt)]

/-- A rounded number is a multiple of the unit at its place. -/
theorem two_pow_place_dvd (n d : Nat) : 2 ^ place n d ∣ roundUnits n d :=
  ⟨_, (roundUnits_eq n d).trans (Nat.mul_comm _ _)⟩

/-- The units of a thousand times as much. -/
def thousandfold (u : Nat) : Nat := roundUnits (1000 * u * one) one

/-- A thousandfold is off by half a unit at most. -/
theorem thousandfold_near (u : Nat) :
    2 * thousandfold u ≤ 2 * (1000 * u) + 2 ^ (bitLength (1000 * u) - 53) ∧
      2 * (1000 * u) ≤ 2 * thousandfold u + 2 ^ (bitLength (1000 * u) - 53) := by
  have hplace : place (1000 * u * one) one = bitLength (1000 * u) - 53 := by
    rw [place, Nat.mul_div_cancel _ one_pos]
  obtain ⟨habove, hbelow⟩ := roundUnits_near (1000 * u * one) one_pos
  rw [hplace] at habove hbelow
  unfold thousandfold
  generalize roundUnits (1000 * u * one) one = v at habove hbelow ⊢
  generalize 2 ^ (bitLength (1000 * u) - 53) = P at habove hbelow ⊢
  generalize 1000 * u = x at habove hbelow ⊢
  constructor
  · refine Nat.le_of_mul_le_mul_right ?_ one_pos
    linarith
  · refine Nat.le_of_mul_le_mul_right ?_ one_pos
    linarith

/-- Numbers that are multiples of a power of two differ by this power at least. -/
theorem le_of_dvd_of_lt {a b P : Nat} (ha : P ∣ a) (hb : P ∣ b) (h : a < b + P) : a ≤ b := by
  obtain ⟨c, rfl⟩ := ha
  obtain ⟨e, rfl⟩ := hb
  rw [← Nat.mul_succ] at h
  exact Nat.mul_le_mul_left P (Nat.lt_succ_iff.mp (Nat.lt_of_mul_lt_mul_left h))

/-- What comes close to a whole number from below is rounded up to it, if the distance is less than half
a unit of the last place. -/
theorem le_thousandfold {k u i : Nat} (hplace : bitLength (1000 * u) ≤ 1074 + 53)
    (hi : 2 ^ (i + 52) ≤ 1000 * u) (hclose : 2 * (k * one) < 2 * (1000 * u) + 2 ^ i) :
    k * one ≤ thousandfold u := by
  have hnear := (thousandfold_near u).2
  have hlength : i + 52 < bitLength (1000 * u) := by
    have hlt := Nat.lt_of_le_of_lt hi (lt_two_pow_bitLength (1000 * u))
    exact (Nat.pow_lt_pow_iff_right (by decide)).mp hlt
  obtain ⟨q, hq⟩ : ∃ q, bitLength (1000 * u) = q + 53 := ⟨bitLength (1000 * u) - 53, by omega⟩
  rw [hq, Nat.add_sub_cancel] at hnear
  have hdvd : 2 ^ q ∣ thousandfold u := by
    have hplace : place (1000 * u * one) one = q := by
      rw [place, Nat.mul_div_cancel _ one_pos, hq, Nat.add_sub_cancel]
    exact hplace ▸ two_pow_place_dvd (1000 * u * one) one
  have hone : 2 ^ q ∣ k * one :=
    Dvd.dvd.mul_left ⟨2 ^ (1074 - q), by rw [Nat.mul_comm]; exact one_eq_mul (by omega)⟩ k
  have hpow : 2 ^ i ≤ 2 ^ q := Nat.pow_le_pow_right (by decide) (by omega)
  exact le_of_dvd_of_lt hone hdvd (by omega)

/-! ## thousandths -/

/-- A quotient of units is a thousandth of a whole number, up to a thousandth of some units. -/
structure Thousandth (k slack n d : Nat) : Prop where
  pos : 0 < d
  small : k < 2 ^ 48
  slack_le : 2 ^ 44 * slack ≤ one
  atMost : 1000 * n ≤ (k * one + slack) * d
  atLeast : k * one * d ≤ 1000 * n + slack * d

namespace Thousandth

variable {k slack n d : Nat} (h : Thousandth k slack n d)

include h

/-- How far rounding moves a thousandth, a thousand times. -/
theorem near :
    2 * (1000 * roundUnits n d) ≤ 2 * (k * one) + 2 * slack + 1000 * 2 ^ place n d ∧
      2 * (k * one) ≤ 2 * (1000 * roundUnits n d) + 2 * slack + 1000 * 2 ^ place n d := by
  obtain ⟨habove, hbelow⟩ := roundUnits_near n h.pos
  have hatMost := h.atMost
  have hatLeast := h.atLeast
  generalize roundUnits n d = u at habove hbelow ⊢
  generalize 2 ^ place n d = P at habove hbelow ⊢
  generalize k * one = K at hatMost hatLeast ⊢
  constructor
  · refine Nat.le_of_mul_le_mul_right ?_ h.pos
    linarith
  · refine Nat.le_of_mul_le_mul_right ?_ h.pos
    linarith

/-- The last place of a thousandth of a number that is not too large. -/
theorem place_add_le : place n d + 14 ≤ 1074 := by
  obtain ⟨c, hc⟩ : ∃ c, 14 + c = 1074 := ⟨1060, rfl⟩
  have hone := one_eq_mul hc
  have hquot : n / d < 2 ^ (c + 53) := by
    refine (Nat.div_lt_iff_lt_mul h.pos).mpr ?_
    have hk : (k + 1) * one ≤ 2 ^ 48 * one := Nat.mul_le_mul_right one h.small
    have hslack := h.slack_le
    have hpos := one_pos
    have hbound : k * one + slack < 1000 * 2 ^ (c + 53) := by
      rw [Nat.succ_mul] at hk
      rw [Nat.pow_add]
      omega
    have hmul := Nat.mul_lt_mul_of_pos_right hbound h.pos
    have hatMost := h.atMost
    rw [Nat.mul_assoc] at hmul
    omega
  have hplace := place_le hquot
  omega

/-- Rounded, it is a thousandth up to a small part of one. -/
theorem close : ∃ E, 32 * E ≤ one ∧ 1000 * roundUnits n d ≤ k * one + E ∧
    k * one ≤ 1000 * roundUnits n d + E := by
  obtain ⟨habove, hbelow⟩ := h.near
  have hplace : 2 ^ 14 * 2 ^ place n d ≤ one := by
    rw [← Nat.pow_add]
    exact two_pow_le_one (by have := h.place_add_le; omega)
  have hslack := h.slack_le
  exact ⟨slack + 500 * 2 ^ place n d, by omega, by omega, by omega⟩

/-- The units of the product have few enough digits to stand at the places of whole numbers. -/
theorem bitLength_le_of_small : bitLength (1000 * roundUnits n d) + 4 ≤ 1074 + 53 := by
  obtain ⟨E, hE, habove, -⟩ := h.close
  obtain ⟨c, hc⟩ : ∃ c, 4 + c = 1074 := ⟨1070, rfl⟩
  have hone := one_eq_mul hc
  have hk : (k + 1) * one ≤ 2 ^ 48 * one := Nat.mul_le_mul_right one h.small
  have hlt : 1000 * roundUnits n d < 2 ^ (c + 53) := by
    have hpos := one_pos
    rw [Nat.succ_mul] at hk
    rw [Nat.pow_add]
    omega
  have hlength := bitLength_le hlt
  omega

/-- The whole part of a thousand times the rounded thousandth is the number or the one before it. -/
theorem whole_part :
    thousandfold (roundUnits n d) / one = k ∨ thousandfold (roundUnits n d) / one + 1 = k := by
  obtain ⟨E, hE, habove, hbelow⟩ := h.close
  obtain ⟨hroundAbove, hroundBelow⟩ := thousandfold_near (roundUnits n d)
  have hplace : 8 * 2 ^ (bitLength (1000 * roundUnits n d) - 53) ≤ one := by
    have hlength := h.bitLength_le_of_small
    rw [show 8 = 2 ^ 3 from rfl, ← Nat.pow_add]
    exact two_pow_le_one (by omega)
  have hpos := one_pos
  generalize thousandfold (roundUnits n d) = v at hroundAbove hroundBelow ⊢
  have hlt : v < (k + 1) * one := by
    rw [Nat.succ_mul]
    omega
  have hquot : v / one < k + 1 := (Nat.div_lt_iff_lt_mul hpos).mpr hlt
  have hmin : k - 1 ≤ v / one := by
    refine (Nat.le_div_iff_mul_le hpos).mpr ?_
    rw [Nat.sub_mul]
    omega
  generalize v / one = w at hquot hmin ⊢
  omega

/-- It is the number where the product is not rounded down past it. -/
theorem whole_part_of_le (hle : k * one ≤ thousandfold (roundUnits n d)) :
    thousandfold (roundUnits n d) / one = k := by
  have hmin : k ≤ thousandfold (roundUnits n d) / one := (Nat.le_div_iff_mul_le one_pos).mpr hle
  obtain heq | heq := h.whole_part
  · exact heq
  · omega

end Thousandth

/-- What does not fall short of a whole number is not rounded down past it. -/
theorem le_thousandfold_of_le {k u : Nat} (hk : k < 2 ^ 53) (h : k * one ≤ 1000 * u) :
    k * one ≤ thousandfold u := by
  obtain ⟨e, -, he⟩ := exists_one_eq
  have hexact : roundUnits (k * one * one) one = k * one := by
    have hrepresented := roundUnits_exact hk e one_pos
    rwa [← he] at hrepresented
  rw [← hexact]
  exact roundUnits_mono one_pos (Nat.mul_le_mul_right one h)

/-- A number that begins, in binary digits, with those of a thousand or with larger ones, but has as
many digits: from a power of two of thousands up to the same power of two of 1024. -/
def Blurred (k : Nat) : Prop := ∃ e, 1000 * 2 ^ e ≤ k ∧ k < 1024 * 2 ^ e

namespace Thousandth

variable {k slack n d : Nat} (h : Thousandth k slack n d)

include h

/-- A multiple of eight thousandths is not rounded at all. -/
theorem le_thousandfold_of_dvd (hslack : slack = 0) (hk : 125 ∣ k) :
    k * one ≤ thousandfold (roundUnits n d) := by
  obtain ⟨j, rfl⟩ := hk
  have hsmall := h.small
  have hatMost := h.atMost
  have hatLeast := h.atLeast
  obtain ⟨c, hc⟩ : ∃ c, 3 + c = 1074 := ⟨1071, rfl⟩
  have hone := one_eq_mul hc
  have hn : n = j * 2 ^ c * d := by
    rw [hslack, hone] at hatMost hatLeast
    generalize 2 ^ c = C at hatMost hatLeast ⊢
    have hterm : 125 * j * (2 ^ 3 * C) * d = 1000 * (j * C * d) := by ring
    simp only [Nat.add_zero, Nat.zero_mul, hterm] at hatMost hatLeast
    omega
  have hexact : roundUnits n d = j * 2 ^ c := by
    rw [hn]
    exact roundUnits_exact (by omega) c h.pos
  refine le_thousandfold_of_le (by omega) (Nat.le_of_eq ?_)
  rw [hexact, hone]
  ring

/-- A number of thousandths that is large enough is long enough. -/
theorem lt_bitLength {i : Nat} (hi : 1000 * 2 ^ i + slack ≤ k * one) : i < bitLength (n / d) := by
  have hquot : 2 ^ i ≤ n / d := by
    refine (Nat.le_div_iff_mul_le h.pos).mpr ?_
    have hmul := Nat.mul_le_mul_right d hi
    have hatLeast := h.atLeast
    have hterm : (1000 * 2 ^ i + slack) * d = 1000 * (2 ^ i * d) + slack * d := by ring
    omega
  have hlt := Nat.lt_of_le_of_lt hquot (lt_two_pow_bitLength (n / d))
  exact (Nat.pow_lt_pow_iff_right (by decide)).mp hlt

/-- So the place that is kept of it is high enough. -/
theorem le_place {j : Nat} (hj : 1000 * (2 ^ j * one) + slack ≤ k * one) :
    1074 + j ≤ place n d + 52 := by
  obtain ⟨e, he, hone⟩ := exists_one_eq
  have hlength := h.lt_bitLength (i := j + e) (by rwa [Nat.pow_add, ← hone])
  unfold place
  omega

/-- The first digit of a thousandth, where digits are left out. -/
theorem two_pow_place_le (hplace : 0 < place n d) :
    1000 * 2 ^ (place n d + 52) ≤ k * one + slack := by
  have hdigits : 2 ^ (place n d + 52) ≤ n / d := two_pow_le (by unfold place at hplace ⊢; omega)
  refine Nat.le_of_mul_le_mul_right ?_ h.pos
  calc 1000 * 2 ^ (place n d + 52) * d = 1000 * (2 ^ (place n d + 52) * d) := Nat.mul_assoc ..
    _ ≤ 1000 * n := Nat.mul_le_mul_left _ ((Nat.le_div_iff_mul_le h.pos).mp hdigits)
    _ ≤ (k * one + slack) * d := h.atMost

/-- Past the numbers that are blurred, a power of two follows the place of the first digit. -/
theorem two_pow_le_of_not_blurred (hplace : 1074 ≤ place n d + 52) (hk : ¬ Blurred k) :
    2 ^ (place n d + 62) ≤ k * one := by
  obtain ⟨e, he⟩ := Nat.exists_eq_add_of_le hplace
  obtain ⟨c, hc, hone⟩ := exists_one_eq
  have hle : 1000 * 2 ^ e ≤ k := by
    have hdigits := h.two_pow_place_le (by omega)
    rw [he, ← hc, Nat.pow_add, ← hone] at hdigits
    have hslack := h.slack_le
    have hpos := one_pos
    have hlt : 1000 * 2 ^ e * one < (k + 1) * one := by
      rw [Nat.add_mul k 1, Nat.mul_assoc, Nat.mul_comm (2 ^ e)]
      omega
    exact Nat.lt_succ_iff.mp (Nat.lt_of_mul_lt_mul_right hlt)
  have hge : 1024 * 2 ^ e ≤ k := Nat.not_lt.mp fun hlt => hk ⟨e, hle, hlt⟩
  have hsplit : place n d + 62 = 10 + e + c := by omega
  calc 2 ^ (place n d + 62) = 1024 * 2 ^ e * one := by
        rw [hsplit, Nat.pow_add, Nat.pow_add, hone]
    _ ≤ k * one := Nat.mul_le_mul_right one hge

/-- Then the product is close enough to be rounded to the number. -/
theorem le_thousandfold_of_two_pow_le (hslack : slack ≤ 4 * 2 ^ place n d)
    (hpow : 2 ^ (place n d + 62) ≤ k * one) : k * one ≤ thousandfold (roundUnits n d) := by
  have hbelow := h.near.2
  obtain ⟨r, hr⟩ := two_pow_place_dvd n d
  have hpos := Nat.two_pow_pos (place n d)
  have hlength := h.bitLength_le_of_small
  have hten : 2 ^ (place n d + 10) = 1024 * 2 ^ place n d := by
    rw [Nat.pow_add]
    ring
  refine le_thousandfold (i := place n d + 10) (by omega) ?_ (by omega)
  rw [Nat.pow_add] at hpow
  rw [Nat.add_assoc, Nat.pow_add]
  rw [hr] at hbelow ⊢
  generalize 2 ^ place n d = P at hslack hpow hpos hbelow ⊢
  have hdigits : 2 ^ 63 ≤ 2000 * r + 1008 := by
    refine Nat.le_of_mul_le_mul_right ?_ hpos
    linarith
  calc P * 2 ^ (10 + 52) ≤ P * (1000 * r) := Nat.mul_le_mul_left P (by omega)
    _ = 1000 * (P * r) := by ring

/-- A large number of thousandths is not missed unless it is blurred. -/
theorem le_thousandfold_of_large (hlarge : 65536 ≤ k) (hk : ¬ Blurred k) :
    k * one ≤ thousandfold (roundUnits n d) := by
  have hslack := h.slack_le
  have hplace : 1074 + 6 ≤ place n d + 52 := by
    refine h.le_place ?_
    have hmul : 65536 * one ≤ k * one := Nat.mul_le_mul_right one hlarge
    omega
  have hone : one ≤ 2 ^ (46 + place n d) := one_le_two_pow (by omega)
  rw [Nat.pow_add] at hone
  exact h.le_thousandfold_of_two_pow_le (by omega) (h.two_pow_le_of_not_blurred (by omega) hk)

/-- Nor is one that is exact to begin with. -/
theorem le_thousandfold_of_exact (hslack : slack = 0) (hlarge : 1000 ≤ k) (hk : ¬ Blurred k) :
    k * one ≤ thousandfold (roundUnits n d) := by
  have hplace : 1074 + 0 ≤ place n d + 52 := by
    refine h.le_place ?_
    have hmul : 1000 * one ≤ k * one := Nat.mul_le_mul_right one hlarge
    omega
  exact h.le_thousandfold_of_two_pow_le (by omega) (h.two_pow_le_of_not_blurred (by omega) hk)

/-- Below a thousand, such a power of two follows unless the number itself begins with the digits of a
thousand. -/
theorem two_pow_le_of_lt (hslack : slack = 0) (hpos : 0 < k) (hsmall : k < 1000) :
    2 ^ (place n d + 62) ≤ k * one ∨
      ∃ j < 11, 1000 ≤ k * 2 ^ j ∧ k * 2 ^ j < 1024 := by
  subst hslack
  obtain ⟨i, hi⟩ : ∃ i, 10 + i = 1074 := ⟨1064, rfl⟩
  have hlength : i < bitLength (n / d) := by
    refine h.lt_bitLength (Nat.le_trans ?_ (Nat.le_mul_of_pos_left one hpos))
    rw [one_eq_mul hi]
    omega
  have hdigits := h.two_pow_place_le (by unfold place; omega)
  have hlt : place n d + 52 < 1074 := by
    obtain ⟨e, he, hone⟩ := exists_one_eq
    have hmul : k * one < 1000 * one := Nat.mul_lt_mul_of_pos_right hsmall one_pos
    rw [← he]
    refine (Nat.pow_lt_pow_iff_right (by decide : 1 < 2)).mp ?_
    rw [← hone]
    omega
  obtain ⟨j, hj⟩ := Nat.exists_eq_add_of_lt hlt
  have hone : k * one = k * 2 ^ (j + 1) * 2 ^ (place n d + 52) := by
    rw [one_eq_mul (show j + 1 + (place n d + 52) = 1074 by omega), Nat.mul_assoc]
  simp only [Nat.add_zero] at hdigits
  rw [hone] at hdigits
  have hge : 1000 ≤ k * 2 ^ (j + 1) := Nat.le_of_mul_le_mul_right hdigits (Nat.two_pow_pos _)
  by_cases hlarge : 1024 ≤ k * 2 ^ (j + 1)
  · left
    calc 2 ^ (place n d + 62) = 1024 * 2 ^ (place n d + 52) := by
          rw [show place n d + 62 = 10 + (place n d + 52) by omega, Nat.pow_add]
      _ ≤ k * 2 ^ (j + 1) * 2 ^ (place n d + 52) := Nat.mul_le_mul_right _ hlarge
      _ = k * one := hone.symm
  · right
    have hpow : 2 ^ (j + 1) < 2 ^ 10 :=
      Nat.lt_of_le_of_lt (Nat.le_mul_of_pos_left _ hpos) (Nat.not_le.mp hlarge)
    have hexponent := (Nat.pow_lt_pow_iff_right (by decide)).mp hpow
    exact ⟨j + 1, by omega, hge, Nat.not_le.mp hlarge⟩

end Thousandth

/-- A thousand and one, at whatever place its digits stand, is missed from below. -/
theorem thousandfold_lt {e : Nat}
    (h : Thousandth (1001 * 2 ^ e) 0 (1000 * (1001 * 2 ^ e) * one) DateTime.second) :
    thousandfold (roundUnits (1000 * (1001 * 2 ^ e) * one) DateTime.second) < 1001 * 2 ^ e * one := by
  have hnear := h.near.1
  have hround := (thousandfold_near
    (roundUnits (1000 * (1001 * 2 ^ e) * one) DateTime.second)).1
  obtain ⟨r, hr⟩ := two_pow_place_dvd (1000 * (1001 * 2 ^ e) * one) DateTime.second
  obtain ⟨c, hc⟩ : ∃ c, 52 + c = 1074 := ⟨1022, rfl⟩
  have hone := one_eq_mul hc
  have hpos : 0 < 2 ^ (e + c) := Nat.two_pow_pos _
  have hterm : 1001 * 2 ^ e * one = 1001 * 2 ^ 52 * 2 ^ (e + c) := by
    rw [hone, Nat.pow_add]
    ring
  -- The quotient lies between two powers of two, so that the place of its last digit is known.
  have hplace : place (1000 * (1001 * 2 ^ e) * one) DateTime.second = e + c := by
    have hge : 1074 + e ≤ place (1000 * (1001 * 2 ^ e) * one) DateTime.second + 52 :=
      h.le_place (by rw [Nat.add_zero, ← Nat.mul_assoc]; exact Nat.mul_le_mul_right one (by omega))
    have hle : place (1000 * (1001 * 2 ^ e) * one) DateTime.second ≤ e + c := by
      refine place_le ((Nat.div_lt_iff_lt_mul h.pos).mpr ?_)
      rw [Nat.mul_assoc, hterm, Nat.pow_add 2 (e + c), DateTime.second]
      omega
    omega
  rw [hr, hplace] at hnear hround
  rw [hr, hplace, hterm]
  rw [hterm] at hnear
  have hdigits : 2000 * r ≤ 2002 * 2 ^ 52 + 1000 := by
    refine Nat.le_of_mul_le_mul_right ?_ hpos
    linarith
  have hlength : bitLength (1000 * (2 ^ (e + c) * r)) ≤ 62 + (e + c) := by
    refine bitLength_le ?_
    have hmul : r * 2 ^ (e + c) ≤ 4508103226997866 * 2 ^ (e + c) :=
      Nat.mul_le_mul_right _ (by omega)
    rw [Nat.pow_add 2 62, Nat.mul_comm (2 ^ (e + c)) r]
    omega
  have hpow : 2 ^ (bitLength (1000 * (2 ^ (e + c) * r)) - 53) ≤ 2 ^ 9 * 2 ^ (e + c) := by
    rw [← Nat.pow_add]
    exact Nat.pow_le_pow_right (by decide) (by omega)
  have hmul : 2 ^ (e + c) * r ≤ 2 ^ (e + c) * 4508103226997866 := Nat.mul_le_mul_left _ (by omega)
  omega

/-- The numbers below a thousand that begin with the digits of a thousand are met. -/
theorem le_thousandfold_of_digits : ∀ k < 512, ∀ j < 11, 1000 ≤ k * 2 ^ j → k * 2 ^ j < 1024 →
    k * one ≤ thousandfold (roundUnits (1000 * k * one) DateTime.second) := by
  decide +kernel

/-- Of the milliseconds of the first second, no one is lost. -/
theorem le_thousandfold_of_lt {k : Nat} (h : Thousandth k 0 (1000 * k * one) DateTime.second)
    (hk : k < 1000) : k * one ≤ thousandfold (roundUnits (1000 * k * one) DateTime.second) := by
  obtain rfl | hpos := Nat.eq_zero_or_pos k
  · rw [Nat.zero_mul]
    exact Nat.zero_le _
  obtain hpow | ⟨j, hj, hge, hlt⟩ := h.two_pow_le_of_lt rfl hpos hk
  · exact h.le_thousandfold_of_two_pow_le (Nat.zero_le _) hpow
  · have hsmall : k < 512 := by
      cases j with
      | zero => omega
      | succ j =>
          rw [Nat.pow_succ'] at hlt
          have hmul : k * 2 ≤ k * (2 * 2 ^ j) :=
            Nat.mul_le_mul_left k (Nat.le_mul_of_pos_right 2 (Nat.two_pow_pos j))
          omega
    exact le_thousandfold_of_digits k hsmall j hj hge hlt

/-! ## whole parts -/

/-- A whole number below 2 ^ 53 is a number in floating point. -/
theorem ofQuotient_whole (negative : Bool) {n : Nat} (h : n < 2 ^ 53) :
    ofQuotient negative n 1 = finite negative (n * one) := by
  obtain ⟨e, he, hone⟩ := exists_one_eq
  have hquot : n * one / 1 < 2 ^ (e + 53) := by
    rw [Nat.div_one, hone, Nat.add_comm, Nat.pow_add]
    exact Nat.mul_lt_mul_of_pos_right h (Nat.two_pow_pos e)
  rw [ofQuotient, ofUnits_eq_finite Nat.one_pos hquot (by omega), ← wholeUnits, wholeUnits_exact h]

theorem signed_natAbs (i : Int) (u : Nat) : signed (i < 0) (i.natAbs * u) = i * u := by
  unfold signed
  simp only [decide_eq_true_eq]
  split
  case isTrue hi =>
    obtain ⟨n, rfl⟩ := Int.eq_negSucc_of_lt_zero hi
    rw [Int.natAbs_negSucc, Int.negSucc_eq]
    push_cast
    ring
  case isFalse hi =>
    obtain ⟨n, rfl⟩ := Int.eq_ofNat_of_zero_le (Int.not_lt.mp hi)
    simp

/-- Products of finite numbers are rounded once. -/
theorem mul_finite (s t : Bool) (u v : Nat) :
    finite s u * finite t v = ofUnits (s != t) (u * v) one := by
  change mul (finite s u) (finite t v) = _
  rw [mul]

/-- Truncating drops what is less than a whole. -/
theorem truncate?_finite (s : Bool) (u : Nat) :
    (finite s u).truncate? = some (signed s (u / one)) := by
  unfold truncate? signed
  rfl

/-- The whole part of a thousand times a rounded thousandth. -/
theorem Thousandth.truncate_mul {k slack n d : Nat} (h : Thousandth k slack n d)
    (negative : Bool) :
    (finite negative (roundUnits n d) * ofQuotient false 1000 1).truncate? =
      some (signed negative (thousandfold (roundUnits n d) / one)) := by
  have hlength := h.bitLength_le_of_small
  generalize roundUnits n d = u at hlength ⊢
  obtain ⟨e, he, -⟩ := exists_one_eq
  have hquot : 1000 * u * one / one < 2 ^ (e + 53) := by
    rw [Nat.mul_div_cancel _ one_pos]
    exact Nat.lt_of_lt_of_le (lt_two_pow_bitLength _)
      (Nat.pow_le_pow_right (by decide) (by omega))
  have hproduct : u * (1000 * one) = 1000 * u * one := by ring
  rw [ofQuotient_whole false (by decide), mul_finite, hproduct, Bool.bne_false,
    ofUnits_eq_finite one_pos hquot (by omega), truncate?_finite, thousandfold]

/-! ## sums with a fraction -/

/-- Sums of finite numbers are rounded once, and zeros keep a sign that they share. -/
theorem add_finite (s t : Bool) (u v : Nat) : finite s u + finite t v =
    if signed s u + signed t v = 0 then finite (s && t) 0
    else ofUnits (signed s u + signed t v < 0) (signed s u + signed t v).natAbs 1 := by
  change add (finite s u) (finite t v) = _
  rw [add]

theorem roundUnits_zero : roundUnits 0 1 = 0 := by decide

/-- A fraction of a second is rounded by much less than a thousandth, and one of whole eighths is not. -/
theorem fraction {f : Nat} (hf : f < DateTime.second) :
    ofQuotient false f DateTime.second = finite false (roundUnits (f * one) DateTime.second) ∧
    ∃ slack, 2 ^ 44 * slack ≤ one ∧ (125000 ∣ f → slack = 0) ∧
      DateTime.second * roundUnits (f * one) DateTime.second ≤ f * one + 1000 * slack ∧
      f * one ≤ DateTime.second * roundUnits (f * one) DateTime.second + 1000 * slack := by
  obtain ⟨c, hc⟩ : ∃ c, 53 + c = 1074 := ⟨1021, rfl⟩
  have hone := one_eq_mul hc
  have hsecond : 0 < DateTime.second := by decide
  have hquot : f * one / DateTime.second < 2 ^ (c + 53) := by
    refine (Nat.div_lt_iff_lt_mul hsecond).mpr ?_
    rw [Nat.add_comm, Nat.pow_add, ← hone, Nat.mul_comm]
    exact Nat.mul_lt_mul_of_pos_left hf one_pos
  refine ⟨ofUnits_eq_finite hsecond hquot (by omega) false, ?_⟩
  by_cases hdvd : 125000 ∣ f
  · obtain ⟨j, rfl⟩ := hdvd
    obtain ⟨e, he⟩ : ∃ e, 3 + e = 1074 := ⟨1071, rfl⟩
    have heighth := one_eq_mul he
    have hterm : 125000 * j * one = j * 2 ^ e * DateTime.second := by
      rw [heighth, DateTime.second]
      ring
    have hexact : roundUnits (125000 * j * one) DateTime.second = j * 2 ^ e := by
      have hj : j < 2 ^ 53 := by
        simp only [DateTime.second] at hf
        omega
      rw [hterm]
      exact roundUnits_exact hj e hsecond
    refine ⟨0, Nat.zero_le _, fun _ => rfl, ?_, ?_⟩
    · rw [hexact, hterm, Nat.mul_comm]
      exact Nat.le_add_right _ _
    · rw [hexact, hterm, Nat.mul_comm]
      exact Nat.le_add_right _ _
  · have hplace := place_le hquot
    have hpow : 2 ^ place (f * one) DateTime.second ≤ 2 ^ c :=
      Nat.pow_le_pow_right (by decide) hplace
    obtain ⟨habove, hbelow⟩ := roundUnits_near (f * one) hsecond
    have hvalue : DateTime.second = 1000000 := rfl
    refine ⟨500 * 2 ^ place (f * one) DateTime.second, by omega, fun h => absurd h hdvd, ?_, ?_⟩
    · rw [hvalue] at habove ⊢
      omega
    · rw [hvalue] at hbelow ⊢
      omega

/-- Whole seconds and a fraction make up a thousandth of the milliseconds. -/
theorem add_fraction {m whole : Int} {f : Nat} (hf : f < DateTime.second)
    (hm : DateTime.second * whole + f = 1000 * m) (hsmall : m.natAbs < 2 ^ 48) :
    ∃ negative slack n, ofQuotient (whole < 0) whole.natAbs 1 + ofQuotient false f DateTime.second =
        finite negative (roundUnits n 1) ∧ Thousandth m.natAbs slack n 1 ∧
      (m ≠ 0 → negative = decide (m < 0)) ∧ (125 ∣ m.natAbs → slack = 0) := by
  obtain ⟨hfinite, slack, hslack, hexact, habove, hbelow⟩ := fraction hf
  generalize roundUnits (f * one) DateTime.second = F at hfinite habove hbelow
  have hvalue : DateTime.second = 1000000 := rfl
  rw [hvalue] at hf hm habove hbelow
  push_cast at hm
  have hwhole : whole.natAbs < 2 ^ 53 := by omega
  -- The exact sum is a thousandth of the milliseconds up to the error of the fraction.
  have hsum : 1000 * (1000 * (whole * one + F) - m * one) = 1000000 * F - f * (one : Int) := by
    have hmul : (1000000 * whole + f) * (one : Int) = 1000 * m * one := by rw [hm]
    linarith
  have hnear : 1000 * (whole * one + F) - m * one ≤ slack ∧
      -(slack : Int) ≤ 1000 * (whole * one + F) - m * one := by
    have hcast : ((f * one : Nat) : Int) = f * (one : Int) := Int.natCast_mul f one
    omega
  have hthousandth : Thousandth m.natAbs slack (whole * one + F).natAbs 1 := by
    have habs : (m * one).natAbs = m.natAbs * one := by rw [Int.natAbs_mul, Int.natAbs_natCast]
    refine ⟨Nat.one_pos, hsmall, hslack, ?_, ?_⟩
    · rw [← habs]
      omega
    · rw [← habs]
      omega
  have hpos := one_pos
  have hslackLt := hthousandth.slack_le
  have hsign : m ≠ 0 → decide (whole * one + F < 0) = decide (m < 0) := by
    intro hm0
    refine decide_eq_decide.mpr ?_
    obtain hneg | hpos' := Int.lt_or_gt_of_ne hm0
    · have hle : m * one ≤ -1 * one := Int.mul_le_mul_of_nonneg_right (by omega) (by omega)
      omega
    · have hle : 1 * one ≤ m * one := Int.mul_le_mul_of_nonneg_right (by omega) (by omega)
      omega
  refine ⟨decide (whole * one + F < 0), slack, (whole * one + F).natAbs, ?_, hthousandth, hsign,
    fun hdvd => hexact ?_⟩
  · have hsigned : signed false F = F := rfl
    rw [ofQuotient_whole _ hwhole, hfinite, add_finite, signed_natAbs, hsigned]
    split
    case isTrue hzero =>
      rw [hzero, Int.natAbs_zero, roundUnits_zero, Bool.and_false]
      rfl
    case isFalse =>
      obtain ⟨e, he, -⟩ := exists_one_eq
      have hplace := hthousandth.place_add_le
      have hquot : (whole * one + F).natAbs / 1 < 2 ^ (e + 53) := by
        refine Nat.lt_of_lt_of_le (div_lt_two_pow_place _ _) ?_
        exact Nat.pow_le_pow_right (by decide) (by omega)
      exact ofUnits_eq_finite Nat.one_pos hquot (by omega) _
  · obtain ⟨j, hj⟩ := hdvd
    omega

end Rollout.Binary64
