import Rollout.Proofs.Series
import Rollout.Proofs.Thousandths

/-!
# Rollout.Proofs.Milliseconds

The milliseconds since 1970 that are computed of a moment, in floating point, and the windows that are
asked for by them.

* `DateTime.AtMilli` — a moment at a whole number of milliseconds;
* `DateTime.AtMilli.exists_thousandth` — its seconds are a thousandth of these, with an offset or without;
* `DateTime.Sharp` — the numbers that are met; `DateTime.AtMilli.millisOf_cases`,
  `DateTime.AtMilli.millisOf_of_blurred` — others are missed by one at most, and some are;
* `trim_concat`, `sent_readSample` — the end of a window, and the query of a minute;
* `MillisCourse`, `millisCourse` — what follows for windows that begin or end at such a moment.
-/

namespace Rollout

/-! ## seconds since 1970 -/

namespace DateTime

open Binary64

/-- A time of the calendar at a whole number of milliseconds since 1970. -/
structure AtMilli (t : DateTime) (m : Int) : Prop where
  wall_lt : t.wall < wallLimit
  offset_lt : ∀ o ∈ t.offset, o.natAbs < day
  instant_eq : t.instant - epoch = 1000 * m

variable {t : DateTime} {m : Int} (h : AtMilli t m)

include h

/-- A moment in milliseconds is in a range where thousandths are precise. -/
theorem AtMilli.natAbs_lt : m.natAbs < 2 ^ 48 := by
  have hwall := h.wall_lt
  have hoffset := h.offset_lt
  have hinstant := h.instant_eq
  unfold instant at hinstant
  cases ho : t.offset with
  | none =>
      rw [ho] at hinstant
      simp only [Option.getD_none] at hinstant
      simp only [wallLimit, epoch, day, second] at *
      omega
  | some o =>
      rw [ho] at hinstant hoffset
      have hday := hoffset o rfl
      simp only [Option.getD_some] at hinstant
      simp only [wallLimit, epoch, day, second] at *
      omega

/-- A whole number of milliseconds is this many thousandths of a second, to begin with. -/
theorem AtMilli.thousandth :
    Thousandth m.natAbs 0 ((1000 * m.natAbs) * one) second where
  pos := by decide
  small := h.natAbs_lt
  slack_le := Nat.zero_le _
  atMost := Nat.le_of_eq (by unfold second; ring)
  atLeast := Nat.le_of_eq (by unfold second; ring)

/-- With an offset, the seconds are one quotient. -/
theorem AtMilli.unixSeconds?_of_offset (ho : t.offset.isSome = true) :
    t.unixSeconds? =
      some (finite (m < 0) (roundUnits ((1000 * m.natAbs) * one) second)) := by
  obtain ⟨o, ho⟩ := Option.isSome_iff_exists.mp ho
  have hlength := h.thousandth.place_add_le
  obtain ⟨e, he, -⟩ := exists_one_eq
  have hquot : (1000 * m.natAbs) * one / second < 2 ^ (e + 53) := by
    refine Nat.lt_of_lt_of_le (div_lt_two_pow_place _ _) ?_
    exact Nat.pow_le_pow_right (by decide) (by omega)
  have hsign : decide (1000 * m < 0) = decide (m < 0) := decide_eq_decide.mpr (by omega)
  have habs : (1000 * m).natAbs = 1000 * m.natAbs := by omega
  unfold unixSeconds?
  rw [ho]
  simp only [h.instant_eq]
  rw [hsign, habs, ofQuotient, ofUnits_eq_finite (by decide) hquot (by omega)]

/-- Without an offset, the seconds are a sum with a fraction. -/
theorem AtMilli.unixSeconds?_of_naive (ho : t.offset = none) (hday : day ≤ t.wall) :
    ∃ negative slack n, t.unixSeconds? = some (finite negative (roundUnits n 1)) ∧
      Thousandth m.natAbs slack n 1 ∧ (m ≠ 0 → negative = decide (m < 0)) ∧
      (125 ∣ m.natAbs → slack = 0) := by
  have hinstant := h.instant_eq
  rw [instant, ho] at hinstant
  have hparts : second * (((t.wall / second : Nat) : Int) - ((epoch / second : Nat) : Int)) +
      (t.wall % second : Nat) = 1000 * m := by
    simp only [Option.getD_none, epoch, day, second] at hinstant ⊢
    omega
  obtain ⟨negative, slack, n, hsum, hthousandth⟩ :=
    add_fraction (Nat.mod_lt t.wall (by decide)) hparts h.natAbs_lt
  refine ⟨negative, slack, n, ?_, hthousandth⟩
  unfold unixSeconds?
  rw [ho]
  simp only
  rw [if_neg (Nat.not_lt.mpr hday), hsum]

/-- Milliseconds that are computed without an error: eighths of a second, and those that are not blurred,
apart from those of a time without an offset about a minute before or after the beginning of 1970. -/
def Sharp (t : DateTime) (m : Int) : Prop :=
  125 ∣ m.natAbs ∨ (t.offset.isSome = true ∨ 65536 ≤ m.natAbs) ∧ ¬ Blurred m.natAbs

/-- The seconds of such a moment in floating point are as precise as it takes. -/
theorem AtMilli.exists_thousandth (hknown : t.offset.isSome = true ∨ day ≤ t.wall) :
    ∃ negative slack n d, t.unixSeconds? = some (finite negative (roundUnits n d)) ∧
      Thousandth m.natAbs slack n d ∧ (m ≠ 0 → negative = decide (m < 0)) ∧
      (Sharp t m → m.natAbs * one ≤ thousandfold (roundUnits n d)) := by
  cases ho : t.offset with
  | none =>
      obtain ⟨negative, slack, n, hseconds, hthousandth, hsign, hexact⟩ :=
        h.unixSeconds?_of_naive ho (hknown.resolve_left (by simp [ho]))
      refine ⟨negative, slack, n, 1, hseconds, hthousandth, hsign, ?_⟩
      rintro (hdvd | ⟨hsome | hlarge, hblurred⟩)
      · exact hthousandth.le_thousandfold_of_dvd (hexact hdvd) hdvd
      · simp [ho] at hsome
      · exact hthousandth.le_thousandfold_of_large hlarge hblurred
  | some o =>
      refine ⟨_, 0, _, _, h.unixSeconds?_of_offset (by simp [ho]), h.thousandth, fun _ => rfl, ?_⟩
      rintro (hdvd | ⟨-, hblurred⟩)
      · exact h.thousandth.le_thousandfold_of_dvd rfl hdvd
      · by_cases hsmall : m.natAbs < 1000
        · exact le_thousandfold_of_lt h.thousandth hsmall
        · exact h.thousandth.le_thousandfold_of_exact rfl (Nat.not_lt.mp hsmall) hblurred

/-- The milliseconds of a time are the whole number that they are, or the next one towards zero, which
they are not where that number is sharp. -/
theorem AtMilli.millisOf_cases (hknown : t.offset.isSome = true ∨ day ≤ t.wall) :
    ∃ n, millisOf t = .ok n ∧ (n = m ∨ n = m - m.sign) ∧ (Sharp t m → n = m) := by
  obtain ⟨negative, slack, n, d, hseconds, hthousandth, hsign, hsharp⟩ := h.exists_thousandth hknown
  have hmillis : t.unixMillis? =
      some (signed negative (thousandfold (roundUnits n d) / one)) := by
    rw [unixMillis?, hseconds, Option.bind_eq_bind, Option.bind_some, hthousandth.truncate_mul]
  have hcases := hthousandth.whole_part
  have hexact := fun hm => hthousandth.whole_part_of_le (hsharp hm)
  generalize thousandfold (roundUnits n d) / one = w at hmillis hcases hexact
  have hsigned : signed negative w = if m < 0 then -(w : Int) else w := by
    by_cases hm : m = 0
    · obtain rfl : w = 0 := by omega
      simp [signed, hm]
    · rw [hsign hm, signed]
      simp
  refine ⟨signed negative w, by rw [millisOf, hmillis], ?_, fun hm => ?_⟩
  · rw [hsigned]
    obtain hneg | rfl | hpos := Int.lt_trichotomy m 0
    · rw [if_pos hneg, Int.sign_eq_neg_one_of_neg hneg]
      omega
    · simp
      omega
    · rw [if_neg (by omega), Int.sign_eq_one_of_pos hpos]
      omega
  · rw [hsigned, hexact hm]
    split <;> omega

/-- In each of the blurred intervals, milliseconds are lost. -/
theorem AtMilli.millisOf_of_blurred (ho : t.offset.isSome = true) {e : Nat}
    (hm : m.natAbs = 1001 * 2 ^ e) : millisOf t = .ok (m - m.sign) := by
  have hseconds := h.unixSeconds?_of_offset ho
  have hthousandth := h.thousandth
  have hlost : thousandfold (roundUnits (1000 * m.natAbs * one) second) / one + 1 = m.natAbs := by
    obtain heq | heq := hthousandth.whole_part
    · have hlt : thousandfold (roundUnits (1000 * m.natAbs * one) second) < m.natAbs * one := by
        rw [hm] at hthousandth ⊢
        exact thousandfold_lt hthousandth
      have hquot := (Nat.div_lt_iff_lt_mul Binary64.one_pos).mpr hlt
      omega
    · exact heq
  have hmillis : t.unixMillis? = some (signed (m < 0)
      (thousandfold (roundUnits (1000 * m.natAbs * one) second) / one)) := by
    rw [unixMillis?, hseconds, Option.bind_eq_bind, Option.bind_some, hthousandth.truncate_mul]
  generalize thousandfold (roundUnits (1000 * m.natAbs * one) second) / one = w at hmillis hlost
  rw [millisOf, hmillis]
  refine congrArg Except.ok ?_
  unfold signed
  obtain hneg | rfl | hpos := Int.lt_trichotomy m 0
  · rw [Int.sign_eq_neg_one_of_neg hneg]
    simp [hneg]
    omega
  · simp at hlost
  · rw [Int.sign_eq_one_of_pos hpos]
    simp [Int.not_lt.mpr (Int.le_of_lt hpos)]
    omega

end DateTime

/-! ## windows -/

open Client DateTime

/-- A last bucket is left out of a window if it reaches past the end in milliseconds. -/
theorem trim_concat {finish : DateTime} {n : Int} (hfinish : millisOf finish = .ok n)
    (earlier : List Bucket) (last : Bucket) (limit : Int) :
    trim (earlier ++ [last]) finish limit =
      .ok (newest limit (if n < last.finish then earlier else earlier ++ [last])) := by
  unfold trim
  rw [List.getLast?_concat, List.dropLast_concat, hfinish]
  rfl

/-- There is a moment a minute later unless time ends before. -/
theorem minuteAfter_eq_ok_iff {t finish : DateTime} :
    minuteAfter t = .ok finish ↔
      t.wall + minute < wallLimit ∧ finish = { t with wall := t.wall + minute } := by
  unfold minuteAfter later?
  by_cases hlt : t.wall + minute < wallLimit
  · simp [hlt, eq_comm]
  · simp [hlt]

/-- A minute later, sixty thousand milliseconds more have passed. -/
theorem DateTime.AtMilli.later {t finish : DateTime} {m : Int} (h : AtMilli t m)
    (hfinish : minuteAfter t = .ok finish) : AtMilli finish (m + 60000) := by
  obtain ⟨hlt, rfl⟩ := minuteAfter_eq_ok_iff.mp hfinish
  refine ⟨hlt, h.offset_lt, ?_⟩
  have hinstant := h.instant_eq
  simp only [instant, minute, second] at hinstant ⊢
  omega

section

variable {σ : Type} [Cluster σ]

/-- Without a minute after it, nothing is asked about a moment. -/
theorem eval_readSample_of_error {t : DateTime} {e : Failure} (hfinish : minuteAfter t = .error e)
    (access : MetricsAccess) (pods : List Pod) (tenant : String) (signal : Signal) (r : Run σ) :
    (readSample access pods tenant signal t).eval r = (.error e, r) := by
  unfold readSample
  refine eval_bind_of_error ?_
  rw [eval_outcome, hfinish]

/-- The average of a minute is asked for by one query of this minute, if it can be made. -/
theorem sent_readSample {t finish : DateTime} (hfinish : minuteAfter t = .ok finish)
    (access : MetricsAccess) (pods : List Pod) (tenant : String) (signal : Signal) (r : Run σ) :
    ((readSample access pods tenant signal t).eval r).2.sent = r.sent ∨
      ∃ w, usageQuery access pods tenant t finish .whole signal = .ok w ∧
        ((readSample access pods tenant signal t).eval r).2.sent = r.sent ++ [.web w] := by
  rw [readSample_eq hfinish]
  by_cases hpods : pods = []
  · rw [hpods, Inquiry.ask_nil]
    exact .inl rfl
  · rw [Inquiry.eval_ask _ access tenant hpods, sending_snd]
    cases hquery : (minuteInquiry t finish).query access tenant pods signal with
    | error e => exact .inl rfl
    | ok w => exact .inr ⟨w, hquery, rfl⟩

end

/-! ## whole milliseconds -/

/-- What is computed of a moment at a whole number of milliseconds since 1970.  Without an offset, the
first day of the calendar is too early.  Otherwise the number is met, or missed by one towards zero; it
is met where it is sharp, and missed in each of the blurred intervals. -/
structure MillisCourse (t : DateTime) (m : Int) : Prop where
  tooEarly : t.offset = none → t.wall < day → millisOf t = .error .tooEarly
  near : t.offset.isSome = true ∨ day ≤ t.wall →
    ∃ n, millisOf t = .ok n ∧ (n = m ∨ n = m - m.sign) ∧ (Sharp t m → n = m)
  missed : t.offset.isSome = true → ∀ e, m.natAbs = 1001 * 2 ^ e → millisOf t = .ok (m - m.sign)
  /-- A bucket that ends at the moment is left out of a window up to it where the number is missed from
  below. -/
  trimmed {n : Int} : millisOf t = .ok n → ∀ (earlier : List Bucket) (last : Bucket) (limit : Int),
    last.finish = m → trim (earlier ++ [last]) t limit =
      .ok (newest limit (if n < m then earlier else earlier ++ [last]))
  /-- The minute after the moment is asked for as sixty thousand milliseconds where both of its ends are
  sharp, and as one more or fewer otherwise; as two fewer at most, if it begins before 1970 and ends
  after its beginning. -/
  window {σ : Type} [Cluster σ] (access : MetricsAccess) (pods : List Pod) (tenant : String)
      (signal : Signal) (r : Run σ) :
    ((readSample access pods tenant signal t).eval r).2.sent = r.sent ∨
      ∃ finish w first last, minuteAfter t = .ok finish ∧
        ((readSample access pods tenant signal t).eval r).2.sent = r.sent ++ [.web w] ∧
        w.target.params = usageParams pods first last .whole signal ∧
        (Sharp t m → Sharp finish (m + 60000) → last - first = 60000) ∧
        59998 ≤ last - first ∧ last - first ≤ 60001 ∧
        (0 ≤ m ∨ m + 60000 ≤ 0 → 59999 ≤ last - first)

/-- A number that is missed towards zero is not missed on the other side. -/
theorem near_of_cases {m n : Int} (h : n = m ∨ n = m - m.sign) :
    (0 ≤ m → n ≤ m ∧ m ≤ n + 1 ∧ 0 ≤ n) ∧ (m ≤ 0 → m ≤ n ∧ n ≤ m + 1 ∧ n ≤ 0) := by
  obtain hneg | rfl | hpos := Int.lt_trichotomy m 0
  · rw [Int.sign_eq_neg_one_of_neg hneg] at h
    omega
  · simp at h
    omega
  · rw [Int.sign_eq_one_of_pos hpos] at h
    omega

/-- A time without an offset on the first day of all has no milliseconds. -/
theorem millisOf_of_tooEarly {t : DateTime} (ho : t.offset = none) (hday : t.wall < day) :
    millisOf t = .error .tooEarly := by
  have hseconds : t.unixSeconds? = none := by
    unfold unixSeconds?
    rw [ho]
    simp only
    rw [if_pos hday]
  rw [millisOf, unixMillis?, hseconds]
  rfl

/-- Milliseconds are only asked for where they are computed. -/
theorem known_of_millisOf {t : DateTime} {n : Int} (h : millisOf t = .ok n) :
    t.offset.isSome = true ∨ day ≤ t.wall := by
  cases ho : t.offset with
  | some o => exact .inl rfl
  | none =>
      refine .inr (Nat.not_lt.mp fun hday => ?_)
      rw [millisOf_of_tooEarly ho hday] at h
      cases h

/-- At a whole number of milliseconds, all that is computed of a moment takes its course: the number is
met, or missed by one, and buckets and queries follow it. -/
theorem millisCourse {t : DateTime} {m : Int} (h : AtMilli t m) : MillisCourse t m where
  tooEarly := millisOf_of_tooEarly
  near := h.millisOf_cases
  missed ho _ := h.millisOf_of_blurred ho
  trimmed hmillis earlier last limit hlast := by rw [trim_concat hmillis, hlast]
  window access pods tenant signal r := by
    obtain ⟨finish, hfinish⟩ | ⟨e, hfinish⟩ :
        (∃ finish, minuteAfter t = .ok finish) ∨ ∃ e, minuteAfter t = .error e := by
      cases minuteAfter t with
      | ok finish => exact .inl ⟨finish, rfl⟩
      | error e => exact .inr ⟨e, rfl⟩
    · obtain hsent | ⟨w, hquery, hsent⟩ := sent_readSample hfinish access pods tenant signal r
      · exact .inl hsent
      obtain ⟨first, last, hfirst, hlast, hparams⟩ := (asksUsage_of_usageQuery hquery).params
      obtain ⟨n, hn, hnear, hsharp⟩ := h.millisOf_cases (known_of_millisOf hfirst)
      obtain ⟨n', hn', hnear', hsharp'⟩ := (h.later hfinish).millisOf_cases (known_of_millisOf hlast)
      obtain rfl := Except.ok.inj (hfirst.symm.trans hn)
      obtain rfl := Except.ok.inj (hlast.symm.trans hn')
      refine .inr ⟨finish, w, first, last, hfinish, hsent, hparams, fun ht hf => ?_, ?_⟩
      · rw [hsharp ht, hsharp' hf]
        omega
      · have hfirstNear := near_of_cases hnear
        have hlastNear := near_of_cases hnear'
        omega
    · rw [eval_readSample_of_error hfinish]
      exact .inl rfl

/-- A second and a thousandth after the beginning of 1970. -/
def afterSecond : DateTime := ⟨epoch + 1001000, some 0⟩

/-- A bucket that ends there. -/
def afterSecondBucket : Bucket := reporting.read 1 1001 1

/-- A moment one thousandth after a second. -/
theorem afterSecond_atMilli : AtMilli afterSecond 1001 := ⟨by decide, by decide, by decide⟩

/-- The thousandth is lost, and with it the bucket, though it ends in time. -/
theorem afterSecond_lost :
    afterSecond.instant - epoch = 1000 * 1001 ∧ millisOf afterSecond = .ok 1000 ∧
      afterSecondBucket.finish = 1001 ∧ trim [afterSecondBucket] afterSecond (-1) = .ok [] ∧
      ∃ finish, minuteAfter afterSecond = .ok finish ∧ millisOf finish = .ok 61001 :=
  ⟨by decide, Outcome.eq_ok_of_toOption (by decide +kernel), rfl,
    Outcome.eq_ok_of_toOption (by decide +kernel), _, minuteAfter_eq_ok_iff.mpr ⟨by decide, rfl⟩,
    Outcome.eq_ok_of_toOption (by decide +kernel)⟩

/-- The interval after the first second is blurred, and the thousandth is missed. -/
theorem afterSecond_course :
    AtMilli afterSecond 1001 ∧ MillisCourse afterSecond 1001 ∧
      millisOf afterSecond = .ok (1001 - Int.sign 1001) := by
  have hcourse := millisCourse afterSecond_atMilli
  exact ⟨afterSecond_atMilli, hcourse, hcourse.missed rfl 0 rfl⟩

end Rollout
