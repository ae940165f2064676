import Mathlib.Data.List.Chain
import Rollout.Proofs.Series

/-!
# Rollout.Proofs.Window

The buckets of a window, where those of a report follow each other and none starts after the end.

* `Successive` — each bucket is over when the next one starts;
* `Completed.eq_filter` — the completed buckets of such a report are those that are over at the end;
* `InWindow`, `inWindow_trim` — the ones that are kept for a limit, which are kept again.
-/

namespace Rollout

/-- Buckets in order of time, each of which is over when the next one starts. -/
def Successive (report : List Bucket) : Prop := report.IsChain fun b next => b.finish ≤ next.start

/-- A bucket is over if another one follows it, which has started. -/
theorem Successive.ended_of_mem_dropLast {report : List Bucket} {millis : Int}
    (h : Successive report) (hstarts : ∀ b ∈ report, b.start ≤ millis) :
    ∀ b ∈ report.dropLast, b.finish ≤ millis := by
  induction report with
  | nil => simp
  | cons b rest ih =>
      match rest, h with
      | [], _ => simp
      | next :: rest, h =>
          obtain ⟨hnext, hrest⟩ := List.isChain_cons_cons.mp h
          have hended := ih hrest fun b hb => hstarts b (.tail _ hb)
          rw [List.dropLast_cons_cons, List.forall_mem_cons]
          exact ⟨Int.le_trans hnext (hstarts next (.tail _ (.head _))), hended⟩

/-- Only the last bucket of a report can reach past the end, so the completed ones are all that are
over. -/
theorem Completed.eq_filter {millis : Int} {report completed : List Bucket}
    (h : Completed millis report completed) (horder : Successive report)
    (hstarts : ∀ b ∈ report, b.start ≤ millis) :
    completed = report.filter (·.finish ≤ millis) := by
  have hended := horder.ended_of_mem_dropLast hstarts
  cases h with
  | without hreport hlate =>
      have hpartial : ¬ _ ≤ millis := Int.not_le.mpr hlate
      rw [hreport, List.dropLast_concat] at hended
      rw [hreport, List.filter_append, List.filter_eq_self.mpr (by simpa using hended),
        List.filter_cons_of_neg (by simpa using hpartial), List.filter_nil, List.append_nil]
  | whole hlast =>
      refine (List.filter_eq_self.mpr fun b hb => decide_eq_true ?_).symm
      rcases List.eq_nil_or_concat report with rfl | ⟨earlier, last, rfl⟩
      · cases hb
      · rw [List.concat_eq_append] at hb hended hlast
        rw [List.dropLast_concat] at hended
        rcases List.mem_append.mp hb with hb | hb
        · exact hended b hb
        · obtain rfl := List.mem_singleton.mp hb
          exact hlast b (by rw [List.getLast?_concat]; rfl)

/-- Of buckets that are all over, none is left out. -/
theorem Completed.eq_of_ended {millis : Int} {report completed : List Bucket}
    (h : Completed millis report completed) (hended : ∀ b ∈ report, b.finish ≤ millis) :
    completed = report := by
  cases h with
  | without hreport hlate =>
      have hlast := hended _ (hreport ▸ List.mem_append_right _ (.head _))
      exact absurd hlate (Int.not_lt.mpr hlast)
  | whole _ => rfl

/-- The newest of the newest are the same ones. -/
theorem newest_newest (limit : Int) (buckets : List Bucket) :
    newest limit (newest limit buckets) = newest limit buckets := by
  refine (newest_suffix limit _).eq_of_length ?_
  rw [length_newest, length_newest]
  split <;> omega

/-- What is kept of a report for a window that ends at the given time, up to a limit. -/
structure InWindow (millis : Int) (report : List Bucket) (limit : Int) (kept : List Bucket) :
    Prop where
  ended : ∀ b ∈ kept, b.finish ≤ millis
  /-- Without a limit, no bucket that is over is left out. -/
  all : limit < 0 → kept = report.filter (·.finish ≤ millis)
  /-- With a limit these are the newest ones, as many as it admits. -/
  newest : 0 ≤ limit → ∃ older, report.filter (·.finish ≤ millis) = older ++ kept ∧
    kept.length = min limit.toNat (report.filter (·.finish ≤ millis)).length

/-- The newest of the buckets that have ended are the window. -/
theorem inWindow_newest (millis : Int) (report : List Bucket) (limit : Int) :
    InWindow millis report limit (newest limit (report.filter (·.finish ≤ millis))) := by
  have hsuffix := newest_suffix limit (report.filter (·.finish ≤ millis))
  constructor
  case ended =>
    intro b hb
    exact of_decide_eq_true (List.mem_filter.mp (hsuffix.subset hb)).2
  case all =>
    intro hlimit
    refine hsuffix.eq_of_length ?_
    rw [length_newest, if_pos hlimit]
  case newest =>
    intro hlimit
    obtain ⟨older, holder⟩ := hsuffix
    refine ⟨older, holder.symm, ?_⟩
    rw [length_newest, if_neg (Int.not_lt.mpr hlimit)]

/-- The buckets that are kept of a report are those of the window, and trimming them again changes
nothing. -/
theorem inWindow_trim {report : List Bucket} {finish : DateTime} {millis : Int}
    (hmillis : millisOf finish = .ok millis) (horder : Successive report)
    (hstarts : ∀ b ∈ report, b.start ≤ millis) (limit : Int) :
    ∃ kept, trim report finish limit = .ok kept ∧ InWindow millis report limit kept ∧
      trim kept finish limit = .ok kept := by
  obtain ⟨completed, hcompleted, htrim⟩ := trim_eq hmillis report
  rw [hcompleted.eq_filter horder hstarts] at htrim
  have hkept := inWindow_newest millis report limit
  refine ⟨_, htrim limit, hkept, ?_⟩
  obtain ⟨again, hagain, htrimAgain⟩ :=
    trim_eq hmillis (newest limit (report.filter (·.finish ≤ millis)))
  rw [htrimAgain, hagain.eq_of_ended hkept.ended, newest_newest]

/-- Of three minutes, one after the other, the last one is not over at the end of the window. -/
theorem reporting_inWindow :
    millisOf reporting.finish = .ok 150000 ∧ Successive reporting.report ∧
      (∀ b ∈ reporting.report, b.start ≤ 150000) ∧
      ∃ kept, trim reporting.report reporting.finish (-1) = .ok kept ∧
        InWindow 150000 reporting.report (-1) kept ∧ trim kept reporting.finish (-1) = .ok kept ∧
        kept = reporting.report.take 2 := by
  have hmillis : millisOf reporting.finish = .ok 150000 :=
    Outcome.eq_ok_of_toOption (by decide +kernel)
  have horder : Successive reporting.report := by
    unfold Successive
    decide
  have hstarts : ∀ b ∈ reporting.report, b.start ≤ 150000 := by decide
  obtain ⟨kept, htrim, hkept, hagain⟩ := inWindow_trim hmillis horder hstarts (-1)
  have htwo : reporting.report.filter (·.finish ≤ 150000) = reporting.report.take 2 := by rfl
  exact ⟨hmillis, horder, hstarts, kept, htrim, hkept, hagain,
    (hkept.all (by decide)).trans htwo⟩

end Rollout
