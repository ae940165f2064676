import Rollout.Proofs.Usage

/-!
# Rollout.Proofs.Series

Which of the buckets that the metrics service reports a series shows.

* `Completed` — the buckets of a report, less a last one that reaches past the end of the window;
  `trim_eq`, `length_newest`, `newest_suffix_newest` — the newest of these are kept;
* `Sample.Averages`, `Averaging` — the samples of a series, and the series of all limits;
* `readSeries_averaging` — the series that is read for a limit averages the newest completed buckets.
-/

namespace Rollout

open Client

variable {σ : Type}

/-! ## segments of a report -/

/-- The buckets of a report that are complete at the end of a window, in milliseconds: all of them, or
all but a last one that ends later. -/
inductive Completed (millis : Int) (report : List Bucket) : List Bucket → Prop where
  | without {earlier : List Bucket} {last : Bucket} : report = earlier ++ [last] →
    millis < last.finish → Completed millis report earlier
  | whole : (∀ last ∈ report.getLast?, last.finish ≤ millis) → Completed millis report report

/-- The buckets of a window are the newest ones that are completed. -/
theorem trim_eq {finish : DateTime} {millis : Int} (hmillis : millisOf finish = .ok millis)
    (report : List Bucket) :
    ∃ completed, Completed millis report completed ∧
      ∀ limit, trim report finish limit = .ok (newest limit completed) := by
  rcases List.eq_nil_or_concat report with rfl | ⟨earlier, last, rfl⟩
  · refine ⟨[], .whole (by simp), fun limit => ?_⟩
    have hnone : newest limit ([] : List Bucket) = [] := by simp [newest]
    rw [hnone]
    rfl
  · have htrim (limit : Int) : trim (earlier.concat last) finish limit =
        .ok (newest limit (if millis < last.finish then earlier else earlier.concat last)) := by
      unfold trim
      rw [List.concat_eq_append, List.getLast?_concat, List.dropLast_concat, hmillis]
      rfl
    by_cases hlate : millis < last.finish
    · refine ⟨earlier, .without (List.concat_eq_append ..) hlate, fun limit => ?_⟩
      rw [htrim, if_pos hlate]
    · refine ⟨_, .whole fun b hb => ?_, fun limit => ?_⟩
      · rw [List.concat_eq_append, List.getLast?_concat] at hb
        cases hb
        exact Int.not_lt.mp hlate
      · rw [htrim, if_neg hlate]

/-- The newest buckets are the last ones. -/
theorem newest_suffix (limit : Int) (buckets : List Bucket) : newest limit buckets <:+ buckets := by
  unfold newest
  split
  · exact List.drop_suffix _ _
  · exact List.suffix_refl _

/-- A negative limit keeps all buckets, and another one keeps that many, if there are. -/
theorem length_newest (limit : Int) (buckets : List Bucket) :
    (newest limit buckets).length =
      if limit < 0 then buckets.length else min limit.toNat buckets.length := by
  unfold newest
  by_cases hfewer : 0 ≤ limit ∧ limit < buckets.length
  · rw [if_pos hfewer, if_neg (by omega), List.length_drop]
    omega
  · rw [if_neg hfewer]
    split <;> omega

/-- A smaller limit keeps the newest of what a larger one keeps. -/
theorem newest_suffix_newest {m n : Int} (hm : 0 ≤ m) (hmn : m ≤ n) (buckets : List Bucket) :
    newest m buckets <:+ newest n buckets := by
  refine List.suffix_of_suffix_length_le (newest_suffix m _) (newest_suffix n _) ?_
  rw [length_newest, length_newest, if_neg (by omega), if_neg (by omega)]
  omega

/-! ## samples -/

/-- A sample is the average of a bucket, at its start.  The use of processors is counted in thousandths
of a core. -/
structure Sample.Averages (signal : Signal) (b : Bucket) (s : Sample) : Prop where
  time : Binary64.ofInt? b.start = some s.time
  value : s.value = b.average *
    (if signal = .cpu then Binary64.ofQuotient false 1 1000 else Binary64.ofQuotient false 1 1)

/-- Only cores are given in thousandths. -/
theorem Signal.scale_eq (signal : Signal) :
    signal.scale =
      if signal = .cpu then Binary64.ofQuotient false 1 1000 else Binary64.ofQuotient false 1 1 := by
  cases signal
  case cpu => exact (if_pos rfl).symm
  all_goals exact (if_neg (by decide)).symm

/-- A bucket has a sample if its start has a floating point number. -/
theorem Sample.ofBucket_eq (scale : Binary64) (b : Bucket) :
    ofBucket scale b =
      (Binary64.ofInt? b.start).elim (.error .tooLarge) fun t => .ok ⟨t, b.average * scale⟩ := by
  -- The definition is opened before it is applied: to compare the two sides as they stand, Lean would
  -- compute the floating point number of an unknown start.
  obtain ⟨f, hf⟩ : ∃ f, f = ofBucket := ⟨_, rfl⟩
  rw [← hf]
  delta ofBucket at hf
  have happlied : f scale b = _ := congrFun (congrFun hf scale) b
  rw [happlied]
  generalize Binary64.ofInt? b.start = t?
  clear happlied
  cases t? <;> rfl

/-- The sample of a bucket averages it. -/
theorem Sample.averages_of_ofBucket {signal : Signal} {b : Bucket} {s : Sample}
    (h : Sample.ofBucket signal.scale b = .ok s) : s.Averages signal b := by
  rw [ofBucket_eq, signal.scale_eq] at h
  cases htime : Binary64.ofInt? b.start with
  | none =>
      rw [htime] at h
      cases h
  | some t =>
      rw [htime] at h
      obtain rfl := Except.ok.inj h
      exact ⟨htime, rfl⟩

/-- A bucket whose start is a number in floating point has a sample. -/
theorem Sample.exists_ofBucket {b : Bucket} (hstart : (Binary64.ofInt? b.start).isSome = true)
    (scale : Binary64) : ∃ s, Sample.ofBucket scale b = .ok s := by
  obtain ⟨t, ht⟩ := Option.isSome_iff_exists.mp hstart
  refine ⟨⟨t, b.average * scale⟩, ?_⟩
  rw [ofBucket_eq, ht]
  rfl

/-- The series of a report, one for each limit.  The samples average a segment of the report, which
ends with the completed buckets and is as long as the limit admits. -/
structure Averaging (signal : Signal) (millis : Int) (report : List Bucket)
    (series : Int → List Sample) : Prop where
  segment : ∃ completed, Completed millis report completed ∧ ∀ limit, ∃ earlier kept,
    completed = earlier ++ kept ∧
    kept.length = (if limit < 0 then completed.length else min limit.toNat completed.length) ∧
    List.Forall₂ (fun b s => s.Averages signal b) kept (series limit)
  atMost {limit : Int} : 0 ≤ limit → (series limit).length ≤ limit
  /-- A smaller limit shows the newest samples of what a larger one shows. -/
  nested {m n : Int} : 0 ≤ m → m ≤ n →
    series m <:+ series n ∧ (series m).length = min m.toNat (series n).length

/-- The samples of buckets, where they have some. -/
def averagesOf (signal : Signal) (buckets : List Bucket) : List Sample :=
  buckets.filterMap fun b => (Sample.ofBucket signal.scale b).toOption

theorem mapM_ofBucket {buckets : List Bucket}
    (hstarts : ∀ b ∈ buckets, (Binary64.ofInt? b.start).isSome = true) (signal : Signal) :
    buckets.mapM (Sample.ofBucket signal.scale) = .ok (averagesOf signal buckets) :=
  Outcome.mapM_eq_ok_filterMap fun b hb => Sample.exists_ofBucket (hstarts b hb) signal.scale

/-- What the newest completed buckets of a report average to are its series. -/
theorem averaging_newest {signal : Signal} {millis : Int} {report completed : List Bucket}
    (hcompleted : Completed millis report completed)
    (hstarts : ∀ b ∈ completed, (Binary64.ofInt? b.start).isSome = true) :
    Averaging signal millis report fun limit => averagesOf signal (newest limit completed) := by
  have hkept (limit : Int) : ∀ b ∈ newest limit completed, (Binary64.ofInt? b.start).isSome = true :=
    fun b hb => hstarts b ((newest_suffix limit completed).subset hb)
  have hlength (limit : Int) :
      (averagesOf signal (newest limit completed)).length = (newest limit completed).length :=
    Outcome.length_of_mapM (mapM_ofBucket (hkept limit) signal)
  constructor
  case segment =>
    refine ⟨completed, hcompleted, fun limit => ?_⟩
    obtain ⟨earlier, hsplit⟩ := newest_suffix limit completed
    refine ⟨earlier, newest limit completed, hsplit.symm, length_newest limit completed, ?_⟩
    exact (Outcome.mapM_eq_ok_iff_forall₂.mp (mapM_ofBucket (hkept limit) signal)).imp
      fun _ _ h => Sample.averages_of_ofBucket h
  case atMost =>
    intro limit hlimit
    rw [hlength, length_newest, if_neg (by omega)]
    omega
  case nested =>
    intro m n hm hmn
    refine ⟨(newest_suffix_newest hm hmn completed).filterMap _, ?_⟩
    rw [hlength, hlength, length_newest, length_newest, if_neg (by omega), if_neg (by omega)]
    omega

/-! ## reading a series -/

/-- Buckets that are completed have been reported. -/
theorem Completed.subset {millis : Int} {report completed : List Bucket}
    (h : Completed millis report completed) : completed ⊆ report := by
  cases h with
  | without hreport _ =>
      rw [hreport]
      exact List.subset_append_left _ _
  | whole _ => exact List.Subset.refl _

variable [Cluster σ]

/-- Whatever the metrics service reports for pods over a window, the series that is read of a signal
averages the newest of the buckets that are completed at the end of the window, up to the limit. -/
theorem readSeries_averaging {access : MetricsAccess} {pods : List Pod} {tenant : String}
    {signal : Signal} {start finish : DateTime} {r : Run σ} {w : WebRequest} {report : List Bucket}
    (hpods : pods ≠ [])
    (hquery : usageQuery access pods tenant start finish .minutes signal = .ok w)
    (hreport : bucketsOf access (Cluster.web w r.cluster).1 = .ok report)
    (hstarts : ∀ b ∈ report, (Binary64.ofInt? b.start).isSome = true) :
    ∃ millis series, millisOf finish = .ok millis ∧
      w.target.params.lookup "end" = some (toString millis) ∧
      (∀ limit, (readSeries access pods tenant signal start finish limit).eval r =
        (.ok (series limit), r.afterWeb w)) ∧
      Averaging signal millis report series := by
  obtain ⟨first, millis, -, hmillis, hparams⟩ := (asksUsage_of_usageQuery hquery).params
  obtain ⟨completed, hcompleted, htrim⟩ := trim_eq hmillis report
  have hcompletedStarts : ∀ b ∈ completed, (Binary64.ofInt? b.start).isSome = true :=
    fun b hb => hstarts b (hcompleted.subset hb)
  refine ⟨millis, _, hmillis, ?_, fun limit => ?_, averaging_newest hcompleted hcompletedStarts⟩
  · rw [hparams]
    rfl
  · have hread : (readBuckets access pods tenant signal start finish .minutes).eval r =
        (.ok report, r.afterWeb w) := by
      rw [eval_readBuckets hpods, hquery, sending, hreport]
    have hkept : ∀ b ∈ newest limit completed, (Binary64.ofInt? b.start).isSome = true :=
      fun b hb => hcompletedStarts b ((newest_suffix limit completed).subset hb)
    unfold readSeries
    rw [eval_bind_of_ok hread, htrim, eval_bind, eval_outcome]
    simp only [mapM_outcome]
    rw [mapM_ofBucket hkept, eval_outcome]

/-- A client of a cluster whose metrics service reports three minutes of memory. -/
def reporting : Run Recorded where
  session := rolledOut.session
  cluster := ⟨[], [("METRICS my-run memory/usage", .answer 200 (.document (.list
    [bucket 0 60000 1, bucket 60000 120000 2, bucket 120000 180000 3])))]⟩
where
  bucket (start finish average : Int) : Document :=
    .object [("start", .int start), ("end", .int finish), ("avg", .int average)]

  /-- What the metrics service reports. -/
  report : List Bucket := [read 0 60000 1, read 60000 120000 2, read 120000 180000 3]
  read (start finish average : Nat) : Bucket :=
    ⟨start, finish, .ofQuotient false average 1, none, none, 0, false⟩
  access : MetricsAccess := ⟨"https://metrics.a.b", "t"⟩
  /-- Two and a half minutes after the beginning of 1970. -/
  finish : DateTime := ⟨DateTime.epoch + 150 * DateTime.second, some 0⟩
  query : Outcome WebRequest :=
    usageQuery access [{ metadata := {} }] "my-run" sampleMinute finish .minutes .memory

/-- The third minute is not over at the end of the window, so the newest sample is of the second
one. -/
theorem reporting_averaging :
    ∃ (w : WebRequest) (millis : Int) (series : Int → List Sample),
      reporting.query = .ok w ∧
      bucketsOf reporting.access (Cluster.web w reporting.cluster).1 = .ok reporting.report ∧
      (∀ b ∈ reporting.report, (Binary64.ofInt? b.start).isSome = true) ∧
      millisOf reporting.finish = .ok millis ∧
      Averaging .memory millis reporting.report series ∧
      series 1 = [⟨.ofQuotient false 60000 1, .ofQuotient false 2 1⟩] := by
  have hasked : reporting.query.toOption.map (fun w =>
      (bucketsOf reporting.access (Cluster.web w reporting.cluster).1).toOption) =
        some (some reporting.report) := by decide +kernel
  have hone : ((readSeries reporting.access [{ metadata := {} }] "my-run" .memory sampleMinute
      reporting.finish 1).eval reporting).1.toOption =
        some [⟨.ofQuotient false 60000 1, .ofQuotient false 2 1⟩] := by decide +kernel
  have hstarts : ∀ b ∈ reporting.report, (Binary64.ofInt? b.start).isSome = true := by
    decide +kernel
  cases hquery : reporting.query with
  | error e =>
      rw [hquery] at hasked
      cases hasked
  | ok w =>
      rw [hquery] at hasked
      have hreport := Outcome.eq_ok_of_toOption (Option.some.inj hasked)
      obtain ⟨millis, series, hmillis, -, hread, haveraging⟩ :=
        readSeries_averaging (List.cons_ne_nil _ _) hquery hreport hstarts
      rw [hread] at hone
      exact ⟨w, millis, series, rfl, hreport, hstarts, hmillis, haveraging, Option.some.inj hone⟩

end Rollout
