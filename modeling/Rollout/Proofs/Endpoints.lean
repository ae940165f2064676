import Mathlib.Data.List.Induction
import Rollout.Proofs.Choice
import Rollout.Proofs.Rounding
import Rollout.Proofs.Series
import Rollout.Proofs.Steady

/-!
# Rollout.Proofs.Endpoints

Between which times the samples of several series stand.

* `Binary64.IsWhole`, `Binary64.AtMost` — times in whole milliseconds, and their order;
* `chosen_foldl` — taking the earlier or the later of two times, one time after the other;
* `Extremes`, `extremes_endpoints` — the first and the last time of series in order of time, which are
  found at the ends of the series;
* `ReportsInOrder` — a metrics service that reports buckets in order; `inTimeOrder_of_readSeries` — what
  is read from it is in order of time, however much of it is kept;
* `endpoints_extremes` — the two times of series, and of the view of usage that is made of them.
-/

namespace Rollout

open Client

variable {σ : Type}

/-! ## times -/

namespace Binary64

/-- A whole number as a floating point number. -/
def IsWhole (t : Binary64) : Prop := ∃ m, ofInt? m = some t

/-- Both are numbers, and the first one is not the larger one. -/
def AtMost (t u : Binary64) : Prop := ∃ x y, t.key? = some x ∧ u.key? = some y ∧ x ≤ y

/-- The place of a number in the order of numbers. -/
def value (t : Binary64) : Int := t.key?.getD 0

variable {t u : Binary64}

/-- The key that whole numbers are ordered by is their value. -/
theorem IsWhole.key?_eq (h : t.IsWhole) : t.key? = some t.value := by
  obtain ⟨m, hm⟩ := h
  rw [value, key?_of_ofInt? hm]
  rfl

/-- The value of a number that was made from an integer. -/
theorem value_of_ofInt? {i : Int} (h : ofInt? i = some t) : t.value = wholeValue i := by
  rw [value, key?_of_ofInt? h]
  rfl

theorem AtMost.trans {v : Binary64} (h : t.AtMost u) (h' : u.AtMost v) : t.AtMost v := by
  obtain ⟨x, y, hx, hy, hxy⟩ := h
  obtain ⟨y', z, hy', hz, hyz⟩ := h'
  obtain rfl := Option.some.inj (hy.symm.trans hy')
  exact ⟨x, z, hx, hz, Int.le_trans hxy hyz⟩

/-- Whole numbers are compared as their values are. -/
theorem IsWhole.atMost_iff (ht : t.IsWhole) (hu : u.IsWhole) : t.AtMost u ↔ t.value ≤ u.value := by
  unfold AtMost
  rw [ht.key?_eq, hu.key?_eq]
  simp

theorem IsWhole.lt_iff (ht : t.IsWhole) (hu : u.IsWhole) : t.lt u = true ↔ t.value < u.value := by
  unfold lt
  rw [ht.key?_eq, hu.key?_eq]
  exact decide_eq_true_iff

/-- A whole number is the only one of its value. -/
theorem IsWhole.eq_of_value_eq (ht : t.IsWhole) (hu : u.IsWhole) (h : t.value = u.value) : t = u := by
  obtain ⟨i, hi⟩ := ht
  obtain ⟨j, hj⟩ := hu
  rw [value_of_ofInt? hi, value_of_ofInt? hj] at h
  exact eq_of_wholeValue_eq hi hj h

/-- Whole numbers keep their order, even where they have to be rounded. -/
theorem atMost_of_ofInt? {i j : Int} (h : i ≤ j) (ht : ofInt? i = some t)
    (hu : ofInt? j = some u) : t.AtMost u :=
  ⟨_, _, key?_of_ofInt? ht, key?_of_ofInt? hu, wholeValue_mono h⟩

end Binary64

/-! ## one time after the other -/

/-- What is kept of several times, if a later one replaces it where its key is greater. -/
theorem chosen_foldl {key : Binary64 → Int} {pick : Option Binary64 → Binary64 → Option Binary64}
    {times : List Binary64}
    (hpick : ∀ t ∈ times, ∀ found : Option Binary64, (∀ u ∈ found, u ∈ times) →
      pick found t = some (found.elim t fun u => if key u < key t then t else u)) :
    Chosen key times (times.foldl pick none) := by
  induction times using List.reverseRecOn with
  | nil => rfl
  | append_singleton times t ih =>
      have hfound : Chosen key times (times.foldl pick none) :=
        ih fun u hu found hmem => hpick u (List.mem_append_left _ hu) found fun v hv =>
          List.mem_append_left _ (hmem v hv)
      have hmem : ∀ u ∈ times.foldl pick none, u ∈ times ++ [t] := by
        intro u hu
        rw [Option.mem_def.mp hu] at hfound
        exact List.mem_append_left _ (FirstMax.mem hfound)
      rw [List.foldl_concat, hpick t (by simp) _ hmem]
      exact hfound.next t

/-- A scan for the earlier time ends with the least one. -/
theorem chosen_earlier {times : List Binary64} (h : ∀ t ∈ times, t.IsWhole) :
    Chosen (fun t => -t.value) times (times.foldl earlier none) := by
  refine chosen_foldl fun t ht found hmem => ?_
  cases found with
  | none => rfl
  | some u =>
      have hlt : t.lt u = true ↔ -u.value < -t.value :=
        ((h t ht).lt_iff (h u (hmem u rfl))).trans Int.neg_lt_neg_iff.symm
      simp only [earlier, Option.elim_some, hlt]

/-- A scan for the later time ends with the greatest one. -/
theorem chosen_later {times : List Binary64} (h : ∀ t ∈ times, t.IsWhole) :
    Chosen Binary64.value times (times.foldl later none) := by
  refine chosen_foldl fun t ht found hmem => ?_
  cases found with
  | none => rfl
  | some u =>
      have hlt : u.lt t = true ↔ u.value < t.value := (h u (hmem u rfl)).lt_iff (h t ht)
      simp only [later, Option.elim_some, hlt]

/-- The earlier one of several times is one of them, and at most each of them. -/
theorem foldl_earlier {times : List Binary64} (h : ∀ t ∈ times, t.IsWhole) :
    (times.foldl earlier none = none ↔ times = []) ∧
      ∀ first ∈ times.foldl earlier none, first ∈ times ∧ ∀ t ∈ times, first.AtMost t := by
  have hchosen := chosen_earlier h
  refine ⟨hchosen.eq_none_iff, fun first hfirst => ?_⟩
  rw [Option.mem_def.mp hfirst] at hchosen
  have hleast : FirstMax (fun t => -t.value) times first := hchosen
  refine ⟨hleast.mem, fun t ht => ((h first hleast.mem).atMost_iff (h t ht)).mpr ?_⟩
  exact Int.neg_le_neg_iff.mp (hleast.le ht)

/-- The later one of several times is one of them, and each of them is at most that one. -/
theorem foldl_later {times : List Binary64} (h : ∀ t ∈ times, t.IsWhole) :
    (times.foldl later none = none ↔ times = []) ∧
      ∀ last ∈ times.foldl later none, last ∈ times ∧ ∀ t ∈ times, t.AtMost last := by
  have hchosen := chosen_later h
  refine ⟨hchosen.eq_none_iff, fun last hlast => ?_⟩
  rw [Option.mem_def.mp hlast] at hchosen
  have hgreatest : FirstMax Binary64.value times last := hchosen
  exact ⟨hgreatest.mem, fun t ht =>
    ((h t ht).atMost_iff (h last hgreatest.mem)).mpr (hgreatest.le ht)⟩

/-! ## the ends of series -/

/-- The times of samples. -/
def timesOf (samples : List Sample) : List Binary64 := samples.map (·.time)

/-- Samples at whole milliseconds, in order of time. -/
structure InTimeOrder (samples : List Sample) : Prop where
  whole : ∀ t ∈ timesOf samples, t.IsWhole
  order : (timesOf samples).Pairwise Binary64.AtMost

/-- Two times between which several times stand, if there are any. -/
structure Extremes (times : List Binary64) (found : Option Binary64 × Option Binary64) : Prop where
  nothing : found = (none, none) ↔ times = []
  attained : times ≠ [] → ∃ first last, found = (some first, some last) ∧ first ∈ times ∧
    last ∈ times ∧ first.AtMost last ∧ ∀ t ∈ times, first.AtMost t ∧ t.AtMost last

/-- The endpoints are the earliest of the first samples and the latest of the last ones. -/
theorem endpoints_eq (series : List (List Sample)) :
    endpoints series = ((timesOf (series.filterMap List.head?)).foldl earlier none,
      (timesOf (series.filterMap List.getLast?)).foldl later none) := by
  rw [timesOf, timesOf, List.foldl_map, List.foldl_map]
  rfl

/-- In a series in order, no sample is earlier than the first one. -/
theorem InTimeOrder.atMost_head {samples : List Sample} (h : InTimeOrder samples) {first : Sample}
    (hfirst : samples.head? = some first) {s : Sample} (hs : s ∈ samples) :
    first.time.AtMost s.time := by
  obtain ⟨rest, rfl⟩ := List.head?_eq_some_iff.mp hfirst
  obtain rfl | hs := List.mem_cons.mp hs
  · have hwhole := h.whole s.time (.head _)
    exact (hwhole.atMost_iff hwhole).mpr (Int.le_refl _)
  · exact (List.pairwise_cons.mp h.order).1 s.time (List.mem_map_of_mem hs)

/-- And none is later than the last one. -/
theorem InTimeOrder.atMost_getLast {samples : List Sample} (h : InTimeOrder samples) {last : Sample}
    (hlast : samples.getLast? = some last) {s : Sample} (hs : s ∈ samples) :
    s.time.AtMost last.time := by
  obtain ⟨earlier, rfl⟩ := List.getLast?_eq_some_iff.mp hlast
  have horder := h.order
  rw [timesOf, List.map_append] at horder
  obtain hs | hs := List.mem_append.mp hs
  · exact (List.pairwise_append.mp horder).2.2 s.time (List.mem_map_of_mem hs) last.time (.head _)
  · obtain rfl := List.mem_singleton.mp hs
    have hwhole := h.whole s.time (by simp [timesOf])
    exact (hwhole.atMost_iff hwhole).mpr (Int.le_refl _)

section

variable {series : List (List Sample)} (h : ∀ samples ∈ series, InTimeOrder samples)

include h

/-- All times in series are whole numbers. -/
theorem whole_of_mem_series {t : Binary64} (ht : t ∈ timesOf series.flatten) : t.IsWhole := by
  obtain ⟨s, hs, rfl⟩ := List.mem_map.mp ht
  obtain ⟨samples, hsamples, hs⟩ := List.mem_flatten.mp hs
  exact (h samples hsamples).whole s.time (List.mem_map_of_mem hs)

/-- Every sample stands between the first and the last one of its series. -/
theorem exists_ends {t : Binary64} (ht : t ∈ timesOf series.flatten) :
    (∃ u ∈ timesOf (series.filterMap List.head?), u.AtMost t) ∧
      ∃ u ∈ timesOf (series.filterMap List.getLast?), t.AtMost u := by
  obtain ⟨s, hs, rfl⟩ := List.mem_map.mp ht
  obtain ⟨samples, hsamples, hs⟩ := List.mem_flatten.mp hs
  have hne : samples ≠ [] := List.ne_nil_of_mem hs
  have hhead := List.head?_eq_some_head hne
  have hlast := List.getLast?_eq_some_getLast hne
  exact ⟨⟨_, List.mem_map_of_mem (List.mem_filterMap.mpr ⟨samples, hsamples, hhead⟩),
      (h samples hsamples).atMost_head hhead hs⟩,
    ⟨_, List.mem_map_of_mem (List.mem_filterMap.mpr ⟨samples, hsamples, hlast⟩),
      (h samples hsamples).atMost_getLast hlast hs⟩⟩

omit h in
/-- What is picked from each of the series is one of their samples. -/
theorem timesOf_filterMap_subset {pick : List Sample → Option Sample}
    (hpick : ∀ samples, ∀ s ∈ pick samples, s ∈ samples) :
    timesOf (series.filterMap pick) ⊆ timesOf series.flatten := by
  intro t ht
  obtain ⟨s, hs, rfl⟩ := List.mem_map.mp ht
  obtain ⟨samples, hsamples, hs⟩ := List.mem_filterMap.mp hs
  exact List.mem_map_of_mem (List.mem_flatten_of_mem hsamples (hpick samples s hs))

/-- The first samples of the series have the earliest time of all, and the last ones the latest. -/
theorem extremes_endpoints : Extremes (timesOf series.flatten) (endpoints series) := by
  have hwhole {t : Binary64} (ht : t ∈ timesOf series.flatten) : t.IsWhole := whole_of_mem_series h ht
  have hheads : timesOf (series.filterMap List.head?) ⊆ timesOf series.flatten :=
    timesOf_filterMap_subset fun _ _ => List.mem_of_head?
  have hlasts : timesOf (series.filterMap List.getLast?) ⊆ timesOf series.flatten :=
    timesOf_filterMap_subset fun _ _ => List.mem_of_getLast?
  obtain ⟨hnofirst, hfirst⟩ := foldl_earlier fun t ht => hwhole (hheads ht)
  obtain ⟨hnolast, hlast⟩ := foldl_later fun t ht => hwhole (hlasts ht)
  rw [endpoints_eq]
  refine ⟨?_, fun hne => ?_⟩
  · rw [Prod.mk.injEq, hnofirst, hnolast]
    constructor
    · rintro ⟨hnil, -⟩
      refine List.eq_nil_iff_forall_not_mem.mpr fun t ht => ?_
      obtain ⟨⟨u, hu, -⟩, -⟩ := exists_ends h ht
      exact List.ne_nil_of_mem hu hnil
    · intro hnil
      rw [hnil] at hheads hlasts
      exact ⟨List.subset_nil.mp hheads, List.subset_nil.mp hlasts⟩
  · obtain ⟨t₀, ht₀⟩ := List.exists_mem_of_ne_nil _ hne
    obtain ⟨⟨u₀, hu₀, -⟩, v₀, hv₀, -⟩ := exists_ends h ht₀
    obtain ⟨first, hfound⟩ :=
      Option.ne_none_iff_exists'.mp (hnofirst.not.mpr (List.ne_nil_of_mem hu₀))
    obtain ⟨last, hfound'⟩ :=
      Option.ne_none_iff_exists'.mp (hnolast.not.mpr (List.ne_nil_of_mem hv₀))
    obtain ⟨hmem, hleast⟩ := hfirst first hfound
    obtain ⟨hmem', hgreatest⟩ := hlast last hfound'
    have hbetween : ∀ t ∈ timesOf series.flatten, first.AtMost t ∧ t.AtMost last := by
      intro t ht
      obtain ⟨⟨u, hu, hut⟩, v, hv, htv⟩ := exists_ends h ht
      exact ⟨(hleast u hu).trans hut, htv.trans (hgreatest v hv)⟩
    rw [hfound, hfound']
    exact ⟨first, last, rfl, hheads hmem, hlasts hmem', (hbetween last (hlasts hmem')).1, hbetween⟩

end

/-- Among whole times, the first and the last one are determined by which times there are. -/
theorem Extremes.unique {times times' : List Binary64} {found found' : Option Binary64 × Option Binary64}
    (hwhole : ∀ t ∈ times, t.IsWhole) (hmem : ∀ t, t ∈ times ↔ t ∈ times')
    (h : Extremes times found) (h' : Extremes times' found') : found = found' := by
  by_cases hnil : times = []
  · have hnil' : times' = [] :=
      List.eq_nil_iff_forall_not_mem.mpr fun t ht => by
        rw [← hmem, hnil] at ht
        cases ht
    exact (h.nothing.mpr hnil).trans (h'.nothing.mpr hnil').symm
  · obtain ⟨t, ht⟩ := List.exists_mem_of_ne_nil times hnil
    obtain ⟨first, last, rfl, hfirst, hlast, -, hall⟩ := h.attained hnil
    obtain ⟨first', last', rfl, hfirst', hlast', -, hall'⟩ :=
      h'.attained (List.ne_nil_of_mem ((hmem t).mp ht))
    rw [← hmem] at hfirst' hlast'
    have hsame {u v : Binary64} (hu : u ∈ times) (hv : v ∈ times) (huv : u.AtMost v)
        (hvu : v.AtMost u) : u = v := by
      rw [(hwhole u hu).atMost_iff (hwhole v hv)] at huv
      rw [(hwhole v hv).atMost_iff (hwhole u hu)] at hvu
      exact (hwhole u hu).eq_of_value_eq (hwhole v hv) (Int.le_antisymm huv hvu)
    rw [hsame hfirst hfirst' (hall first' hfirst').1 (hall' first ((hmem first).mp hfirst)).1,
      hsame hlast hlast' (hall' last ((hmem last).mp hlast)).2 (hall last' hlast').2]

/-- Neither the order of several series matters, nor are there any times in empty ones. -/
theorem endpoints_congr {series other : List (List Sample)}
    (h : ∀ samples ∈ series, InTimeOrder samples)
    (hperm : (other.filter (· ≠ [])).Perm (series.filter (· ≠ []))) :
    endpoints other = endpoints series := by
  have hmem {samples : List Sample} (hne : samples ≠ []) : samples ∈ other ↔ samples ∈ series := by
    have hiff := hperm.mem_iff (a := samples)
    simpa [hne] using hiff
  have hother : ∀ samples ∈ other, InTimeOrder samples := by
    intro samples hsamples
    by_cases hne : samples = []
    · rw [hne]
      exact ⟨by simp [timesOf], .nil⟩
    · exact h samples ((hmem hne).mp hsamples)
  refine Extremes.unique (fun t ht => whole_of_mem_series hother ht) (fun t => ?_)
    (extremes_endpoints hother) (extremes_endpoints h)
  simp only [timesOf, List.mem_map, List.mem_flatten]
  constructor
  all_goals
    rintro ⟨s, ⟨samples, hsamples, hs⟩, rfl⟩
    have hne := hmem (List.ne_nil_of_mem hs)
    exact ⟨s, ⟨samples, by simpa only [hne] using hsamples, hs⟩, rfl⟩

/-! ## what the metrics service reports -/

/-- Samples of buckets in order of their starts are in order of time. -/
theorem inTimeOrder_of_mapM {signal : Signal} {buckets : List Bucket} {samples : List Sample}
    (horder : buckets.Pairwise fun b b' => b.start ≤ b'.start)
    (h : buckets.mapM (Sample.ofBucket signal.scale) = .ok samples) : InTimeOrder samples := by
  induction buckets generalizing samples with
  | nil =>
      cases h
      exact ⟨by simp [timesOf], .nil⟩
  | cons b rest ih =>
      obtain ⟨hleast, horder⟩ := List.pairwise_cons.mp horder
      obtain ⟨s, later, hs, hlater, rfl⟩ := Outcome.mapM_cons_eq_ok_iff.mp h
      have htime := (Sample.averages_of_ofBucket hs).time
      have hrest := ih horder hlater
      constructor
      · exact List.forall_mem_cons.mpr ⟨⟨_, htime⟩, hrest.whole⟩
      · refine List.pairwise_cons.mpr ⟨fun t ht => ?_, hrest.order⟩
        obtain ⟨s', hs', rfl⟩ := List.mem_map.mp ht
        obtain ⟨b', hb', hof⟩ := Outcome.exists_of_mem_mapM hlater hs'
        exact Binary64.atMost_of_ofInt? (hleast b' hb') htime (Sample.averages_of_ofBucket hof).time

variable [Cluster σ]

/-- The metrics service of a cluster reports buckets in order of their starts, and goes on to do so as
long as nothing is stored in the cluster. -/
def ReportsInOrder (c : σ) : Prop :=
  ∀ {c' : σ}, Visited c c' → ∀ {w : WebRequest} {tenant : String} {signal : Signal},
    w.call = .metrics tenant signal → ∀ {access : MetricsAccess} {report : List Bucket},
      bucketsOf access (Cluster.web w c').1 = .ok report →
        report.Pairwise fun b b' => b.start ≤ b'.start

/-- A cluster that reports in order does so after questions, too. -/
theorem ReportsInOrder.visited {c c' : σ} (h : ReportsInOrder c) (hc : Visited c c') :
    ReportsInOrder c' := fun hvisited _ _ _ hcall _ _ hreport => h (hc.trans hvisited) hcall hreport

/-- The buckets of pods are in order of their starts. -/
theorem pairwise_of_readBuckets {access : MetricsAccess} {pods : List Pod} {tenant : String}
    {signal : Signal} {start finish : DateTime} {division : Division} {r r' : Run σ}
    {buckets : List Bucket} (hreports : ReportsInOrder r.cluster)
    (h : (readBuckets access pods tenant signal start finish division).eval r = (.ok buckets, r')) :
    buckets.Pairwise fun b b' => b.start ≤ b'.start := by
  by_cases hpods : pods = []
  · subst hpods
    cases h
    exact .nil
  · rw [eval_readBuckets hpods] at h
    cases hquery : usageQuery access pods tenant start finish division signal with
    | error e =>
        rw [hquery] at h
        cases h
    | ok w =>
        rw [hquery, sending] at h
        exact hreports .unasked (asksUsage_of_usageQuery hquery).call (Prod.mk.inj h).1

/-- Trimming leaves some of the buckets, in their order. -/
theorem trim_sublist {report kept : List Bucket} {finish : DateTime} {limit : Int}
    (h : trim report finish limit = .ok kept) : kept.Sublist report := by
  unfold trim at h
  cases hlast : report.getLast? with
  | none =>
      rw [hlast] at h
      cases h
      exact List.nil_sublist _
  | some last =>
      rw [hlast] at h
      obtain ⟨millis, -, h⟩ := Outcome.bind_eq_ok_iff.mp h
      cases h
      refine (newest_suffix limit _).sublist.trans ?_
      split
      · exact List.dropLast_sublist _
      · exact List.Sublist.refl _

/-- Whatever is read of the usage of pods is in order of time, however few of the buckets are kept. -/
theorem inTimeOrder_of_readSeries {access : MetricsAccess} {pods : List Pod} {tenant : String}
    {signal : Signal} {start finish : DateTime} {limit : Int} {r r' : Run σ} {samples : List Sample}
    (hreports : ReportsInOrder r.cluster)
    (h : (readSeries access pods tenant signal start finish limit).eval r = (.ok samples, r')) :
    InTimeOrder samples := by
  unfold readSeries at h
  obtain ⟨buckets, r₁, hbuckets, h⟩ := eval_bind_eq_ok_iff.mp h
  obtain ⟨kept, r₂, htrim, h⟩ := eval_bind_eq_ok_iff.mp h
  obtain ⟨hkept, -⟩ := eval_outcome_eq_iff.mp htrim
  rw [mapM_outcome] at h
  obtain ⟨hsamples, -⟩ := eval_outcome_eq_iff.mp h
  have horder := (pairwise_of_readBuckets hreports hbuckets).sublist (trim_sublist hkept)
  exact inTimeOrder_of_mapM horder hsamples

/-- What a reading activity leads to is visited. -/
theorem visited_of_eval {α : Type} {m : Client σ α} (hm : Uses ReadingStep m) {r r' : Run σ}
    {result : Outcome α} (h : m.eval r = (result, r')) : Visited r.cluster r'.cluster := by
  have hlater := reading_later.along hm r
  rw [h] at hlater
  exact hlater.cluster

/-- The two times of a view are those of its samples of processors and of memory. -/
theorem extremes_of_getUsageSeries {space app environment : String} {start finish : DateTime}
    {limit : Int} {r r' : Run σ} {view : UsageSeriesView} (hreports : ReportsInOrder r.cluster)
    (h : (getUsageSeries space app environment start finish limit).eval r = (.ok (some view), r')) :
    Extremes (timesOf (view.cores ++ view.memory)) (view.start, view.finish) := by
  unfold getUsageSeries at h
  obtain ⟨ns, r₀, hns, h⟩ := eval_bind_eq_ok_iff.mp h
  obtain ⟨-, rfl⟩ := eval_environmentNamespace_eq_ok_iff.mp hns
  obtain ⟨current, r₁, hcurrent, h⟩ := eval_bind_eq_ok_iff.mp h
  have hfound := visited_of_eval (uses_currentDeployment space app ns).fetched hcurrent
  rcases current with _ | ⟨d, rc, pods⟩
  · cases h
  · obtain ⟨access, r₂, haccess, h⟩ := eval_bind_eq_ok_iff.mp h
    have hknown := hfound.trans (visited_of_eval (uses_metricsAccess ns) haccess)
    obtain ⟨cores, r₃, hcores, h⟩ := eval_bind_eq_ok_iff.mp h
    have hmeasured := hknown.trans (visited_of_eval (uses_readSeries ..).reading hcores)
    obtain ⟨memory, r₄, hmemory, h⟩ := eval_bind_eq_ok_iff.mp h
    obtain ⟨sent, r₅, -, h⟩ := eval_bind_eq_ok_iff.mp h
    obtain ⟨received, r₆, -, h⟩ := eval_bind_eq_ok_iff.mp h
    cases h
    have hordered : ∀ samples ∈ [cores, memory], InTimeOrder samples := by
      simp only [List.forall_mem_cons]
      exact ⟨inTimeOrder_of_readSeries (hreports.visited hknown) hcores,
        inTimeOrder_of_readSeries (hreports.visited hmeasured) hmemory, by simp⟩
    have hall : [cores, memory].flatten = cores ++ memory := by simp
    rw [← hall]
    exact extremes_endpoints hordered

/-- The two times of several series in order of time are the first and the last one of all samples;
neither the order of the series nor empty ones among them matter.  So are the two times of a view of
usage, whatever its limit is, as long as the metrics service reports buckets in order. -/
theorem endpoints_extremes :
    (∀ series : List (List Sample), (∀ samples ∈ series, InTimeOrder samples) →
      Extremes (timesOf series.flatten) (endpoints series) ∧
      ∀ other : List (List Sample), (other.filter (· ≠ [])).Perm (series.filter (· ≠ [])) →
        endpoints other = endpoints series) ∧
    ∀ {r : Run σ}, ReportsInOrder r.cluster →
      ∀ {space app environment : String} {start finish : DateTime} {limit : Int}
        {view : UsageSeriesView} {r' : Run σ},
        (getUsageSeries space app environment start finish limit).eval r = (.ok (some view), r') →
          Extremes (timesOf (view.cores ++ view.memory)) (view.start, view.finish) :=
  ⟨fun _ hseries => ⟨extremes_endpoints hseries, fun _ => endpoints_congr hseries⟩,
    fun hreports => extremes_of_getUsageSeries hreports⟩

/-! ## a recorded metrics service -/

omit [Cluster σ] in
/-- Access to metrics makes no difference to which buckets an answer holds. -/
theorem toOption_bucketsOf (access access' : MetricsAccess) (reply : WebReply) :
    (bucketsOf access reply).toOption = (bucketsOf access' reply).toOption := by
  cases reply with
  | broken detail => rfl
  | answer status content =>
      simp only [bucketsOf]
      split
      · rfl
      · rfl

/-- A record reports buckets in order if all of its answers that hold buckets do. -/
theorem reportsInOrder_recorded {c : Recorded} (access : MetricsAccess)
    (h : ∀ entry ∈ c.http, ((bucketsOf access entry.2).toOption.all fun report =>
      decide (report.Pairwise fun b b' => b.start ≤ b'.start)) = true) : ReportsInOrder c := by
  intro c' hvisited w tenant signal hcall access' report hreport
  rw [eq_of_visited hvisited] at hreport
  simp only [Cluster.web, Recorded.web] at hreport
  split at hreport
  case h_1 reply hfound =>
    obtain ⟨key, -, hlookup⟩ := List.exists_of_findSome?_eq_some hfound
    obtain ⟨before, rest, hhttp, -⟩ := List.lookup_eq_some_iff.mp hlookup
    have hall := h (key, reply) (by simp [hhttp])
    rw [toOption_bucketsOf access access', hreport] at hall
    exact of_decide_eq_true hall
  case h_2 =>
    simp only [Recorded.missingWeb, hcall] at hreport
    cases hreport
    exact .nil

/-- A client of a cluster that reports a minute of processors, and two minutes of memory. -/
def charted : Run Recorded where
  session := rolledOut.session
  cluster := { rolledOut.cluster with
    http := ("METRICS my-run cpu/usage_rate", .answer 200 (.text
        "[\x7b\"start\":60000,\"end\":120000\x7d]")) ::
      ("METRICS my-run memory/usage", .answer 200 (.text
        "[\x7b\"start\":0,\"end\":60000\x7d,\x7b\"start\":60000,\"end\":120000\x7d]")) ::
      rolledOut.cluster.http }

/-- Three minutes of memory. -/
def reportedMemory : List Sample := averagesOf .memory reporting.report

example : timesOf reportedMemory =
    [.ofQuotient false 0 1, .ofQuotient false 60000 1, .ofQuotient false 120000 1] := by decide +kernel

/-- The two series of a view begin with a minute of memory, and end with one that both have. -/
theorem charted_endpoints :
    (∀ samples ∈ [reportedMemory], InTimeOrder samples) ∧
      Extremes (timesOf [reportedMemory].flatten) (endpoints [reportedMemory]) ∧
      endpoints [[], reportedMemory, []] = endpoints [reportedMemory] ∧
      ReportsInOrder charted.cluster ∧
      ∃ view r', (getUsageSeries "space" "app" "run" sampleMinute reporting.finish 10).eval charted =
          (.ok (some view), r') ∧
        Extremes (timesOf (view.cores ++ view.memory)) (view.start, view.finish) ∧
        (view.start, view.finish) =
          (some (.ofQuotient false 0 1), some (.ofQuotient false 60000 1)) := by
  have hordered : ∀ samples ∈ [reportedMemory], InTimeOrder samples := by
    have hread : reporting.report.mapM (Sample.ofBucket Signal.memory.scale) = .ok reportedMemory :=
      mapM_ofBucket (by decide +kernel) .memory
    simpa using inTimeOrder_of_mapM (by decide) hread
  obtain ⟨hextremes, hother⟩ := endpoints_extremes (σ := Recorded).1 [reportedMemory] hordered
  have hreports : ReportsInOrder charted.cluster :=
    reportsInOrder_recorded reporting.access (by decide +kernel)
  have hends : (((getUsageSeries "space" "app" "run" sampleMinute reporting.finish 10).eval
      charted).1.toOption.map fun view? => view?.map fun view => (view.start, view.finish)) =
        some (some (some (.ofQuotient false 0 1), some (.ofQuotient false 60000 1))) := by
    decide +kernel
  refine ⟨hordered, hextremes, hother _ (.of_eq (by simp [List.filter_cons])), hreports, ?_⟩
  rcases heval : (getUsageSeries "space" "app" "run" sampleMinute reporting.finish 10).eval charted
    with ⟨result, r'⟩
  rw [heval] at hends
  rcases result with e | _ | view
  · cases hends
  · cases hends
  · exact ⟨view, r', rfl, endpoints_extremes.2 hreports heval, Option.some.inj (Option.some.inj hends)⟩

end Rollout
