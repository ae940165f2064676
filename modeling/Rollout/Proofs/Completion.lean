import Mathlib.Data.List.Nodup
import Rollout.Proofs.Choice
import Rollout.Proofs.Moments
import Rollout.Proofs.Outcomes
import Rollout.Deployment.Current

/-!
# Rollout.Proofs.Completion

Which of several builds was completed last.

* `Build.CompletedAt`, `IsLatest` — the first one in the list of the builds that were completed last;
  `isLatest_iff_firstMax`, `IsLatest.unique` — there is only one;
* `KeptBuild.next`, `KeptBuild.mixed_of_fails` — the build that has been kept on the way, and one more
  step;
* `Completion`, `completion_latestBuild` — what the search comes to;
* `IsLatest.perm` — it does not depend on the order of builds that were completed at different times.
-/

namespace Rollout

/-! ## the latest build -/

/-- A build is complete, and was completed at a time. -/
def Build.CompletedAt (b : Build) (t : DateTime) : Prop :=
  b.status.phase = some "Complete" ∧ b.status.completed = some t

/-- When builds were completed, those that are complete and have a time. -/
def completions (builds : List Build) : List DateTime := builds.filterMap Build.completion?

/-- A build is complete, those before it were completed earlier, and those after it not later. -/
def IsLatest (builds : List Build) (b : Build) : Prop :=
  ∃ before after t, builds = before ++ b :: after ∧ b.CompletedAt t ∧
    (∀ a ∈ before, ∀ u, a.CompletedAt u → u.instant < t.instant) ∧
    ∀ a ∈ after, ∀ u, a.CompletedAt u → u.instant ≤ t.instant

/-- The builds that are complete and have a time, with this time. -/
def dated (builds : List Build) : List (Build × DateTime) :=
  builds.filterMap fun b => b.completion?.map fun t => (b, t)

/-- When a build was completed, to be compared. -/
def completedInstant (entry : Build × DateTime) : Int := entry.2.instant

/-- A build was completed at a time if it is complete and has that time. -/
theorem Build.completion?_eq_some_iff {b : Build} {t : DateTime} :
    b.completion? = some t ↔ b.CompletedAt t := by
  simp [completion?, CompletedAt]

theorem map_snd_dated (builds : List Build) : (dated builds).map (·.2) = completions builds := by
  rw [dated, completions, List.map_filterMap]
  congr 1
  funext b
  rw [Option.map_map]
  exact Option.map_id' ..

/-- No build is dated if no completion is. -/
theorem dated_eq_nil_iff {builds : List Build} : dated builds = [] ↔ completions builds = [] := by
  rw [← map_snd_dated, List.map_eq_nil_iff]

/-- The latest build is the first one with the greatest time. -/
theorem isLatest_iff_firstMax {builds : List Build} {b : Build} :
    IsLatest builds b ↔ ∃ t, FirstMax completedInstant (dated builds) (b, t) := by
  have hdated {a : Build} {c : Build × DateTime} :
      (a.completion?.map fun u => (a, u)) = some c ↔ a = c.1 ∧ a.CompletedAt c.2 := by
    rw [← Build.completion?_eq_some_iff, Option.map_eq_some_iff]
    constructor
    · rintro ⟨u, hu, rfl⟩
      exact ⟨rfl, hu⟩
    · rintro ⟨rfl, hu⟩
      exact ⟨c.2, hu, rfl⟩
  simp only [dated, firstMax_filterMap_iff, hdated, IsLatest]
  constructor
  · rintro ⟨before, after, t, rfl, ht, hbefore, hafter⟩
    exact ⟨t, before, b, after, rfl, ⟨rfl, ht⟩, fun a ha c hc => hbefore a ha c.2 hc.2,
      fun a ha c hc => hafter a ha c.2 hc.2⟩
  · rintro ⟨t, before, _, after, rfl, ⟨rfl, ht⟩, hbefore, hafter⟩
    exact ⟨before, after, t, rfl, ht, fun a ha u hu => hbefore a ha (a, u) ⟨rfl, hu⟩,
      fun a ha u hu => hafter a ha (a, u) ⟨rfl, hu⟩⟩

/-- There is only one latest build. -/
theorem IsLatest.unique {builds : List Build} {a b : Build} (ha : IsLatest builds a)
    (hb : IsLatest builds b) : a = b := by
  obtain ⟨t, ht⟩ := isLatest_iff_firstMax.mp ha
  obtain ⟨u, hu⟩ := isLatest_iff_firstMax.mp hb
  exact congrArg (·.1) (ht.unique hu)

theorem IsLatest.completions_ne_nil {builds : List Build} {b : Build} (h : IsLatest builds b) :
    completions builds ≠ [] := by
  obtain ⟨t, ht⟩ := isLatest_iff_firstMax.mp h
  intro hnil
  rw [dated_eq_nil_iff.mpr hnil] at ht
  exact List.not_mem_nil ht.mem

/-! ## one more build -/

/-- Of the build that has been kept and the next one, the one that is kept. -/
def laterBuild (latest next : Build × DateTime) : Outcome (Build × DateTime) :=
  match DateTime.before? latest.2 next.2 with
  | some true => return next
  | some false => return latest
  | none => throw Failure.incomparable

/-- Two times can be compared if both have an offset or neither has; the later one wins, and the first
one of two that are equal. -/
theorem laterBuild_eq (latest next : Build × DateTime) :
    laterBuild latest next =
      if DateTime.comparable latest.2 next.2 then
        .ok (if completedInstant latest < completedInstant next then next else latest)
      else .error .incomparable := by
  unfold laterBuild DateTime.before? completedInstant
  by_cases h : DateTime.comparable latest.2 next.2 = true
  · by_cases hlt : latest.2.instant < next.2.instant
    · simp only [if_pos h, hlt, decide_true]
      rfl
    · simp only [if_pos h, hlt, decide_false]
      rfl
  · simp only [if_neg h]
    rfl

/-- A build has been kept of some that could be compared. -/
structure KeptBuild (seen : List (Build × DateTime)) (kept : Build × DateTime) : Prop where
  unmixed : ¬ DateTime.Mixed (seen.map (·.2))
  latest : FirstMax completedInstant seen kept

section

variable {seen : List (Build × DateTime)} {kept entry : Build × DateTime}

/-- As long as times are not mixed, comparing with one of them tells whether another one fits. -/
theorem KeptBuild.not_mixed_snoc_iff (h : KeptBuild seen kept) :
    ¬ DateTime.Mixed ((seen ++ [entry]).map (·.2)) ↔
      DateTime.comparable kept.2 entry.2 = true := by
  have hmem : kept.2 ∈ seen.map (·.2) := List.mem_map_of_mem h.latest.mem
  rw [List.map_append, List.map_singleton, DateTime.not_mixed_snoc_iff h.unmixed hmem,
    DateTime.comparable_iff, DateTime.comparable_iff, eq_comm]

/-- One more build. -/
theorem KeptBuild.next {kept' : Build × DateTime} (h : KeptBuild seen kept)
    (hnext : laterBuild kept entry = .ok kept') : KeptBuild (seen ++ [entry]) kept' := by
  rw [laterBuild_eq] at hnext
  by_cases hcomparable : DateTime.comparable kept.2 entry.2 = true
  · rw [if_pos hcomparable] at hnext
    cases hnext
    exact ⟨h.not_mixed_snoc_iff.mpr hcomparable, h.latest.next entry⟩
  · rw [if_neg hcomparable] at hnext
    cases hnext

/-- One more build cannot be compared only if times are mixed. -/
theorem KeptBuild.mixed_of_fails {e : Failure} (h : KeptBuild seen kept)
    (hfails : laterBuild kept entry = .error e) :
    e = .incomparable ∧ DateTime.Mixed ((seen ++ [entry]).map (·.2)) := by
  rw [laterBuild_eq] at hfails
  by_cases hcomparable : DateTime.comparable kept.2 entry.2 = true
  · rw [if_pos hcomparable] at hfails
    cases hfails
  · rw [if_neg hcomparable] at hfails
    cases hfails
    exact ⟨rfl, Classical.not_not.mp (mt h.not_mixed_snoc_iff.mp hcomparable)⟩

end

/-! ## all builds -/

/-- What the search for the latest of several builds comes to. -/
structure Completion (builds : List Build) (found : Outcome (Option Build)) : Prop where
  nothing : found = .ok none ↔ completions builds = []
  latest : completions builds ≠ [] → ¬ DateTime.Mixed (completions builds) →
    ∃ b, found = .ok (some b) ∧ ∀ b', IsLatest builds b' ↔ b' = b
  fails {e : Failure} : found = .error e ↔ e = .incomparable ∧ DateTime.Mixed (completions builds)

/-- Looking for the latest build goes through those that are dated. -/
theorem latestBuild_eq (builds : List Build) :
    latestBuild builds =
      match dated builds with
      | [] => .ok none
      | first :: rest => (fun kept => some kept.1) <$> rest.foldlM laterBuild first := rfl

theorem keptBuild_singleton (entry : Build × DateTime) : KeptBuild [entry] entry :=
  ⟨DateTime.not_mixed_singleton entry.2, firstMax_singleton entry⟩

/-- What a scan ends with is the latest of what it has seen. -/
theorem keptBuild_of_foldlM {rest : List (Build × DateTime)} {first last : Build × DateTime}
    (h : rest.foldlM laterBuild first = .ok last) : KeptBuild (first :: rest) last :=
  Outcome.foldlM_preserves (I := KeptBuild) KeptBuild.next (keptBuild_singleton first) h

/-- The search fails only on times that are mixed. -/
theorem mixed_of_foldlM_laterBuild {rest : List (Build × DateTime)} {first : Build × DateTime}
    {e : Failure} (h : rest.foldlM laterBuild first = .error e) :
    e = .incomparable ∧ DateTime.Mixed ((first :: rest).map (·.2)) := by
  obtain ⟨before, next, after, kept, rfl, hbefore, hfails⟩ := Outcome.exists_of_foldlM_eq_error h
  obtain ⟨he, hmixed⟩ := (keptBuild_of_foldlM hbefore).mixed_of_fails hfails
  have hsplit : first :: (before ++ next :: after) = (first :: before ++ [next]) ++ after := by simp
  rw [hsplit]
  exact ⟨he, hmixed.of_subset (List.map_subset _ (List.subset_append_left ..))⟩

/-- The latest of several builds is found unless their times are mixed. -/
theorem completion_latestBuild (builds : List Build) :
    Completion builds (latestBuild builds) := by
  rw [latestBuild_eq]
  cases hdated : dated builds with
  | nil =>
      have hnil : completions builds = [] := dated_eq_nil_iff.mp hdated
      have hunmixed : ¬ DateTime.Mixed (completions builds) := hnil ▸ DateTime.not_mixed_nil
      exact ⟨by simp [hnil], fun h => absurd hnil h, by simp [hunmixed]⟩
  | cons first rest =>
      have hcompletions : completions builds = (first :: rest).map (·.2) := by
        rw [← hdated, map_snd_dated]
      simp only
      cases hfold : rest.foldlM laterBuild first with
      | error e =>
          obtain ⟨rfl, hmixed⟩ := mixed_of_foldlM_laterBuild hfold
          rw [← hcompletions] at hmixed
          refine ⟨?_, fun _ hunmixed => absurd hmixed hunmixed, ?_⟩
          · simp [Functor.map, Except.map, hcompletions]
          · simp [Functor.map, Except.map, hmixed, eq_comm]
      | ok last =>
          have hkept := keptBuild_of_foldlM hfold
          have hlatest : IsLatest builds last.1 :=
            isLatest_iff_firstMax.mpr ⟨last.2, hdated ▸ hkept.latest⟩
          have hunmixed : ¬ DateTime.Mixed (completions builds) := hcompletions ▸ hkept.unmixed
          refine ⟨?_, fun _ _ => ⟨last.1, rfl, fun b => ?_⟩, ?_⟩
          · simp [Functor.map, Except.map, hcompletions]
          · exact ⟨fun hb => hb.unique hlatest, fun hb => hb ▸ hlatest⟩
          · simp [Functor.map, Except.map, hunmixed]

/-- Where a build is found, times are not mixed, and it is the latest one. -/
theorem isLatest_of_ok {builds : List Build} {b : Build} (h : latestBuild builds = .ok (some b)) :
    ¬ DateTime.Mixed (completions builds) ∧ IsLatest builds b := by
  have hsearch := completion_latestBuild builds
  have hunmixed : ¬ DateTime.Mixed (completions builds) := by
    intro hmixed
    rw [hsearch.fails.mpr ⟨rfl, hmixed⟩] at h
    cases h
  have hne : completions builds ≠ [] := by
    intro hnil
    rw [hsearch.nothing.mpr hnil] at h
    cases h
  obtain ⟨b', hb', hlatest⟩ := hsearch.latest hne hunmixed
  obtain rfl : b = b' := Option.some.inj (Except.ok.inj (h.symm.trans hb'))
  exact ⟨hunmixed, (hlatest b).mpr rfl⟩

/-! ## the order of the builds -/

section

variable {builds builds' : List Build}

/-- In another order, builds have the same completions. -/
theorem perm_completions (h : builds.Perm builds') :
    (completions builds).Perm (completions builds') := h.filterMap _

/-- Whether times are mixed does not depend on their order. -/
theorem mixed_perm {ts us : List DateTime} (h : ts.Perm us) :
    DateTime.Mixed ts ↔ DateTime.Mixed us :=
  ⟨fun hts => hts.of_subset h.subset, fun hus => hus.of_subset h.symm.subset⟩

/-- Of builds that were completed at different times, one is the latest in any order. -/
theorem IsLatest.perm {b b' : Build} (hperm : builds.Perm builds')
    (hdistinct : ((completions builds).map DateTime.instant).Nodup) (h : IsLatest builds b)
    (h' : IsLatest builds' b') : b = b' := by
  obtain ⟨t, ht⟩ := isLatest_iff_firstMax.mp h
  obtain ⟨t', ht'⟩ := isLatest_iff_firstMax.mp h'
  have hmem (entry : Build × DateTime) : entry ∈ dated builds ↔ entry ∈ dated builds' :=
    (hperm.filterMap _).mem_iff
  have hle : t.instant ≤ t'.instant := ht'.le ((hmem _).mp ht.mem)
  have hge : t'.instant ≤ t.instant := ht.le ((hmem _).mpr ht'.mem)
  rw [← map_snd_dated, List.map_map] at hdistinct
  have heq : (b, t) = (b', t') :=
    List.inj_on_of_nodup_map hdistinct ht.mem ((hmem _).mpr ht'.mem) (Int.le_antisymm hle hge)
  exact congrArg (·.1) heq

/-- The same builds in another order have the same latest one if they were completed at different
times. -/
theorem latestBuild_perm (hperm : builds.Perm builds')
    (hunmixed : ¬ DateTime.Mixed (completions builds))
    (hdistinct : ((completions builds).map DateTime.instant).Nodup) :
    latestBuild builds = latestBuild builds' := by
  have hsearch := completion_latestBuild builds
  have hsearch' := completion_latestBuild builds'
  have hcompletions := perm_completions hperm
  by_cases hnil : completions builds = []
  · rw [hsearch.nothing.mpr hnil, hsearch'.nothing.mpr (hnil ▸ hcompletions.symm).eq_nil]
  · have hnil' : completions builds' ≠ [] := fun h => hnil (h ▸ hcompletions).eq_nil
    obtain ⟨b, hb, hlatest⟩ := hsearch.latest hnil hunmixed
    obtain ⟨b', hb', hlatest'⟩ := hsearch'.latest hnil' (mt (mixed_perm hcompletions).mpr hunmixed)
    rw [hb, hb', ((hlatest b).mpr rfl).perm hperm hdistinct ((hlatest' b').mpr rfl)]

end

end Rollout
