import Rollout.Proofs.Moments
import Rollout.Proofs.Ranking

/-!
# Rollout.Proofs.Hosting

Under which host a route is admitted.

* `Ingress.AdmittedAt`, `Ingress.LacksTime`, `FirstAdmitted` — what ingresses report, and the first of
  those that admitted a route the longest time ago; `FirstAdmitted.unique` — there is only one;
* `firstAdmitted_of_oldestOf` — the oldest of all admissions is one of that ingress;
* `oldestAdmission_eq_error` — why none may be found;
* `Search`, `search_of_comparable` — the ingress that is found;
* `ofRoute_fails_iff`, `Hosting`, `hosting_of_comparable` — the host of a route, and why it has none.
-/

namespace Rollout

/-! ## what ingresses report -/

namespace Ingress

/-- The ingress reports an admission of that time. -/
def AdmittedAt (i : Ingress) (t : DateTime) : Prop :=
  ∃ c ∈ i.conditions, c.isAdmission = true ∧ c.since = some t

/-- The ingress reports an admission without a time. -/
def LacksTime (i : Ingress) : Prop :=
  ∃ c ∈ i.conditions, c.isAdmission = true ∧ c.since = none

/-- The ingress reports an admission. -/
def Admits (i : Ingress) : Prop := ∃ c ∈ i.conditions, c.isAdmission = true

end Ingress

/-- The times of all admissions, where there are any. -/
def admissionTimes (ingresses : List Ingress) : List DateTime :=
  ingresses.flatMap fun i => (i.conditions.filter (·.isAdmission)).filterMap (·.since)

/-- The first ingress that reports an admission of the earliest time. -/
def FirstAdmitted (ingresses : List Ingress) (i : Ingress) : Prop :=
  ∃ before after t, ingresses = before ++ i :: after ∧ i.AdmittedAt t ∧
    (∀ j ∈ ingresses, ∀ u, j.AdmittedAt u → t.instant ≤ u.instant) ∧
    ∀ j ∈ before, ∀ u, j.AdmittedAt u → t.instant < u.instant

/-- The times of admission are those at which an ingress was admitted. -/
theorem mem_admissionTimes_iff {ingresses : List Ingress} {t : DateTime} :
    t ∈ admissionTimes ingresses ↔ ∃ i ∈ ingresses, i.AdmittedAt t := by
  simp only [admissionTimes, List.mem_flatMap, List.mem_filterMap, List.mem_filter,
    Ingress.AdmittedAt, and_assoc]

/-- There is only one such ingress. -/
theorem FirstAdmitted.unique {ingresses : List Ingress} {i j : Ingress}
    (hi : FirstAdmitted ingresses i) (hj : FirstAdmitted ingresses j) : i = j := by
  classical
  obtain ⟨before, after, t, hsplit, ht, hmin, hbefore⟩ := hi
  obtain ⟨before', after', t', hsplit', ht', hmin', hbefore'⟩ := hj
  -- It is the first one that reports an admission of that instant.
  have hfirst {front back : List Ingress} {k : Ingress} {s : DateTime}
      (hk : ingresses = front ++ k :: back) (hs : k.AdmittedAt s)
      (hfront : ∀ l ∈ front, ∀ u, l.AdmittedAt u → s.instant < u.instant) :
      ingresses.find? (fun l => ∃ u, l.AdmittedAt u ∧ u.instant = s.instant) = some k := by
    refine List.find?_eq_some_iff_append.mpr ⟨by simpa using ⟨s, hs, rfl⟩, front, back, hk, ?_⟩
    intro l hl
    have hnone : ¬ ∃ u, l.AdmittedAt u ∧ u.instant = s.instant := fun ⟨u, hu, hinstant⟩ =>
      absurd (hfront l hl u hu) (by omega)
    simpa using hnone
  have hle : t.instant ≤ t'.instant := hmin j (by simp [hsplit']) t' ht'
  have hge : t'.instant ≤ t.instant := hmin' i (by simp [hsplit]) t ht
  have hj := hfirst hsplit' ht' hbefore'
  rw [Int.le_antisymm hge hle, hfirst hsplit ht hbefore] at hj
  exact Option.some.inj hj

/-! ## all reports -/

/-- A report is a condition of an ingress. -/
theorem mem_reports_iff {ingresses : List Ingress} {report : Ingress × IngressCondition} :
    report ∈ reports ingresses ↔ report.1 ∈ ingresses ∧ report.2 ∈ report.1.conditions := by
  obtain ⟨i, c⟩ := report
  simp only [reports, List.mem_flatMap, List.mem_map, Prod.mk.injEq]
  constructor
  · rintro ⟨i, hi, c, hc, rfl, rfl⟩
    exact ⟨hi, hc⟩
  · exact fun ⟨hi, hc⟩ => ⟨i, hi, c, hc, rfl, rfl⟩

/-- A report is an admission if it says so and has a time. -/
theorem admission?_eq_some_iff {report : Ingress × IngressCondition} {a : Ingress × DateTime} :
    admission? report = some a ↔
      report.1 = a.1 ∧ report.2.isAdmission = true ∧ report.2.since = some a.2 := by
  obtain ⟨i, t⟩ := a
  unfold admission?
  by_cases h : report.2.isAdmission = true
  · simp [h, and_comm]
  · simp [h]

/-- All admissions have a time if and only if no ingress lacks one. -/
theorem dated_reports_iff {ingresses : List Ingress} :
    Dated (reports ingresses) ↔ ∀ i ∈ ingresses, ¬ i.LacksTime := by
  constructor
  · rintro hdated i hi ⟨c, hc, hadmission, hsince⟩
    have hsome := hdated (i, c) (mem_reports_iff.mpr ⟨hi, hc⟩) hadmission
    simp [hsince] at hsome
  · intro hall report hreport hadmission
    obtain ⟨hi, hc⟩ := mem_reports_iff.mp hreport
    refine Option.isSome_iff_ne_none.mpr fun hsince => ?_
    exact hall report.1 hi ⟨report.2, hc, hadmission, hsince⟩

/-- The admissions that an ingress reports. -/
def Ingress.admissions (i : Ingress) : List (Ingress × DateTime) :=
  (i.conditions.map fun c => (i, c)).filterMap admission?

theorem Ingress.mem_admissions_iff {i : Ingress} {a : Ingress × DateTime} :
    a ∈ i.admissions ↔ a.1 = i ∧ i.AdmittedAt a.2 := by
  simp only [admissions, List.filterMap_map, List.mem_filterMap, Function.comp_apply,
    admission?_eq_some_iff, AdmittedAt]
  constructor
  · rintro ⟨c, hc, rfl, hadmission, hsince⟩
    exact ⟨rfl, c, hc, hadmission, hsince⟩
  · rintro ⟨rfl, c, hc, hadmission, hsince⟩
    exact ⟨c, hc, rfl, hadmission, hsince⟩

/-- The admissions in all reports are those of each ingress in turn. -/
theorem filterMap_reports (ingresses : List Ingress) :
    (reports ingresses).filterMap admission? = ingresses.flatMap Ingress.admissions :=
  List.filterMap_flatMap

/-- The first of the oldest admissions is one of the first ingress with the earliest time. -/
theorem firstAdmitted_of_oldestOf {ingresses : List Ingress} {i : Ingress} {t : DateTime}
    (h : OldestOf (reports ingresses) (some (i, t))) : FirstAdmitted ingresses i := by
  have hfirst : FirstMax age (ingresses.flatMap Ingress.admissions) (i, t) := by
    rw [← filterMap_reports]
    exact h.chosen
  obtain ⟨before, j, after, hsplit, hj, hbefore, -⟩ := hfirst.exists_of_flatMap
  obtain ⟨rfl, ht⟩ := Ingress.mem_admissions_iff.mp hj.mem
  refine ⟨before, after, t, hsplit, ht, fun k hk u hu => ?_, fun k hk u hu => ?_⟩
  · have hmem : (k, u) ∈ ingresses.flatMap Ingress.admissions :=
      List.mem_flatMap.mpr ⟨k, hk, Ingress.mem_admissions_iff.mpr ⟨rfl, hu⟩⟩
    exact Int.neg_le_neg_iff.mp (hfirst.le hmem)
  · exact Int.neg_lt_neg_iff.mp (hbefore k hk (k, u) (Ingress.mem_admissions_iff.mpr ⟨rfl, hu⟩))

/-! ## why no ingress may be found -/

/-- One more admission fails if it has no time, or one that cannot be compared. -/
theorem olderAdmission_eq_error {oldest : Option (Ingress × DateTime)} {i : Ingress}
    {c : IngressCondition} {e : Failure} (h : olderAdmission oldest i c = .error e) :
    c.isAdmission = true ∧
      (e = .malformed .noTransitionTime ∧ c.since = none ∨
        ∃ t o, c.since = some t ∧ oldest = some o ∧ DateTime.comparable t o.2 = false) := by
  unfold olderAdmission at h
  cases hadmission : c.isAdmission with
  | false =>
      rw [hadmission] at h
      cases h
  | true =>
      refine ⟨rfl, ?_⟩
      cases hsince : c.since with
      | none =>
          rw [hadmission, hsince] at h
          cases h
          exact .inl ⟨rfl, rfl⟩
      | some t =>
          cases oldest with
          | none =>
              rw [hadmission, hsince] at h
              cases h
          | some o =>
              refine .inr ⟨t, o, rfl, rfl, Bool.eq_false_iff.mpr fun hcomparable => ?_⟩
              by_cases hlt : t.instant < o.2.instant
              · simp [hadmission, hsince, DateTime.before?, hcomparable, hlt] at h
              · simp [hadmission, hsince, DateTime.before?, hcomparable, hlt] at h

/-- If times can be compared, the search fails only on an admission without a time. -/
theorem oldestAdmission_eq_error {ingresses : List Ingress} {e : Failure}
    (hcomparable : ¬ DateTime.Mixed (admissionTimes ingresses))
    (h : oldestAdmission ingresses = .error e) :
    e = .malformed .noTransitionTime ∧ ∃ i ∈ ingresses, i.LacksTime := by
  rw [oldestAdmission_eq] at h
  obtain ⟨before, ⟨i, c⟩, after, oldest, hsplit, hbefore, hfails⟩ :=
    Outcome.exists_of_foldlM_eq_error h
  have hreport : (i, c) ∈ reports ingresses := by simp [hsplit]
  obtain ⟨hi, hc⟩ := mem_reports_iff.mp hreport
  obtain ⟨hadmission, ⟨he, hsince⟩ | ⟨t, o, hsince, rfl, hmixed⟩⟩ := olderAdmission_eq_error hfails
  · exact ⟨he, i, hi, c, hc, hadmission, hsince⟩
  · -- The two times are among those that can be compared.
    have ht : t ∈ admissionTimes ingresses :=
      mem_admissionTimes_iff.mpr ⟨i, hi, c, hc, hadmission, hsince⟩
    have ho : o ∈ (reports ingresses).filterMap admission? := by
      rw [hsplit, List.filterMap_append]
      exact List.mem_append_left _ (FirstMax.mem (oldestOf_foldlM hbefore).chosen)
    rw [filterMap_reports] at ho
    obtain ⟨j, hj, ho⟩ := List.mem_flatMap.mp ho
    have hu : o.2 ∈ admissionTimes ingresses :=
      mem_admissionTimes_iff.mpr ⟨j, hj, (Ingress.mem_admissions_iff.mp ho).2⟩
    rw [DateTime.not_mixed_iff.mp hcomparable t ht o.2 hu] at hmixed
    cases hmixed

/-! ## the ingress that is found -/

/-- What the search for the ingress that admitted a route first comes to. -/
structure Search (ingresses : List Ingress) (found : Outcome (Option Ingress)) : Prop where
  undated {e : Failure} :
    found = .error e ↔ e = .malformed .noTransitionTime ∧ ∃ i ∈ ingresses, i.LacksTime
  unadmitted : found = .ok none ↔ ∀ i ∈ ingresses, ¬ i.Admits
  oldest {i : Ingress} :
    found = .ok (some i) ↔ (∀ j ∈ ingresses, ¬ j.LacksTime) ∧ FirstAdmitted ingresses i

theorem Ingress.LacksTime.admits {i : Ingress} (h : i.LacksTime) : i.Admits := by
  obtain ⟨c, hc, hadmission, -⟩ := h
  exact ⟨c, hc, hadmission⟩

/-- Where an ingress is admitted first, one is admitted. -/
theorem FirstAdmitted.exists_admits {ingresses : List Ingress} {i : Ingress}
    (h : FirstAdmitted ingresses i) : ∃ j ∈ ingresses, j.Admits := by
  obtain ⟨before, after, t, hsplit, ⟨c, hc, hadmission, -⟩, -, -⟩ := h
  exact ⟨i, by simp [hsplit], c, hc, hadmission⟩

/-- What has been found among ingresses of which none lacks a time. -/
theorem oldestAdmitted_spec {ingresses : List Ingress} {found : Option Ingress}
    (h : oldestAdmitted ingresses = .ok found) :
    (∀ i ∈ ingresses, ¬ i.LacksTime) ∧
      found.elim (∀ i ∈ ingresses, ¬ i.Admits) (FirstAdmitted ingresses) := by
  obtain ⟨oldest, holdest, rfl⟩ := oldestAdmitted_eq_ok h
  refine ⟨dated_reports_iff.mp holdest.dated, ?_⟩
  cases oldest with
  | none =>
      rintro i hi ⟨c, hc, hadmission⟩
      have hsome := holdest.isSome_iff.mpr ⟨(i, c), mem_reports_iff.mpr ⟨hi, hc⟩, hadmission⟩
      cases hsome
  | some a => exact firstAdmitted_of_oldestOf holdest

/-- Where times can be compared, the only failure is one that is missing. -/
theorem oldestAdmitted_eq_error {ingresses : List Ingress} {e : Failure}
    (hcomparable : ¬ DateTime.Mixed (admissionTimes ingresses))
    (h : oldestAdmitted ingresses = .error e) :
    e = .malformed .noTransitionTime ∧ ∃ i ∈ ingresses, i.LacksTime := by
  unfold oldestAdmitted at h
  cases holdest : oldestAdmission ingresses with
  | error e' =>
      rw [holdest] at h
      cases h
      exact oldestAdmission_eq_error hcomparable holdest
  | ok oldest =>
      rw [holdest] at h
      cases h

/-- If times can be compared, the search finds the first ingress that reports an admission of the
earliest time. -/
theorem search_of_comparable {ingresses : List Ingress}
    (hcomparable : ¬ DateTime.Mixed (admissionTimes ingresses)) :
    Search ingresses (oldestAdmitted ingresses) := by
  cases hfound : oldestAdmitted ingresses with
  | error e =>
      obtain ⟨rfl, i, hi, hlacks⟩ := oldestAdmitted_eq_error hcomparable hfound
      have hlacking : ∃ i ∈ ingresses, i.LacksTime := ⟨i, hi, hlacks⟩
      refine ⟨?_, iff_of_false (by simp) fun h => h i hi hlacks.admits,
        iff_of_false (by simp) fun h => h.1 i hi hlacks⟩
      intro e
      rw [Except.error.injEq, eq_comm, and_iff_left hlacking]
  | ok found =>
      obtain ⟨hdated, hspec⟩ := oldestAdmitted_spec hfound
      have hundated {e : Failure} : (.ok found : Outcome (Option Ingress)) = .error e ↔
          e = .malformed .noTransitionTime ∧ ∃ i ∈ ingresses, i.LacksTime :=
        iff_of_false (by simp) fun ⟨_, i, hi, hlacks⟩ => hdated i hi hlacks
      cases found with
      | none =>
          refine ⟨hundated, iff_of_true rfl hspec, iff_of_false (by simp) fun h => ?_⟩
          obtain ⟨j, hj, hadmits⟩ := h.2.exists_admits
          exact hspec j hj hadmits
      | some i =>
          refine ⟨hundated, iff_of_false (by simp) fun h => ?_, ?_⟩
          · obtain ⟨j, hj, hadmits⟩ := FirstAdmitted.exists_admits hspec
            exact h j hj hadmits
          · intro j
            rw [Except.ok.injEq, Option.some.injEq]
            exact ⟨fun h => ⟨hdated, h ▸ hspec⟩, fun h => FirstAdmitted.unique hspec h.2⟩

/-! ## the host of a route -/

/-- Under which host a route is admitted, and why that may not be told. -/
structure Hosting (r : Route) : Prop where
  search : Search r.status.ingress (oldestAdmitted r.status.ingress)
  fails {e : Failure} : RouteCandidate.ofRoute r = .error e ↔
    (e = .malformed .noTransitionTime ∧ ∃ i ∈ r.status.ingress, i.LacksTime) ∨
      e = .malformed (.noIngressHost r.metadata.name) ∧
        (∀ i ∈ r.status.ingress, ¬ i.LacksTime) ∧
        ∃ i, FirstAdmitted r.status.ingress i ∧ i.host = none
  admitted {i : Ingress} {host : String} : (∀ j ∈ r.status.ingress, ¬ j.LacksTime) →
    FirstAdmitted r.status.ingress i → i.host = some host →
    ∃ c, RouteCandidate.ofRoute r = .ok c ∧ c.admitted = true ∧ c.host = host
  asked : (∀ i ∈ r.status.ingress, ¬ i.Admits) →
    ∃ c, RouteCandidate.ofRoute r = .ok c ∧ c.admitted = false ∧ c.host = r.spec.host.getD ""

/-- A route has no candidate where the ingress that admitted it first cannot be found or has no
host. -/
theorem ofRoute_eq_error_iff {r : Route} {e : Failure} :
    RouteCandidate.ofRoute r = .error e ↔ oldestAdmitted r.status.ingress = .error e ∨
      e = .malformed (.noIngressHost r.metadata.name) ∧
        ∃ i, oldestAdmitted r.status.ingress = .ok (some i) ∧ i.host = none := by
  unfold RouteCandidate.ofRoute
  cases oldestAdmitted r.status.ingress with
  | error e' => simp [bind, Except.bind]
  | ok found =>
      cases found with
      | none => simp [bind, Except.bind, pure, Except.pure]
      | some i =>
          cases hhost : i.host <;> simp [bind, Except.bind, pure, Except.pure, hhost, eq_comm]

/-- If times can be compared, a route has no candidate if an admission has no time, or if the first
ingress that reports one of the earliest time has no host. -/
theorem ofRoute_fails_iff {r : Route}
    (hcomparable : ¬ DateTime.Mixed (admissionTimes r.status.ingress)) {e : Failure} :
    RouteCandidate.ofRoute r = .error e ↔
      (e = .malformed .noTransitionTime ∧ ∃ i ∈ r.status.ingress, i.LacksTime) ∨
        e = .malformed (.noIngressHost r.metadata.name) ∧
          (∀ i ∈ r.status.ingress, ¬ i.LacksTime) ∧
          ∃ i, FirstAdmitted r.status.ingress i ∧ i.host = none := by
  have hsearch := search_of_comparable hcomparable
  simp only [ofRoute_eq_error_iff, hsearch.undated, hsearch.oldest, and_assoc, exists_and_left]

/-- A route is admitted under the host of the ingress that admitted it first, or else asks for one. -/
theorem hosting_of_comparable {r : Route}
    (hcomparable : ¬ DateTime.Mixed (admissionTimes r.status.ingress)) : Hosting r where
  search := search_of_comparable hcomparable
  fails := ofRoute_fails_iff hcomparable
  admitted := by
    intro i host hdated hfirst hhost
    have hfound := (search_of_comparable hcomparable).oldest.mpr ⟨hdated, hfirst⟩
    exact ⟨_, ofRoute_eq_ok_iff.mpr ⟨some i, hfound, host, hhost, rfl⟩, rfl, rfl⟩
  asked := by
    intro hunadmitted
    have hfound := (search_of_comparable hcomparable).unadmitted.mpr hunadmitted
    exact ⟨_, ofRoute_eq_ok_iff.mpr ⟨none, hfound, _, rfl, rfl⟩, rfl, rfl⟩

/-- A route that two ingresses admitted at the same instant, and one without a host after that. -/
def readmitted : Route where
  spec := { destination := {} }
  status := ⟨[
    ingress none [⟨DateTime.epoch + 2 * DateTime.minute, some 0⟩],
    ingress (some "first.a.b") [⟨DateTime.epoch + 2 * DateTime.minute, some 0⟩,
      ⟨DateTime.epoch + 61 * DateTime.minute, some (60 * DateTime.minute)⟩],
    ingress (some "second.a.b") [⟨DateTime.epoch + DateTime.minute, some 0⟩]]⟩
where
  ingress (host : Option String) (admissions : List DateTime) : Ingress :=
    ⟨host, admissions.map fun t => ⟨some "Admitted", some "True", some t⟩⟩

/-- The route has the host of the first of the two. -/
theorem readmitted_hosting :
    ¬ DateTime.Mixed (admissionTimes readmitted.status.ingress) ∧
      (RouteCandidate.ofRoute readmitted).toOption.map (fun c => (c.admitted, c.host)) =
        some (true, "first.a.b") ∧
      Hosting readmitted := by
  have hcomparable : ¬ DateTime.Mixed (admissionTimes readmitted.status.ingress) :=
    DateTime.not_mixed_iff.mpr (by decide +kernel)
  exact ⟨hcomparable, by decide +kernel, hosting_of_comparable hcomparable⟩

end Rollout
