import Rollout.Deployment.Exposure
import Rollout.Proofs.Choice
import Rollout.Proofs.Outcomes

/-!
# Rollout.Proofs.Admission

Which ingress admitted a route first.

* `reports` — what the ingresses say, one condition after the other; `admission?` — an admission
  among it, with its time;
* `OldestOf` — an admission that has been kept of some reports is the first one of the oldest, and
  every admission has a time;
* `oldestOf_olderAdmission` — one more report; `oldestOf_oldestAdmission` — all of them.
-/

namespace Rollout

/-! ## reports -/

/-- What ingresses say, one condition after the other. -/
def reports (ingresses : List Ingress) : List (Ingress × IngressCondition) :=
  ingresses.flatMap fun i => i.conditions.map fun c => (i, c)

/-- The admission that a condition reports, with its time. -/
def admission? (report : Ingress × IngressCondition) : Option (Ingress × DateTime) :=
  if report.2.isAdmission then report.2.since.map fun t => (report.1, t) else none

/-- How long ago an admission was: the greater, the older. -/
def age (a : Ingress × DateTime) : Int := -a.2.instant

/-- The oldest admission is found by going through all conditions. -/
theorem oldestAdmission_eq (ingresses : List Ingress) :
    oldestAdmission ingresses =
      (reports ingresses).foldlM (fun oldest x => olderAdmission oldest x.1 x.2) none := by
  unfold oldestAdmission reports
  rw [Outcome.foldlM_flatMap]
  simp only [List.foldlM_map]

/-! ## the oldest admission -/

/-- All admissions among some reports have a time. -/
def Dated (found : List (Ingress × IngressCondition)) : Prop :=
  ∀ report ∈ found, report.2.isAdmission = true → report.2.since.isSome

/-- Reports stay dated when a dated one is added to them. -/
theorem Dated.snoc {found : List (Ingress × IngressCondition)} (h : Dated found)
    {report : Ingress × IngressCondition}
    (hreport : report.2.isAdmission = true → report.2.since.isSome) :
    Dated (found ++ [report]) := by
  intro other hmem
  obtain hmem | hmem := List.mem_append.mp hmem
  · exact h other hmem
  · obtain rfl := List.mem_singleton.mp hmem
    exact hreport

/-- An admission is the first one of the oldest that are reported, and all of them have a time. -/
structure OldestOf (found : List (Ingress × IngressCondition))
    (oldest : Option (Ingress × DateTime)) : Prop where
  dated : Dated found
  chosen : Chosen age (found.filterMap admission?) oldest

/-- An admission has been kept if one has been reported. -/
theorem OldestOf.isSome_iff {found : List (Ingress × IngressCondition)}
    {oldest : Option (Ingress × DateTime)} (h : OldestOf found oldest) :
    oldest.isSome = true ↔ ∃ report ∈ found, report.2.isAdmission = true := by
  rw [Option.isSome_iff_ne_none, ne_eq, h.chosen.eq_none_iff, List.filterMap_eq_nil_iff]
  constructor
  · intro hsome
    obtain ⟨report, hreport⟩ := Classical.not_forall.mp hsome
    obtain ⟨hmem, hadmission⟩ := Classical.not_imp.mp hreport
    refine ⟨report, hmem, Decidable.by_contra fun hother => hadmission ?_⟩
    rw [admission?, if_neg hother]
  · rintro ⟨report, hmem, hadmission⟩ hnone
    obtain ⟨t, ht⟩ := Option.isSome_iff_exists.mp (h.dated report hmem hadmission)
    have hreport := hnone report hmem
    simp [admission?, hadmission, ht] at hreport

/-- Of the admission that has been kept and another one, the older one is kept. -/
theorem olderAdmission_eq_ok {oldest next : Option (Ingress × DateTime)}
    {report : Ingress × IngressCondition} (hadmission : report.2.isAdmission = true)
    (h : olderAdmission oldest report.1 report.2 = .ok next) :
    ∃ t, report.2.since = some t ∧
      next = some (oldest.elim (report.1, t) fun o =>
        if age o < age (report.1, t) then (report.1, t) else o) := by
  unfold olderAdmission at h
  cases hsince : report.2.since with
  | none => simp [hadmission, hsince] at h
  | some t =>
      refine ⟨t, rfl, ?_⟩
      cases oldest with
      | none =>
          simp only [hadmission, hsince] at h
          exact (Except.ok.inj h).symm
      | some o =>
          have hage : age o < age (report.1, t) ↔ t.instant < o.2.instant := Int.neg_lt_neg_iff
          simp only [Option.elim_some, hage]
          by_cases hcomparable : DateTime.comparable t o.2 = true
          · by_cases hlt : t.instant < o.2.instant
            · simp only [hadmission, hsince, DateTime.before?, hcomparable, hlt] at h
              simpa [hlt] using h.symm
            · simp only [hadmission, hsince, DateTime.before?, hcomparable, hlt] at h
              simpa [hlt] using h.symm
          · simp [hadmission, hsince, DateTime.before?, hcomparable] at h

/-- One more report: the admission that has been kept stays unless the new one is older. -/
theorem oldestOf_olderAdmission {found : List (Ingress × IngressCondition)}
    {oldest next : Option (Ingress × DateTime)} {report : Ingress × IngressCondition}
    (h : OldestOf found oldest) (hnext : olderAdmission oldest report.1 report.2 = .ok next) :
    OldestOf (found ++ [report]) next := by
  cases hadmission : report.2.isAdmission with
  | false =>
      have hnone : admission? report = none := by simp [admission?, hadmission]
      have hkept : next = oldest := by simpa [olderAdmission, hadmission, eq_comm] using hnext
      refine ⟨h.dated.snoc (by simp [hadmission]), ?_⟩
      rw [List.filterMap_append, List.filterMap_cons_none hnone, List.filterMap_nil,
        List.append_nil, hkept]
      exact h.chosen
  | true =>
      obtain ⟨t, hsince, rfl⟩ := olderAdmission_eq_ok hadmission hnext
      have hsome : admission? report = some (report.1, t) := by
        simp [admission?, hadmission, hsince]
      refine ⟨h.dated.snoc (by simp [hsince]), ?_⟩
      rw [List.filterMap_append, List.filterMap_cons_some hsome, List.filterMap_nil]
      exact h.chosen.next (report.1, t)

/-- All reports: what has been kept of them is the oldest admission. -/
theorem oldestOf_foldlM {found : List (Ingress × IngressCondition)}
    {oldest : Option (Ingress × DateTime)}
    (h : found.foldlM (fun oldest x => olderAdmission oldest x.1 x.2) none = .ok oldest) :
    OldestOf found oldest := by
  have hnone : OldestOf [] none := ⟨by simp [Dated], rfl⟩
  exact Outcome.foldlM_preserves oldestOf_olderAdmission hnone h

/-- What the scan of the ingresses finds is the oldest admission of all reports. -/
theorem oldestOf_oldestAdmission {ingresses : List Ingress}
    {oldest : Option (Ingress × DateTime)} (h : oldestAdmission ingresses = .ok oldest) :
    OldestOf (reports ingresses) oldest := by
  rw [oldestAdmission_eq] at h
  exact oldestOf_foldlM h

/-- The ingress that admitted first is that of the oldest admission. -/
theorem oldestAdmitted_eq_ok {ingresses : List Ingress} {found : Option Ingress}
    (h : oldestAdmitted ingresses = .ok found) :
    ∃ oldest, OldestOf (reports ingresses) oldest ∧ found = oldest.map (·.1) := by
  obtain ⟨oldest, holdest, hfound⟩ := Outcome.bind_eq_ok_iff.mp h
  exact ⟨oldest, oldestOf_oldestAdmission holdest, (Except.ok.inj hfound).symm⟩

end Rollout
