import Rollout.Proofs.Hierarchy

/-!
# Rollout.Proofs.Quotas

The checks of quotas ask for another verb than looking at a quota needs.

* `ReadsQuotas` — between two states, quotas of environments have been asked for, by their name;
* `QuotaRead` — a request gets a quota, where all that is known is that quotas may be listed;
* `QuotaChecks`, `quotaChecks` — such requests are what the operations send after their checks;
* `listing_uncovered` — for a user who may list quotas and not get them, none of them is permitted.
-/

namespace Rollout

open Client

variable {σ : Type} [Cluster σ]

/-! ## what looking at environments sends -/

/-- From one state to another, quotas of environments have been asked for by their name, and nothing
else has been sent. -/
def ReadsQuotas (r r' : Run σ) : Prop :=
  r'.session = r.session ∧ ∃ requests, r'.sent = r.sent ++ requests ∧ ∀ w ∈ requests,
    ∃ environment ns, r.session.environments.lookup environment = some ns ∧
      w = .core (quotaQuery ns) r.session.config.timeout

omit [Cluster σ] in
theorem path_readsQuotas : Path (ReadsQuotas (σ := σ)) where
  here r := ⟨rfl, [], by simp, by simp⟩
  onward := by
    rintro r r₁ r₂ ⟨hsession, first, hfirst, hquotas⟩ ⟨hsession', rest, hrest, hquotas'⟩
    refine ⟨hsession'.trans hsession, first ++ rest, ?_, fun w hw => ?_⟩
    · rw [hrest, hfirst, List.append_assoc]
    · obtain hw | hw := List.mem_append.mp hw
      · exact hquotas w hw
      · rw [← hsession]
        exact hquotas' w hw

/-- Looking at an environment reads its quota only. -/
theorem along_getEnvironment (environment : String) :
    Along (ReadsQuotas (σ := σ)) (getEnvironment environment) := by
  intro r
  cases hlookup : r.session.environments.lookup environment with
  | none =>
      rw [getEnvironment_after_of_unknown hlookup]
      exact path_readsQuotas.here r
  | some ns =>
      rw [getEnvironment_after hlookup]
      refine ⟨rfl, [.core (quotaQuery ns) r.session.config.timeout], rfl, fun w hw => ?_⟩
      exact ⟨environment, ns, hlookup, List.mem_singleton.mp hw⟩

/-- Looking at all of them reads their quotas only. -/
theorem along_getEnvironments : Along (ReadsQuotas (σ := σ)) getEnvironments := by
  unfold getEnvironments
  refine path_readsQuotas.bind path_readsQuotas.here fun s =>
    path_readsQuotas.mapM (fun entry => ?_) s.environments
  exact along_getEnvironment entry.1

/-! ## what is known of it -/

/-- A request gets the quota of a namespace, of which it is known that quotas may be listed.  It is
permitted if they may also be got. -/
structure QuotaRead (s : Session) (ns : String) (w : Request) : Prop where
  request : w = .core (quotaQuery ns) s.config.timeout
  listed : s.Permits ⟨ns, "resourcequotas", "list"⟩
  permitted_iff : (∃ u, w.Reads s u ∧ s.Permits u) ↔ s.Permits ⟨ns, "resourcequotas", "get"⟩

/-- All that a question about core resources does is its use. -/
theorem reads_core_iff {s : Session} {q : CoreQuery} {timeout : Option Binary64} {u : ApiUse} :
    (Request.core q timeout).Reads s u ↔ u = q.use := by
  constructor
  · rintro ⟨⟩
    rfl
  · rintro rfl
    exact .core q timeout

/-- Reading the quota is permitted to those who may get one. -/
theorem exists_reads_quota_iff {s : Session} {ns : String} {timeout : Option Binary64} :
    (∃ u, (Request.core (quotaQuery ns) timeout).Reads s u ∧ s.Permits u) ↔
      s.Permits ⟨ns, "resourcequotas", "get"⟩ := by
  simp only [reads_core_iff, exists_eq_left]
  rfl

/-- Where an environment is known to meet what its check asks for, quotas may be listed there. -/
theorem permits_list_of_meets {s : Session} {environment ns : String}
    (hother : environment ≠ userEnvironment) (hns : s.environments.lookup environment = some ns)
    (h : s.Meets environment Access.environment) : s.Permits ⟨ns, "resourcequotas", "list"⟩ := by
  obtain ⟨ns', grants, hfor, hlookup, hpermits⟩ := h
  rw [Session.namespaceFor, if_neg hother, hns] at hfor
  cases hfor
  exact ⟨grants, hlookup, hpermits⟩

/-! ## the checks -/

/-- What looking at quotas sends after the check for it was answered with yes, whatever has happened
since. -/
structure QuotaChecks (r : Run σ) : Prop where
  /-- In one environment. -/
  one {environment ns : String} {r₁ : Run σ} : environment ≠ userEnvironment →
    r.session.environments.lookup environment = some ns →
    (Check.environment environment).ask.eval r = (.ok true, r₁) → ∀ steps : List (Step σ), ∃ w,
      ((Operation.environment environment).perform.eval (after steps r₁)).2.sent =
        (after steps r₁).sent ++ [w] ∧
      QuotaRead (after steps r₁).session ns w
  /-- In all environments, if none has the name of the user's own namespace. -/
  all {r₁ : Run σ} : userEnvironment ∉ r.session.environments.map (·.1) →
    Check.environments.ask.eval r = (.ok true, r₁) → ∀ steps : List (Step σ), ∃ requests,
      (Operation.environments.perform.eval (after steps r₁)).2.sent =
        (after steps r₁).sent ++ requests ∧
      ∀ w ∈ requests, ∃ environment ns, r.session.environments.lookup environment = some ns ∧
        QuotaRead (after steps r₁).session ns w

/-- A check of quotas permits to list them, and looking at them gets them. -/
theorem quotaChecks (r : Run σ) : QuotaChecks r where
  one {environment ns r₁} hother hns hyes steps := by
    have hsetup := (sameSetup_of_ask hyes).trans (sameSetup_after steps r₁)
    have hlisted := hns
    rw [← hsetup.environments] at hlisted
    have hmeets := (meets_of_yes hyes (.head _)).after steps
    refine ⟨.core (quotaQuery ns) (after steps r₁).session.config.timeout, ?_, rfl,
      permits_list_of_meets hother hlisted hmeets, exists_reads_quota_iff⟩
    rw [Operation.perform, eval_wrap, getEnvironment_after hlisted]
    rfl
  all {r₁} hnone hyes steps := by
    have hsetup := (sameSetup_of_ask hyes).trans (sameSetup_after steps r₁)
    obtain ⟨-, requests, hsent, hquotas⟩ := along_getEnvironments (after steps r₁)
    refine ⟨requests, ?_, fun w hw => ?_⟩
    · rw [Operation.perform, eval_wrap, hsent]
    · obtain ⟨environment, ns, hlisted, rfl⟩ := hquotas w hw
      have hns := hlisted
      rw [hsetup.environments] at hns
      have hmem := mem_of_lookup hns
      -- The check has left out no environment, as none has the name of the user's own namespace.
      have hother : environment ≠ userEnvironment := by
        rintro rfl
        exact hnone hmem
      have hdeployed : environment ∈ r.session.deployed := mem_deployed_iff.mpr ⟨hmem, hother⟩
      have hmeets := (meets_of_yes hyes (List.mem_map.mpr ⟨environment, hdeployed, rfl⟩)).after steps
      exact ⟨environment, ns, hns, rfl, permits_list_of_meets hother hlisted hmeets,
        exists_reads_quota_iff⟩

/-- A client whose user may list the quotas of an environment, and nothing else. -/
def listing : Run Recorded := { permitted with
  cluster := ⟨[], [("POST /oapi/v1/namespaces/my-run/selfsubjectrulesreviews",
    permitted.review [("resourcequotas", ["list"])])]⟩ }

/-- The check permits to look at the quota there, and what this sends is not permitted. -/
theorem listing_uncovered :
    ∃ r₁ w, (Check.environment "run").ask.eval listing = (.ok true, r₁) ∧
      ((Operation.environment "run").perform.eval r₁).2.sent = r₁.sent ++ [w] ∧
      ¬ ∃ u, w.Reads r₁.session u ∧ r₁.session.Permits u := by
  have hrun : ((Check.environment "run").ask.eval listing).map Except.toOption
      (fun r₁ => (r₁.session.environments.lookup "run", (r₁.session.grants.lookup "my-run").map
        (·.permits [Access.need "resourcequotas" ["get"]]))) =
      (some true, some "my-run", some false) := by decide +kernel
  obtain ⟨r₁, hyes, hseen⟩ := exists_eval hrun
  obtain ⟨hns, hdenied⟩ := Prod.mk.inj hseen
  refine ⟨r₁, .core (quotaQuery "my-run") r₁.session.config.timeout, hyes, ?_, ?_⟩
  · rw [Operation.perform, eval_wrap, getEnvironment_after hns]
    rfl
  · rw [exists_reads_quota_iff]
    rintro ⟨grants, hlookup, hpermits⟩
    rw [hlookup, Option.map_some, hpermits] at hdenied
    cases hdenied

end Rollout
