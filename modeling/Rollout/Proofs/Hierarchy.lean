import Rollout.Proofs.Coverage

/-!
# Rollout.Proofs.Hierarchy

Checks that follow from others.

* `Session.Meets` — what is remembered answers a demand with yes;
* `meets_of_yes`, `Session.Meets.after` — a check that is answered with yes leaves this behind for
  everything that it asks for, and nothing takes it away;
* `consult_of_meets` — demands that are met are answered with yes, and nothing is sent;
* `Check.Within` — a check asks for part of what another one asks for;
* `Check.Implies` — from a space to its applications, from there to a deployment, and on to usage;
* `implied_ever_after` — the checks that follow from one that was answered with yes.
-/

namespace Rollout

open Client

variable {σ : Type} [Cluster σ]

/-! ## demands that are met -/

/-- Who meets requirements meets some of them. -/
theorem Grants.permits_mono {grants : Grants} {required more : List Requirement}
    (h : grants.permits more = true) (hsub : required ⊆ more) : grants.permits required = true :=
  List.all_eq_true.mpr fun need hneed => List.all_eq_true.mp h need (hsub hneed)

/-- What is remembered about the namespace of an environment meets requirements. -/
def Session.Meets (s : Session) (environment : String) (required : List Requirement) : Prop :=
  ∃ ns grants, s.namespaceFor environment = .ok ns ∧ s.grants.lookup ns = some grants ∧
    grants.permits required = true

namespace Session.Meets

variable {environment : String} {required more : List Requirement}

/-- Who meets requirements meets those that they include. -/
theorem mono {s : Session} (h : s.Meets environment more) (hsub : required ⊆ more) :
    s.Meets environment required := by
  obtain ⟨ns, grants, hns, hlookup, hpermits⟩ := h
  exact ⟨ns, grants, hns, hlookup, Grants.permits_mono hpermits hsub⟩

/-- Nothing that happens to a client takes away what it remembers. -/
theorem after {r : Run σ} (h : r.session.Meets environment required) (steps : List (Step σ)) :
    (after steps r).session.Meets environment required := by
  obtain ⟨ns, grants, hns, hlookup, hpermits⟩ := h
  refine ⟨ns, grants, ?_, (leads_history steps r).remembered hlookup, hpermits⟩
  rw [(sameSetup_after steps r).namespaceFor, hns]

end Session.Meets

/-- Demands that are met are answered with yes, and nothing happens. -/
theorem consult_of_meets {demands : List (String × List Requirement)} {r : Run σ}
    (h : ∀ d ∈ demands, r.session.Meets d.1 d.2) : (consult demands r).2 = (.ok true, r) := by
  -- No question learns anything, so the client that asks the next one is the same.
  induction demands with
  | nil => rfl
  | cons demand rest ih =>
      obtain ⟨environment, required⟩ := demand
      obtain ⟨ns, grants, hns, hlookup, hpermits⟩ := h _ (.head _)
      generalize hq : Consultation.mk ns required r = q
      obtain rfl : r = q.before := by rw [← hq]
      obtain rfl : ns = q.namespace_ := by rw [← hq]
      obtain rfl : required = q.required := by rw [← hq]
      obtain ⟨hanswer, hafter⟩ := Consultation.of_remembered hlookup
      rw [hpermits] at hanswer
      simp only [consult, hns, hanswer, hafter]
      exact ih fun d hd => h d (.tail _ hd)

/-! ## checks with the answer yes -/

omit [Cluster σ] in
/-- An activity with a result leaves behind a state with what it is seen to have. -/
theorem exists_eval {α β : Type} {m : Client σ α} {r : Run σ} {f : Run σ → β} {a : α} {b : β}
    (h : (m.eval r).map Except.toOption f = (some a, b)) :
    ∃ r₁, m.eval r = (.ok a, r₁) ∧ f r₁ = b := by
  obtain ⟨hresult, hafter⟩ := Prod.mk.inj h
  exact ⟨_, Prod.ext (Outcome.eq_ok_of_toOption hresult) rfl, hafter⟩

/-- After a check that is answered with yes, all that it asks for is known to be met. -/
theorem meets_of_yes {c : Check} {r r₁ : Run σ} (hyes : c.ask.eval r = (.ok true, r₁))
    {environment : String} {required : List Requirement}
    (hmem : (environment, required) ∈ c.demands r.session) :
    r₁.session.Meets environment required := by
  have hsetup := sameSetup_of_ask hyes
  rw [eval_ask] at hyes
  obtain ⟨hanswer, rfl⟩ := Prod.mk.inj hyes
  obtain ⟨ns, grants, hns, hlookup, hpermits⟩ := permits_of_consult hanswer hmem
  exact ⟨ns, grants, by rw [hsetup.namespaceFor, hns], hlookup, hpermits⟩

omit [Cluster σ] in
/-- What a check asks for depends on what the client was opened with. -/
theorem SameSetup.demands {r r₁ : Run σ} (h : SameSetup r r₁) (c : Check) :
    c.demands r₁.session = c.demands r.session := by
  have hdeployed : r₁.session.deployed = r.session.deployed := by
    unfold Session.deployed
    rw [h.environments]
  cases c <;> simp only [Check.demands, hdeployed]

/-- A check asks for part of what another one asks for. -/
def Check.Within (s : Session) (part whole : Check) : Prop :=
  ∀ environment required, (environment, required) ∈ part.demands s →
    ∃ more, (environment, more) ∈ whole.demands s ∧ required ⊆ more

/-- What is part of a check that was answered with yes is answered with yes ever after, and nothing
happens. -/
theorem Check.Within.ever_after {part whole : Check} {r r₁ : Run σ}
    (h : part.Within r.session whole) (hyes : whole.ask.eval r = (.ok true, r₁))
    (steps : List (Step σ)) :
    part.ask.eval (after steps r₁) = (.ok true, after steps r₁) := by
  have hsetup := (sameSetup_of_ask hyes).trans (sameSetup_after steps r₁)
  rw [eval_ask, hsetup.demands]
  refine consult_of_meets fun d hmem => ?_
  obtain ⟨more, hmore, hsub⟩ := h d.1 d.2 hmem
  exact ((meets_of_yes hyes hmore).mono hsub).after steps

/-! ## the hierarchy -/

/-- A check follows from another one. -/
inductive Check.Implies (s : Session) : Check → Check → Prop where
  | application : Implies s space application
  | deployment {environment : String} : environment ∈ s.environments.map (·.1) →
    environment ≠ userEnvironment → Implies s application (deployment environment)
  | usage (environment : String) : Implies s (deployment environment) (usage environment)
  | usageSeries (environment : String) :
    Implies s (deployment environment) (usageSeries environment)

theorem mem_of_lookup {entries : Labels} {name value : String} (h : entries.lookup name = some value) :
    name ∈ entries.map (·.1) := by
  obtain ⟨before, rest, rfl, -⟩ := List.lookup_eq_some_iff.mp h
  simp

/-- All environments can be deployed to, except the one of the user. -/
theorem mem_deployed_iff {s : Session} {environment : String} :
    environment ∈ s.deployed ↔
      environment ∈ s.environments.map (·.1) ∧ environment ≠ userEnvironment := by
  simp [Session.deployed, canDeploy]

/-- Looking at an application includes looking at its deployments. -/
theorem within_application {s : Session} {environment : String}
    (hmem : environment ∈ s.environments.map (·.1)) (hother : environment ≠ userEnvironment) :
    (Check.deployment environment).Within s .application := by
  have hdeployed : environment ∈ s.deployed := mem_deployed_iff.mpr ⟨hmem, hother⟩
  intro e required h
  simp only [Check.demands, List.mem_cons, List.not_mem_nil, or_false, Prod.mk.injEq] at h
  obtain ⟨rfl, rfl⟩ | ⟨rfl, rfl⟩ := h
  · exact ⟨Access.builds, .head _, List.Subset.refl _⟩
  · exact ⟨Access.deployment, .tail _ (List.mem_map.mpr ⟨e, hdeployed, rfl⟩), List.Subset.refl _⟩

/-- Looking at a deployment includes looking at its usage. -/
theorem within_deployment (s : Session) (environment : String) :
    (Check.usage environment).Within s (.deployment environment) := by
  intro e required h
  simp only [Check.demands, List.mem_cons, List.not_mem_nil, or_false, Prod.mk.injEq] at h
  obtain ⟨rfl, rfl⟩ | ⟨rfl, rfl⟩ := h
  · exact ⟨Access.builds, .head _, List.Subset.refl _⟩
  · exact ⟨Access.deployment, .tail _ (.head _), by decide⟩

/-- A check asks for part of what it follows from. -/
theorem Check.Implies.within {s : Session} {whole part : Check} (h : whole.Implies s part) :
    part.Within s whole := by
  cases h with
  | application =>
      intro e required h
      obtain hbuilds | hdeployed := List.mem_cons.mp h
      · obtain ⟨rfl, rfl⟩ := Prod.mk.inj hbuilds
        exact ⟨Access.buildConfigs, .head _, by decide⟩
      · exact ⟨required, .tail _ hdeployed, List.Subset.refl _⟩
  | deployment hmem hother => exact within_application hmem hother
  | usage environment => exact within_deployment s environment
  | usageSeries environment => exact within_deployment s environment

/-- After a check that was answered with yes, the checks that follow from it are answered with yes,
whatever else the client was asked to do in between and however the cluster has changed: they are
answered from what is remembered, and nothing happens. -/
theorem implied_ever_after {whole part : Check} {r r₁ : Run σ}
    (himplies : whole.Implies r.session part) (hyes : whole.ask.eval r = (.ok true, r₁))
    (steps : List (Step σ)) :
    part.ask.eval (after steps r₁) = (.ok true, after steps r₁) :=
  himplies.within.ever_after hyes steps

/-- A client whose user may look at applications, in one environment. -/
def looking : Run Recorded := { permitted with
  cluster := ⟨[], [
    ("POST /oapi/v1/namespaces/my/selfsubjectrulesreviews",
      permitted.review [("builds", ["list"])]),
    ("POST /oapi/v1/namespaces/my-run/selfsubjectrulesreviews",
      permitted.review [("deploymentconfigs", ["get"]), ("replicationcontrollers", ["list"]),
        ("pods", ["list"]), ("services", ["list"]), ("routes", ["list"])])]⟩ }

/-- Its deployments there may be looked at even after everything has been revoked. -/
theorem looking_ever_after :
    ∃ r₁, Check.application.ask.eval looking = (.ok true, r₁) ∧ r₁.sent.length = 2 ∧
      (Check.deployment "run").ask.eval (after [revoked] r₁) = (.ok true, after [revoked] r₁) := by
  have hrun : (Check.application.ask.eval looking).map Except.toOption (·.sent.length) =
      (some true, 2) := by decide +kernel
  obtain ⟨r₁, hyes, hsent⟩ := exists_eval hrun
  exact ⟨r₁, hyes, hsent, implied_ever_after (.deployment (.head _) (by decide)) hyes [revoked]⟩

end Rollout
