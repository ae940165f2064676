import Rollout.Proofs.Grants
import Rollout.Proofs.Hierarchy
import Rollout.Proofs.Mapping

/-!
# Rollout.Proofs.Unlisted

What becomes of an environment that a client does not list.  To refuse it is a failure, and to deny it
is the answer no.

* `Session.Lacks` — a client lists no environment of a name, and the checks do not keep the name for
  the user's own namespace;
* `Run.GoesBy`, `Run.GoesBy.judges` — the grants that count in a namespace answer every question about
  it;
* `Guard.eval_check` — a check that asks about builds first looks at its environment only if builds
  may be listed;
* `Unlisted`, `unlisted_ever_after` — everything else refuses the environment at once.  These checks
  refuse or deny it as the grants in the user's own namespace say, and ever after;
* `outsider_denied` — a user who may not list builds is denied an environment that is not listed.
-/

namespace Rollout

open Client

variable {σ : Type} [Cluster σ]

/-! ## names that are not listed -/

/-- The failure of everything that needs the namespace of an environment that is not listed. -/
def Failure.unlisted (environment : String) : Failure :=
  .misconfigured (.unknownEnvironment environment)

/-- A client lists no environment of a name, which is not the one that the checks keep for the user's
own namespace. -/
structure Session.Lacks (s : Session) (environment : String) : Prop where
  other : environment ≠ userEnvironment
  unlisted : s.environments.lookup environment = none

namespace Session.Lacks

variable {r r₁ : Run σ} {environment : String}

/-- There is no namespace to judge it in. -/
theorem namespaceFor {s : Session} (h : s.Lacks environment) :
    s.namespaceFor environment = .error (.unlisted environment) := by
  rw [Session.namespaceFor, if_neg h.other, h.unlisted]
  rfl

omit [Cluster σ] in
/-- What the client lacks is the same as long as its setup is. -/
theorem of_sameSetup (h : r.session.Lacks environment) (hsetup : SameSetup r r₁) :
    r₁.session.Lacks environment :=
  ⟨h.other, by rw [hsetup.environments, h.unlisted]⟩

/-- Requirements there are refused, and nothing is sent. -/
theorem eval_canPerform (h : r.session.Lacks environment) (required : List Requirement) :
    (canPerform environment required).eval r = (.error (.unlisted environment), r) := by
  rw [Rollout.eval_canPerform, h.namespaceFor]

end Session.Lacks

/-! ## the grants that count -/

/-- The grants that count in a namespace: those that are remembered, or else those of the review that
the cluster gives now. -/
inductive Run.GoesBy (r : Run σ) (ns : String) : Grants → Prop where
  | remembered {grants : Grants} : r.session.grants.lookup ns = some grants → GoesBy r ns grants
  | reviewed {review : RulesReview} : r.session.grants.lookup ns = none →
    ((rulesReview ns).eval r).1 = .ok review → GoesBy r ns (Grants.ofReview review)

/-- They answer every question about the namespace, and are remembered afterwards. -/
theorem Run.GoesBy.judges {q : Consultation σ} {grants : Grants}
    (h : q.before.GoesBy q.namespace_ grants) :
    q.answer = .ok (grants.permits q.required) ∧
      q.after.session.grants.lookup q.namespace_ = some grants := by
  cases h with
  | remembered hlookup =>
      obtain ⟨hanswer, hafter⟩ := Consultation.of_remembered hlookup
      exact ⟨hanswer, by rw [hafter, hlookup]⟩
  | reviewed hnone hreview =>
      obtain ⟨hanswer, w, -, hafter⟩ := Consultation.of_review hnone hreview
      refine ⟨hanswer, ?_⟩
      rw [hafter, Run.lookup_learn, Run.session_afterWeb, hnone, if_pos rfl]
      rfl

/-- By a review, builds may be listed exactly if it lists a rule that says so. -/
theorem permits_builds_ofReview (review : RulesReview) :
    (Grants.ofReview review).permits Access.builds = true ↔
      ∃ rule, review.Lists ⟨"", "builds"⟩ rule ∧ "list" ∈ rule.verbs := by
  have hmeets : (Grants.ofReview review).permits Access.builds = true ↔
      (∃ rule, review.Lists ⟨"", "builds"⟩ rule) ∧
        ∃ rule, review.Lists ⟨"", "builds"⟩ rule ∧ "list" ∈ rule.verbs := by
    rw [← Grants.allows_ofReview, ← Grants.isSome_lookup_ofReview]
    simp [Grants.permits, Access.builds, Access.need, Grants.meets_iff]
  rw [hmeets, and_iff_right_iff_imp]
  rintro ⟨rule, hlists, -⟩
  exact ⟨rule, hlists⟩

/-! ## checks that ask about builds first -/

/-- The question whether builds may be listed. -/
def Run.buildsQuestion (r : Run σ) : Consultation σ :=
  ⟨r.session.config.userNamespace, Access.builds, r⟩

/-- What a check makes of the answer to it where its environment is not listed. -/
def refusal (environment : String) (listsBuilds : Bool) : Outcome Bool :=
  if listsBuilds then .error (.unlisted environment) else .ok false

/-- The name is refused where the builds may be listed. -/
theorem refusal_eq_error_iff {environment : String} {listsBuilds : Bool} :
    refusal environment listsBuilds = .error (.unlisted environment) ↔ listsBuilds = true := by
  cases listsBuilds <;> simp [refusal]

namespace Guard

variable {r r₁ : Run σ} {environment : String} {grants : Grants}

/-- A check goes on to its environment only if builds may be listed. -/
theorem eval_check (g : Guard) (environment : String) (r : Run σ) :
    (g.check environment).ask.eval r =
      match r.buildsQuestion.answer with
      | .ok true => (canPerform environment g.required).eval r.buildsQuestion.after
      | answer => (answer, r.buildsQuestion.after) := by
  have hask : ((g.check environment).ask : Client σ Bool) =
      canPerformWithBuilds environment g.required := by cases g <;> rfl
  have hbuilds : (canPerform userEnvironment Access.builds).eval r =
      (r.buildsQuestion.answer, r.buildsQuestion.after) := eval_canPerform _ _ r
  rw [hask, canPerformWithBuilds, eval_bind, hbuilds]
  rcases r.buildsQuestion.answer with e | _ | _ <;> rfl

/-- So where they may not, every environment is denied, whether there is one of the name or not. -/
theorem eval_check_of_denied (g : Guard) (environment : String)
    (hgrants : r.GoesBy r.session.config.userNamespace grants)
    (hbuilds : grants.permits Access.builds = false) :
    (g.check environment).ask.eval r = (.ok false, r.buildsQuestion.after) := by
  obtain ⟨hanswer, -⟩ := Run.GoesBy.judges (q := r.buildsQuestion) hgrants
  have hno : r.buildsQuestion.answer = .ok false := hanswer.trans (congrArg _ hbuilds)
  rw [g.eval_check, hno]

/-- One that is not listed is refused where they may. -/
theorem eval_check_of_lacks (g : Guard) (h : r.session.Lacks environment) :
    (g.check environment).ask.eval r =
      (r.buildsQuestion.answer.bind (refusal environment), r.buildsQuestion.after) := by
  -- The question may change the client, but not what it lists.
  have hlater := h.of_sameSetup r.buildsQuestion.sameSetup_after
  rw [g.eval_check, hlater.eval_canPerform]
  rcases r.buildsQuestion.answer with e | _ | _ <;> rfl

/-- Where the grants for the builds are known, the check is answered by them. -/
theorem eval_check_of_goesBy (g : Guard) (h : r.session.Lacks environment)
    (hgrants : r.GoesBy r.session.config.userNamespace grants) :
    (g.check environment).ask.eval r =
      (refusal environment (grants.permits Access.builds), r.buildsQuestion.after) := by
  obtain ⟨hanswer, -⟩ := Run.GoesBy.judges (q := r.buildsQuestion) hgrants
  rw [g.eval_check_of_lacks h, hanswer]
  rfl

/-- By grants that are remembered this takes no request. -/
theorem eval_check_of_remembered (g : Guard) (h : r.session.Lacks environment)
    (hlookup : r.session.grants.lookup r.session.config.userNamespace = some grants) :
    (g.check environment).ask.eval r =
      (refusal environment (grants.permits Access.builds), r) := by
  obtain ⟨-, hafter⟩ := Consultation.of_remembered (q := r.buildsQuestion) hlookup
  rw [g.eval_check_of_goesBy h (.remembered hlookup), hafter]
  rfl

/-- After one check the grants are remembered, so all checks of the environment answer the same from
then on. -/
theorem eval_check_after (g g' : Guard) {answer : Outcome Bool} (h : r.session.Lacks environment)
    (hgrants : r.GoesBy r.session.config.userNamespace grants)
    (hcheck : (g.check environment).ask.eval r = (answer, r₁)) (steps : List (Step σ)) :
    (g'.check environment).ask.eval (after steps r₁) = (answer, after steps r₁) := by
  rw [g.eval_check_of_goesBy h hgrants] at hcheck
  obtain ⟨rfl, rfl⟩ := Prod.mk.inj hcheck
  obtain ⟨-, hlearnt⟩ := Run.GoesBy.judges (q := r.buildsQuestion) hgrants
  have hknown := (leads_history steps r.buildsQuestion.after).remembered hlearnt
  have hsetup := r.buildsQuestion.sameSetup_after.trans
    (sameSetup_after steps r.buildsQuestion.after)
  refine g'.eval_check_of_remembered (h.of_sameSetup hsetup) ?_
  rw [hsetup.config]
  exact hknown

end Guard

/-! ## now and ever after -/

/-- What becomes of an environment that is not listed. -/
structure Unlisted (r : Run σ) (environment : String) : Prop where
  /-- Operations on it are refused, and nothing is sent. -/
  operations {o : Operation} : o.On environment →
    o.perform.eval r = (.error (.unlisted environment), r)
  /-- So are the checks that ask about nothing else. -/
  quota : (Check.environment environment).ask.eval r = (.error (.unlisted environment), r)
  perform (required : List Requirement) :
    (Check.perform environment required).ask.eval r = (.error (.unlisted environment), r)
  /-- The other checks do not permit anything either, … -/
  unpermitted (g : Guard) : ((g.check environment).ask.eval r).1 ≠ .ok true
  /-- … but they refuse it only where the user may list builds, … -/
  judged {grants : Grants} : r.GoesBy r.session.config.userNamespace grants → ∀ g : Guard,
    ((g.check environment).ask.eval r).1 = refusal environment (grants.permits Access.builds)
  /-- … which a review decides by a rule that it lists. -/
  reviewed {review : RulesReview} :
    r.session.grants.lookup r.session.config.userNamespace = none →
    ((rulesReview r.session.config.userNamespace).eval r).1 = .ok review → ∀ g : Guard,
      (((g.check environment).ask.eval r).1 = .error (.unlisted environment) ↔
        ∃ rule, review.Lists ⟨"", "builds"⟩ rule ∧ "list" ∈ rule.verbs)
  /-- Elsewhere they deny it like every other name. -/
  denied {grants : Grants} : r.GoesBy r.session.config.userNamespace grants →
    grants.permits Access.builds = false → ∀ (g : Guard) (name : String),
      (g.check name).ask.eval r = (.ok false, r.buildsQuestion.after)
  /-- What one of them has answered, all of them answer from then on, and nothing more is sent. -/
  settled {grants : Grants} {answer : Outcome Bool} {r₁ : Run σ} :
    r.GoesBy r.session.config.userNamespace grants → ∀ g g' : Guard,
      (g.check environment).ask.eval r = (answer, r₁) → ∀ steps : List (Step σ),
        (g'.check environment).ask.eval (after steps r₁) = (answer, after steps r₁)
  /-- Without grants they fail as the review does. -/
  unreviewed {e : Failure} : r.session.grants.lookup r.session.config.userNamespace = none →
    ((rulesReview r.session.config.userNamespace).eval r).1 = .error e → ∀ g : Guard,
      ((g.check environment).ask.eval r).1 = .error e

/-- An environment that a client does not list fares so now and ever after, whatever the client is
asked to do and however the cluster changes. -/
theorem unlisted_ever_after {first : Run σ} {environment : String}
    (hfirst : first.session.Lacks environment) (steps : List (Step σ)) :
    Unlisted (after steps first) environment := by
  have h := hfirst.of_sameSetup (sameSetup_after steps first)
  -- All that counts about the state at the end is that it does not list the environment either.
  generalize after steps first = r at h
  constructor
  case operations => exact fun ho => eval_of_unlisted ho h.unlisted
  case quota => exact h.eval_canPerform Access.environment
  case perform => exact h.eval_canPerform
  case unpermitted =>
    intro g
    rw [g.eval_check_of_lacks h]
    rcases r.buildsQuestion.answer with e | _ | _ <;> simp [Except.bind, refusal]
  case judged =>
    intro grants hgrants g
    rw [g.eval_check_of_goesBy h hgrants]
  case reviewed =>
    intro review hnone hreview g
    rw [g.eval_check_of_goesBy h (.reviewed hnone hreview), refusal_eq_error_iff,
      permits_builds_ofReview]
  case denied => exact fun hgrants hbuilds g name => g.eval_check_of_denied name hgrants hbuilds
  case settled =>
    exact fun hgrants g g' hcheck later => g.eval_check_after g' h hgrants hcheck later
  case unreviewed =>
    intro e hnone hreview g
    obtain ⟨hanswer, -⟩ := Consultation.of_no_review (q := r.buildsQuestion) hnone hreview
    rw [g.eval_check_of_lacks h, hanswer]
    rfl

/-- A client whose user may look at everything in an environment, and may not list builds. -/
def outsider : Run Recorded := { permitted with
  cluster := ⟨[], [
    ("POST /oapi/v1/namespaces/my/selfsubjectrulesreviews", permitted.review []),
    ("POST /oapi/v1/namespaces/my-run/selfsubjectrulesreviews",
      permitted.review [("deploymentconfigs", ["get"]), ("replicationcontrollers", ["list"]),
        ("pods", ["list"]), ("services", ["list"]), ("routes", ["list"]),
        ("resourcequotas", ["get", "list"])])]⟩ }

/-- It does not list an environment, and neither does a client whose user may list builds, even after
a check of the one that it lists, when everything has been revoked.  That one refuses it. -/
theorem outsider_ever_after :
    outsider.session.Lacks "stage" ∧ Unlisted outsider "stage" ∧
      permitted.session.Lacks "stage" ∧
      Unlisted (after [.call (.check (.deployment "run")), revoked] permitted) "stage" ∧
      ((Check.deployment "stage").ask.eval
        (after [.call (.check (.deployment "run")), revoked] permitted)).1 =
          .error (.unlisted "stage") := by
  have houtsider : outsider.session.Lacks "stage" := ⟨by decide, rfl⟩
  have hpermitted : permitted.session.Lacks "stage" := ⟨by decide, rfl⟩
  have hlater := unlisted_ever_after hpermitted [.call (.check (.deployment "run")), revoked]
  have hknown : ((after [.call (.check (.deployment "run")), revoked]
      permitted).session.grants.lookup "my").map (·.permits Access.builds) = some true := by
    decide +kernel
  obtain ⟨grants, hlookup, hbuilds⟩ := Option.map_eq_some_iff.mp hknown
  have hrefused := hlater.judged (.remembered hlookup) .deployment
  rw [hbuilds] at hrefused
  exact ⟨houtsider, unlisted_ever_after houtsider [], hpermitted, hlater, hrefused⟩

/-- The rules of all its namespaces can be reviewed, and it does not list the environment.  The check
of its quota refuses it, and so do all operations; the other checks deny it. -/
theorem outsider_denied :
    outsider.session.Lacks "stage" ∧
      (∀ ns ∈ ["my", "my-run"], ∃ review, ((rulesReview ns).eval outsider).1 = .ok review) ∧
      ((Check.environment "stage").ask.eval outsider).1 = .error (.unlisted "stage") ∧
      (∀ o : Operation, o.On "stage" → (o.perform.eval outsider).1 = .error (.unlisted "stage")) ∧
      ∀ g : Guard, ((g.check "stage").ask.eval outsider).1 = .ok false := by
  have hlacks : outsider.session.Lacks "stage" := ⟨by decide, rfl⟩
  have hreviews : (["my", "my-run"].all fun ns =>
      ((rulesReview ns).eval outsider).1.toOption.isSome) = true := by decide +kernel
  have hbuilds : outsider.buildsQuestion.answer.toOption = some false := by decide +kernel
  refine ⟨hlacks, fun ns hns => ?_, ?_, fun o ho => ?_, fun g => ?_⟩
  · obtain ⟨review, hreview⟩ := Option.isSome_iff_exists.mp (List.all_eq_true.mp hreviews ns hns)
    exact ⟨review, Outcome.eq_ok_of_toOption hreview⟩
  · exact congrArg Prod.fst (hlacks.eval_canPerform Access.environment)
  · exact congrArg Prod.fst (eval_of_unlisted ho hlacks.unlisted)
  · rw [g.eval_check, Outcome.eq_ok_of_toOption hbuilds]

end Rollout
