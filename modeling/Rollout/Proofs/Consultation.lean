import Rollout.Proofs.Operation

/-!
# Rollout.Proofs.Consultation

Checks as lists of single questions, each about one namespace.

* `Consultation` — a question whether requirements are met in a namespace, in a state of the client;
* `Check.demands` — what a check asks for: environments with requirements, in order;
* `consult` — the questions that a list of demands comes to, with the answer to all of them: the
  first denial or failure ends it;
* `eval_ask` — a check answers, and leaves behind, exactly what consulting its demands does;
* `history` — all questions of a run, in order.
-/

namespace Rollout

open Client

variable {σ : Type} [Cluster σ]

/-! ## single questions -/

/-- The path of the rules of a namespace. -/
def reviewPath (ns : String) : String :=
  ApiPath.text ⟨ns, "selfsubjectrulesreviews", none, none⟩

/-- A question whether requirements are met in a namespace, with the client that asks it. -/
structure Consultation (σ : Type) where
  namespace_ : String
  required : List Requirement
  before : Run σ

namespace Consultation

/-- What the question is answered by. -/
def answer (q : Consultation σ) : Outcome Bool :=
  ((grantsIn q.namespace_).eval q.before).1.map (·.permits q.required)

/-- The client after the question. -/
def after (q : Consultation σ) : Run σ := ((grantsIn q.namespace_).eval q.before).2

/-- The request for the rules of the namespace, or why none can be sent. -/
def request (q : Consultation σ) : Outcome WebRequest :=
  prepared q.before.session (reviewPath q.namespace_) none (.post reviewRequest)

/-- What the cluster says about the namespace when it is asked now: a review, or why there is
none. -/
def review (q : Consultation σ) : Outcome RulesReview :=
  ((rulesReview q.namespace_).eval q.before).1

/-- The requests that the question makes the client send. -/
def sends (q : Consultation σ) : List Request := q.after.sent.drop q.before.sent.length

/-- The question makes the client send the request for the rules of the namespace, and nothing
else. -/
def Posts (q : Consultation σ) : Prop := ∃ w, q.request = .ok w ∧ q.sends = [.web w]

/-- The question has no answer. -/
def Fails (q : Consultation σ) : Prop := ∃ e, q.answer = .error e

end Consultation

/-! ## the demands of a check -/

/-- The environment names of a client, without the user's own one. -/
def Session.deployed (s : Session) : List String := (s.environments.map (·.1)).filter canDeploy

/-- What a check asks for, in order: environments, and requirements in each of them. -/
def Check.demands (s : Session) : Check → List (String × List Requirement)
  | space => (userEnvironment, Access.buildConfigs) :: s.deployed.map (·, Access.deployment)
  | application => (userEnvironment, Access.builds) :: s.deployed.map (·, Access.deployment)
  | deployment e => [(userEnvironment, Access.builds), (e, Access.deployment)]
  | scale e => [(userEnvironment, Access.builds), (e, Access.scale)]
  | usage e | usageSeries e => [(userEnvironment, Access.builds), (e, Access.usage)]
  | environments => s.deployed.map (·, Access.environment)
  | environment e => [(e, Access.environment)]
  | perform e required => [(e, required)]

/-- The namespace in which an environment's requirements are judged. -/
def Session.namespaceFor (s : Session) (environment : String) : Outcome String :=
  if environment = userEnvironment then .ok s.config.userNamespace
  else
    match s.environments.lookup environment with
    | some ns => .ok ns
    | none => .error (.misconfigured (.unknownEnvironment environment))

/-- The questions that demands come to, the answer to all of them, and the client after them.  A
denial, a failure and an environment that is unknown end it. -/
def consult : List (String × List Requirement) → Run σ →
    List (Consultation σ) × Outcome Bool × Run σ
  | [], r => ([], .ok true, r)
  | (environment, required) :: rest, r =>
    match r.session.namespaceFor environment with
    | .error e => ([], .error e, r)
    | .ok ns =>
      let q : Consultation σ := ⟨ns, required, r⟩
      match q.answer with
      | .ok true =>
        let (log, result) := consult rest q.after
        (q :: log, result)
      | other => ([q], other, q.after)

/-! ## asking for rules -/

/-- The client after it has learnt what the user may do in a namespace. -/
def Run.learn (r : Run σ) (ns : String) (grants : Grants) : Run σ :=
  { r with session := { r.session with grants := r.session.grants ++ [(ns, grants)] } }

/-- What is added to a table is found where nothing was found before. -/
theorem lookup_append_single {α : Type} (entries : List (String × α)) (name : String) (a : α)
    (other : String) :
    (entries ++ [(name, a)]).lookup other =
      (entries.lookup other).or (if other = name then some a else none) := by
  rw [List.lookup_append, List.lookup_cons, List.lookup_nil]
  by_cases h : other = name
  · simp [h]
  · simp [h, beq_false_of_ne h]

omit [Cluster σ] in
/-- What has been learned about a namespace is remembered, unless something was known before. -/
theorem Run.lookup_learn (r : Run σ) (ns : String) (grants : Grants) (other : String) :
    (r.learn ns grants).session.grants.lookup other =
      (r.session.grants.lookup other).or (if other = ns then some grants else none) :=
  lookup_append_single _ _ _ _

/-- What is made of the answer to a request for the rules of a namespace. -/
def reviewOf (ns : String) (answer : Option Answer) : Outcome RulesReview :=
  (jsonOf answer).bind fun d => Resource.decode d ("rules review in " ++ ns)

namespace Consultation

/-- A lookup sends its request if that can be sent, and otherwise nothing happens. -/
theorem eval_rulesReview (q : Consultation σ) :
    (rulesReview q.namespace_).eval q.before =
      sending q.before (fun w reply =>
        (webResult q.before.session (reviewPath q.namespace_) w false reply).bind
          (reviewOf q.namespace_)) q.request := by
  unfold rulesReview
  rw [eval_bind, eval_postResource, request, reviewPath]
  cases prepared q.before.session _ none (.post reviewRequest) with
  | error e => rfl
  | ok w =>
      simp only [sending]
      cases webResult q.before.session _ w false (Cluster.web w q.before.cluster).1 with
      | error e => rfl
      | ok found =>
          simp only [reviewOf, Except.bind]
          cases jsonOf found with
          | error e => rfl
          | ok d => exact eval_outcome _ _

/-- What is remembered about the namespace answers the question, and nothing is sent. -/
theorem of_remembered {q : Consultation σ} {grants : Grants}
    (h : q.before.session.grants.lookup q.namespace_ = some grants) :
    q.answer = .ok (grants.permits q.required) ∧ q.after = q.before := by
  have heval : (grantsIn q.namespace_).eval q.before = (.ok grants, q.before) := by
    unfold grantsIn
    rw [eval_bind, eval_session]
    simp only [h]
    rfl
  unfold answer after
  rw [heval]
  exact ⟨rfl, rfl⟩

/-- Without that, the question is answered by a review, which is remembered. -/
theorem of_review {q : Consultation σ} {review : RulesReview}
    (h : q.before.session.grants.lookup q.namespace_ = none) (hreview : q.review = .ok review) :
    q.answer = .ok ((Grants.ofReview review).permits q.required) ∧
      ∃ w, q.request = .ok w ∧
        q.after = (q.before.afterWeb w).learn q.namespace_ (Grants.ofReview review) := by
  obtain ⟨w, hrequest, hlookup⟩ : ∃ w, q.request = .ok w ∧
      (rulesReview q.namespace_).eval q.before = (.ok review, q.before.afterWeb w) := by
    have hafter := sending_snd q.before (fun w reply =>
      (webResult q.before.session (reviewPath q.namespace_) w false reply).bind
        (reviewOf q.namespace_)) q.request
    rw [← eval_rulesReview] at hafter
    cases hrequest : q.request with
    | error e =>
        unfold Consultation.review at hreview
        rw [eval_rulesReview, hrequest] at hreview
        cases hreview
    | ok w =>
        rw [hrequest] at hafter
        exact ⟨w, rfl, Prod.ext hreview hafter⟩
  have heval : (grantsIn q.namespace_).eval q.before = (.ok (Grants.ofReview review),
      (q.before.afterWeb w).learn q.namespace_ (Grants.ofReview review)) := by
    unfold grantsIn
    rw [eval_bind, eval_session]
    simp only [h]
    rw [eval_bind_of_ok hlookup]
    rfl
  unfold answer after
  rw [heval]
  exact ⟨rfl, w, hrequest, rfl⟩

/-- Without a review, the question fails, and nothing is remembered. -/
theorem of_no_review {q : Consultation σ} {e : Failure}
    (h : q.before.session.grants.lookup q.namespace_ = none) (hreview : q.review = .error e) :
    q.answer = .error e ∧ q.after = q.before.afterTrying q.request := by
  have hlookup : (rulesReview q.namespace_).eval q.before =
      (.error e, q.before.afterTrying q.request) := by
    refine Prod.ext hreview ?_
    rw [eval_rulesReview, sending_snd]
  have heval : (grantsIn q.namespace_).eval q.before =
      (.error e, q.before.afterTrying q.request) := by
    unfold grantsIn
    rw [eval_bind, eval_session]
    simp only [h]
    rw [eval_bind_of_error hlookup]
  unfold answer after
  rw [heval]
  exact ⟨rfl, rfl⟩

/-- What a question does: nothing, to send a request, or to send one and remember what it learnt. -/
theorem after_eq (q : Consultation σ) :
    q.after = q.before ∨ (∃ w, q.request = .ok w ∧ q.after = q.before.afterWeb w) ∨
      ∃ w review, q.request = .ok w ∧ q.review = .ok review ∧
        q.before.session.grants.lookup q.namespace_ = none ∧
        q.after = (q.before.afterWeb w).learn q.namespace_ (Grants.ofReview review) := by
  cases hlookup : q.before.session.grants.lookup q.namespace_ with
  | some grants => exact .inl (of_remembered hlookup).2
  | none =>
      cases hreview : q.review with
      | ok review =>
          obtain ⟨-, w, hw, hafter⟩ := of_review hlookup hreview
          exact .inr (.inr ⟨w, review, hw, rfl, rfl, hafter⟩)
      | error e =>
          have hafter := (of_no_review hlookup hreview).2
          cases hw : q.request with
          | error e' =>
              rw [hw] at hafter
              exact .inl hafter
          | ok w =>
              rw [hw] at hafter
              exact .inr (.inl ⟨w, rfl, hafter⟩)

/-- A question does not change the environments. -/
theorem environments_after (q : Consultation σ) :
    q.after.session.environments = q.before.session.environments := by
  obtain h | ⟨w, -, h⟩ | ⟨w, review, -, -, -, h⟩ := q.after_eq
  · rw [h]
  · rw [h]
    rfl
  · rw [h]
    rfl

end Consultation

/-! ## what the checks do -/

omit [Cluster σ] in
/-- The namespace to be judged is found without asking. -/
theorem eval_accessNamespace (environment : String) (r : Run σ) :
    (accessNamespace environment).eval r = (r.session.namespaceFor environment, r) := by
  unfold accessNamespace Session.namespaceFor
  by_cases h : environment = userEnvironment
  · rw [if_pos h, if_pos h]
    rfl
  · rw [if_neg h, if_neg h]
    exact eval_environmentNamespace environment r

/-- One requirement after the other is met. -/
def performAll : List (String × List Requirement) → Client σ Bool
  | [] => return true
  | (environment, required) :: rest => do
    if ← canPerform environment required then performAll rest else return false

/-- Whether requirements are met in a namespace. -/
def permittedIn (ns : String) (required : List Requirement) : Client σ Bool :=
  return (← grantsIn ns).permits required

/-- Asking for permission in a namespace is a consultation. -/
theorem eval_permittedIn (ns : String) (required : List Requirement) (r : Run σ) :
    (permittedIn ns required).eval r =
      ((Consultation.mk ns required r).answer, (Consultation.mk ns required r).after) := by
  unfold permittedIn Consultation.answer Consultation.after
  rw [eval_bind]
  rcases (grantsIn ns).eval r with ⟨grants, r₁⟩
  cases grants <;> rfl

/-- A check of one environment is a consultation about its namespace. -/
theorem eval_canPerform (environment : String) (required : List Requirement) (r : Run σ) :
    (canPerform environment required).eval r =
      match r.session.namespaceFor environment with
      | .error e => (.error e, r)
      | .ok ns =>
        ((Consultation.mk ns required r).answer, (Consultation.mk ns required r).after) := by
  unfold canPerform
  rw [eval_bind, eval_accessNamespace]
  cases r.session.namespaceFor environment with
  | error e => rfl
  | ok ns => exact eval_permittedIn ns required r

/-- Several demands are consultations one after the other. -/
theorem eval_performAll (demands : List (String × List Requirement)) (r : Run σ) :
    (performAll demands).eval r = (consult demands r).2 := by
  induction demands generalizing r with
  | nil => rfl
  | cons demand rest ih =>
      obtain ⟨environment, required⟩ := demand
      rw [performAll, eval_bind, eval_canPerform, consult]
      cases r.session.namespaceFor environment with
      | error e => rfl
      | ok ns =>
          simp only
          cases (Consultation.mk ns required r).answer with
          | error e => rfl
          | ok b =>
              cases b with
              | true => simp [ih]
              | false => rfl

/-- The last requirement answers for itself. -/
theorem eval_performAll_last (environment : String) (required : List Requirement) (r : Run σ) :
    (performAll [(environment, required)]).eval r = (canPerform environment required).eval r := by
  rw [performAll, eval_bind]
  rcases (canPerform environment required).eval r with ⟨answer, r'⟩
  rcases answer with e | _ | _ <;> rfl

/-- A check of several environments demands the same in all that can be deployed to. -/
theorem canPerformIn_eq_performAll (required : List Requirement) (names : List String) :
    (canPerformIn required names : Client σ Bool) =
      performAll ((names.filter canDeploy).map (·, required)) := by
  induction names with
  | nil => rfl
  | cons name rest ih =>
      rw [canPerformIn, List.filter_cons, ih]
      cases canDeploy name <;> rfl

/-- A check of all environments, likewise. -/
theorem eval_canPerformEverywhere (required : List Requirement) (r : Run σ) :
    (canPerformEverywhere required).eval r =
      (performAll (r.session.deployed.map (·, required))).eval r := by
  rw [canPerformEverywhere, eval_bind, eval_session]
  simp only [canPerformIn_eq_performAll]
  rfl

/-- Two activities that agree wherever a check leads agree after the check. -/
theorem eval_if_canPerform {m n : Client σ Bool} {environment : String}
    {required : List Requirement} {r : Run σ}
    (h : ∀ r', r'.session.environments = r.session.environments → m.eval r' = n.eval r') :
    (do if ← canPerform environment required then m else return false : Client σ Bool).eval r =
      (do if ← canPerform environment required then n else return false : Client σ Bool).eval r := by
  rw [eval_bind, eval_bind, eval_canPerform]
  cases r.session.namespaceFor environment with
  | error e => rfl
  | ok ns =>
      have hafter := (Consultation.mk ns required r).environments_after
      simp only
      rcases (Consultation.mk ns required r).answer with e | _ | _
      · rfl
      · rfl
      · exact h _ hafter

/-- A check that needs the builds, too, demands these first. -/
theorem eval_canPerformWithBuilds (environment : String) (required : List Requirement)
    (r : Run σ) :
    (canPerformWithBuilds environment required).eval r =
      (consult [(userEnvironment, Access.builds), (environment, required)] r).2 := by
  rw [← eval_performAll]
  exact eval_if_canPerform fun r' _ => (eval_performAll_last environment required r').symm

/-- A check that goes through all environments after a first requirement. -/
theorem eval_first_then_everywhere (first required : List Requirement) (r : Run σ) :
    (do if ← canPerform userEnvironment first then canPerformEverywhere required
        else return false : Client σ Bool).eval r =
      (consult ((userEnvironment, first) :: r.session.deployed.map (·, required)) r).2 := by
  rw [← eval_performAll]
  refine eval_if_canPerform fun r' h => ?_
  rw [eval_canPerformEverywhere, Session.deployed, h]
  rfl

/-- A check answers, and leaves behind, what consulting its demands does. -/
theorem eval_ask (c : Check) (r : Run σ) :
    c.ask.eval r = (consult (c.demands r.session) r).2 := by
  cases c with
  | space => exact eval_first_then_everywhere _ _ r
  | application => exact eval_first_then_everywhere _ _ r
  | deployment e => exact eval_canPerformWithBuilds e _ r
  | scale e => exact eval_canPerformWithBuilds e _ r
  | usage e => exact eval_canPerformWithBuilds e _ r
  | usageSeries e => exact eval_canPerformWithBuilds e _ r
  | environments =>
      rw [← eval_performAll]
      exact eval_canPerformEverywhere _ r
  | environment e =>
      rw [← eval_performAll]
      exact (eval_performAll_last e _ r).symm
  | perform e required =>
      rw [← eval_performAll]
      exact (eval_performAll_last e required r).symm

/-! ## the questions of a run -/

/-- The questions of a step, in order. -/
def Step.consultations (r : Run σ) : Step σ → List (Consultation σ)
  | call (.check c) => (consult (c.demands r.session) r).1
  | call (.grants ns) => [⟨ns, [], r⟩]
  | _ => []

/-- All questions of a run, in order. -/
def history : List (Step σ) → Run σ → List (Consultation σ)
  | [], _ => []
  | step :: rest, r => step.consultations r ++ history rest (step.after r)

end Rollout
