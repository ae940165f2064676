import Rollout.Proofs.Consultation
import Rollout.Proofs.Questions
import Rollout.Proofs.Scaling

/-!
# Rollout.Proofs.Guards

The checks of an environment, and what the operations ask that they guard.

* `Guard` — a check of an application with the operation that it guards;
* `Guard.Asks` — the questions that the operation may put;
* `SendsAsked` — between two states, only such questions have been put, and the usage of a namespace
  has been queried where that is left aside;
* `Guard.sendsAsked` — an operation puts no other questions;
* `getEnvironment_after` — looking at an environment asks for one quota, by its name.
-/

namespace Rollout

open Client

variable {σ : Type} [Cluster σ]

/-! ## checks with their operations -/

/-- A check with the operation that it guards, apart from the names that both are about. -/
inductive Guard where
  | deployment
  | scale (count : Int)
  | usage (start : DateTime)
  | usageSeries (start finish : DateTime) (limit : Int)

namespace Guard

def check (environment : String) : Guard → Check
  | deployment => .deployment environment
  | scale _ => .scale environment
  | usage _ => .usage environment
  | usageSeries _ _ _ => .usageSeries environment

def operation (space app environment : String) : Guard → Operation
  | deployment => .deployment space app environment
  | scale count => .scale space app environment count
  | usage start => .usage space app environment start
  | usageSeries start finish limit => .usageSeries space app environment start finish limit

/-- What the check asks for in the environment. -/
def required : Guard → List Requirement
  | deployment => Access.deployment
  | scale _ => Access.scale
  | usage _ | usageSeries _ _ _ => Access.usage

/-- Whether the operation asks the metrics service, too. -/
def queries : Guard → Bool
  | deployment | scale _ => false
  | usage _ | usageSeries _ _ _ => true

/-- The questions that the operation may put, where the builds give the deployment config a name. -/
def Asks (s : Session) (space app ns name : String) : Guard → Question → Prop
  | deployment, q => q ∈ deploymentQuestions s space app ns name
  | scale _, q => q = .path (buildsAsk s space app) ∨ q = .path (readScaleAsk ns name) ∨
      ∃ body, q = .path (storeScaleAsk ns name body)
  | usage _, q | usageSeries _ _ _, q => q ∈ currentQuestions s space app ns name

/-- The check of an operation demands the builds, and what it needs in the environment. -/
theorem demands_check (g : Guard) (environment : String) (s : Session) :
    (g.check environment).demands s =
      [(userEnvironment, Access.builds), (environment, g.required)] := by
  cases g <;> rfl

end Guard

/-! ## what the operations send -/

/-- A request asks the metrics service about a namespace. -/
def Request.IsQuery (w : Request) (ns : String) : Prop :=
  ∃ v signal, w = .web v ∧ v.call = .metrics ns signal

/-- From one state to another, requests have been sent that put questions of a kind.  Where queries
are left aside, the metrics service may have been asked, too. -/
def SendsAsked (ns : String) (Asked : Question → Prop) (queries : Bool) (r r' : Run σ) : Prop :=
  ∃ requests, r'.sent = r.sent ++ requests ∧ ∀ w ∈ requests,
    (queries = true ∧ w.IsQuery ns) ∨ ∃ q, Asked q ∧ q.request r.session = .ok w

omit [Cluster σ] in
/-- What asks some questions only asks no more than others that include them. -/
theorem SendsAsked.mono {ns : String} {Asked More : Question → Prop} {queries : Bool}
    {r r' : Run σ} (h : SendsAsked ns Asked queries r r') (hsub : ∀ q, Asked q → More q) :
    SendsAsked ns More queries r r' := by
  obtain ⟨requests, hsent, hput⟩ := h
  refine ⟨requests, hsent, fun w hw => (hput w hw).imp_right ?_⟩
  rintro ⟨q, hq, hrequest⟩
  exact ⟨q, hsub q hq, hrequest⟩

omit [Cluster σ] in
/-- The first ones of a list of questions are among them. -/
theorem exists_of_asked {questions : List Question} {k : Nat} {r r' : Run σ}
    (h : Asked (questions.take k) r r') :
    ∃ requests, r'.sent = r.sent ++ requests ∧
      ∀ w ∈ requests, ∃ q, q ∈ questions ∧ q.request r.session = .ok w := by
  obtain ⟨-, requests, hrequests, hsent⟩ := h
  refine ⟨requests, hsent, fun w hw => ?_⟩
  obtain ⟨q, hq, hput⟩ := exists_of_mem_requestsOf hrequests hw
  exact ⟨q, List.mem_of_mem_take hq, hput⟩

/-- Showing a deployment asks no more than is listed for it. -/
theorem sendsAsked_deployment {space app environment ns name : String} {r : Run σ}
    (hns : r.session.environments.lookup environment = some ns)
    (hname : NamesConfig ns app space r name) :
    SendsAsked ns (Guard.deployment.Asks r.session space app ns name) false r
      ((getDeployment space app environment).eval r).2 := by
  obtain ⟨k, hasked⟩ := asksUpTo_getDeployment hns hname
  obtain ⟨requests, hsent, hput⟩ := exists_of_asked hasked
  exact ⟨requests, hsent, fun w hw => .inr (hput w hw)⟩

/-- Going on with queries of the usage of pods. -/
theorem sendsAsked_throughCurrent {α : Type} {space app environment ns name : String} {r : Run σ}
    {k : String → Deployment → ReplicationController → List Pod → Client σ α}
    (hk : ∀ d rc found, Along (OnlyQueries ns found) (k ns d rc found))
    (hns : r.session.environments.lookup environment = some ns)
    (hname : NamesConfig ns app space r name) :
    SendsAsked ns (· ∈ currentQuestions r.session space app ns name) true r
      ((throughCurrent space app environment k).eval r).2 := by
  have hknown := eval_environmentNamespace_eq_ok_iff.mpr ⟨hns, rfl⟩
  unfold throughCurrent
  rw [eval_bind_of_ok hknown]
  obtain ⟨j, hasked⟩ := asksUpTo_currentDeployment hname
  obtain ⟨requests, hsent, hput⟩ := exists_of_asked hasked
  rcases hcurrent : (currentDeployment space app ns).eval r with ⟨result, r₁⟩
  rw [hcurrent] at hsent
  simp only at hsent
  rcases result with e | _ | ⟨d, rc, found⟩
  · rw [eval_bind_of_error hcurrent]
    exact ⟨requests, hsent, fun w hw => .inr (hput w hw)⟩
  · rw [eval_bind_of_ok hcurrent]
    exact ⟨requests, hsent, fun w hw => .inr (hput w hw)⟩
  · rw [eval_bind_of_ok hcurrent]
    have hgoing : Along (OnlyQueries ns found)
        (k ns d rc found >>= fun view => (pure (some view) : Client σ (Option α))) :=
      (path_onlyQueries ns found).bind (hk d rc found) fun _ _ => (path_onlyQueries ns found).here _
    obtain ⟨ws, hws, hqueries⟩ := hgoing r₁
    refine ⟨requests ++ ws.map .web, ?_, fun w hw => ?_⟩
    · rw [← List.append_assoc, ← hsent]
      exact hws
    · obtain hasked | hasked := List.mem_append.mp hw
      · exact .inr (hput w hasked)
      · obtain ⟨v, hv, rfl⟩ := List.mem_map.mp hasked
        obtain ⟨signal, -, -, hcall, -⟩ := hqueries v hv
        exact .inl ⟨rfl, v, signal, rfl, hcall⟩

omit [Cluster σ] in
/-- A request under a path puts the question for it. -/
theorem request_path {a : Ask} {s : Session} {w : WebRequest} (h : a.request s = .ok w) :
    (Question.path a).request s = .ok (.web w) := by
  rw [Question.request, h]
  rfl

/-- Scaling asks no more than is listed for it. -/
theorem sendsAsked_scale {space app environment ns name : String} {count : Int} {r : Run σ}
    (hns : r.session.environments.lookup environment = some ns)
    (hname : NamesConfig ns app space r name) :
    SendsAsked ns ((Guard.scale count).Asks r.session space app ns name) false r
      ((scaleDeployment space app environment count).eval r).2 := by
  obtain ⟨ws, hcourse, hended⟩ := exists_scaleCourse r space app environment count
  refine ⟨ws.map .web, by rw [hended, sent_foldl_afterWeb], fun w hw => .inr ?_⟩
  obtain ⟨v, hv, rfl⟩ := List.mem_map.mp hw
  generalize ((scaleDeployment space app environment count).eval r).1 = result at hcourse
  cases hcourse with
  | idle => cases hv
  | lookedUp hns' hbuilds =>
      obtain rfl := List.mem_singleton.mp hv
      exact ⟨_, .inl rfl, request_path hbuilds⟩
  | @named ns' name' w₁ ws _ hns' hbuilds hname' hrescale =>
      obtain rfl : ns = ns' := Option.some.inj (hns.symm.trans hns')
      obtain rfl := hname.eq_of_ok hname'
      obtain rfl | hv := List.mem_cons.mp hv
      · exact ⟨_, .inl rfl, request_path hbuilds⟩
      · cases hrescale with
        | idle => cases hv
        | read hread =>
            obtain rfl := List.mem_singleton.mp hv
            exact ⟨_, .inr (.inl rfl), request_path hread⟩
        | stored hread _ _ _ _ hstore _ _ =>
            obtain rfl | hv := List.mem_cons.mp hv
            · exact ⟨_, .inr (.inl rfl), request_path hread⟩
            · obtain rfl := List.mem_singleton.mp hv
              exact ⟨_, .inr (.inr ⟨_, rfl⟩), request_path hstore⟩

omit [Cluster σ] in
/-- A result that is wrapped up leaves behind what it did before. -/
theorem eval_wrap {α β : Type} (m : Client σ α) (f : α → β) (r : Run σ) :
    ((do return f (← m) : Client σ β).eval r).2 = (m.eval r).2 := by
  rw [eval_bind]
  rcases m.eval r with ⟨a, r₁⟩
  cases a <;> rfl

namespace Guard

/-- An operation puts its questions, and no other ones. -/
theorem sendsAsked (g : Guard) {space app environment ns name : String} {r : Run σ}
    (hns : r.session.environments.lookup environment = some ns)
    (hname : NamesConfig ns app space r name) :
    SendsAsked ns (g.Asks r.session space app ns name) g.queries r
      ((g.operation space app environment).perform.eval r).2 := by
  cases g with
  | deployment =>
      simp only [operation, Operation.perform, eval_wrap]
      exact sendsAsked_deployment hns hname
  | scale count =>
      simp only [operation, Operation.perform, eval_wrap]
      exact sendsAsked_scale hns hname
  | usage start =>
      simp only [operation, Operation.perform, eval_wrap, getUsage_eq]
      exact sendsAsked_throughCurrent (fun _ _ found => along_showUsage start ns found) hns hname
  | usageSeries start finish limit =>
      simp only [operation, Operation.perform, eval_wrap, getUsageSeries_eq]
      exact sendsAsked_throughCurrent
        (fun _ _ found => along_showUsageSeries start finish limit ns found) hns hname

end Guard

/-! ## looking at an environment -/

/-- The question for the quota of an environment. -/
def quotaQuery (ns : String) : CoreQuery := .resourceQuota ns "compute-resources"

/-- Looking at an environment that is known asks for its quota, and does nothing else. -/
theorem getEnvironment_after {environment ns : String} {r : Run σ}
    (hns : r.session.environments.lookup environment = some ns) :
    ((getEnvironment environment).eval r).2 = r.afterCore (quotaQuery ns) := by
  have hknown := eval_environmentNamespace_eq_ok_iff.mpr ⟨hns, rfl⟩
  unfold getEnvironment quota
  rw [eval_bind_of_ok hknown, eval_bind, eval_readCore]
  cases (coreResult r.session _ _ : Outcome ResourceQuota) with
  | error e => rfl
  | ok q =>
      simp only
      rw [eval_bind, eval_outcome]
      cases EnvironmentQuota.ofQuota q <;> rfl

/-- Looking at one that is not known does nothing. -/
theorem getEnvironment_after_of_unknown {environment : String} {r : Run σ}
    (hnone : r.session.environments.lookup environment = none) :
    ((getEnvironment environment).eval r).2 = r := by
  unfold getEnvironment
  rw [eval_bind, eval_environmentNamespace, hnone]

end Rollout
