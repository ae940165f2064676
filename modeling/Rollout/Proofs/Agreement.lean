import Rollout.Proofs.Hierarchy

/-!
# Rollout.Proofs.Agreement

What the checks and the operations take an environment to be.

* `JudgedIn` — the checks of an environment judge it by the rules of a namespace;
* `Question.About` — a question is about a namespace;
* `Agreement` — checks and operations mean the namespace that the client lists, except that the
  checks keep one name for the user's own namespace;
* `mapped_disagreement` — for an environment of that name they differ.
-/

namespace Rollout

open Client

variable {σ : Type} [Cluster σ]

/-! ## where the checks look -/

/-- The checks of an environment judge it by the rules of a namespace. -/
structure JudgedIn (r : Run σ) (environment place : String) : Prop where
  guard (g : Guard) : (g.check environment).ask.eval r =
    (do if ← permittedIn r.session.config.userNamespace Access.builds then
          permittedIn place g.required
        else return false : Client σ Bool).eval r
  quota : (Check.environment environment).ask.eval r =
    (permittedIn place Access.environment).eval r

/-- The checks judge an environment by the rules of the namespace that they resolve it to. -/
theorem judgedIn_of_namespaceFor {r : Run σ} {environment place : String}
    (h : r.session.namespaceFor environment = .ok place) : JudgedIn r environment place where
  guard g := by
    have huser : r.session.namespaceFor userEnvironment = .ok r.session.config.userNamespace :=
      if_pos rfl
    have hsetup := (Consultation.mk r.session.config.userNamespace Access.builds r).sameSetup_after
    rw [eval_ask, g.demands_check, consult, huser, eval_bind, eval_permittedIn]
    simp only
    rcases (Consultation.mk r.session.config.userNamespace Access.builds r).answer with e | _ | _
    · rfl
    · rfl
    · simp only [if_true]
      rw [consult, hsetup.namespaceFor, h, eval_permittedIn]
      simp only
      rcases Consultation.answer _ with e | _ | _ <;> rfl
  quota := (eval_canPerform environment Access.environment r).trans (by
    rw [h, eval_permittedIn])

/-! ## where the operations look -/

/-- A question is about a namespace: it asks for core resources there, or for a path below it. -/
inductive Client.Question.About (ns : String) : Question → Prop where
  | core {q : CoreQuery} : q.use.namespace_ = ns → About ns (.core q)
  | path {p : ApiPath} {params : Option Labels} {call : Call} : p.namespace_ = ns →
    About ns (.path ⟨p.text, params, call⟩)

/-- Apart from the builds, an operation asks about one namespace. -/
theorem Guard.about {g : Guard} {s : Session} {space app ns name : String} {q : Question}
    (h : g.Asks s space app ns name q) : q = .path (buildsAsk s space app) ∨ q.About ns := by
  have hcurrent (h : q ∈ currentQuestions s space app ns name) :
      q = .path (buildsAsk s space app) ∨ q.About ns := by
    simp only [currentQuestions, List.mem_cons, List.not_mem_nil, or_false] at h
    obtain rfl | rfl | rfl | rfl := h
    · exact .inl rfl
    · exact .inr (.path rfl)
    · exact .inr (.core rfl)
    · exact .inr (.core rfl)
  cases g with
  | deployment =>
      obtain h | h := List.mem_append.mp h
      · exact hcurrent h
      · simp only [List.mem_cons, List.not_mem_nil, or_false] at h
        obtain rfl | rfl := h
        · exact .inr (.core rfl)
        · exact .inr (.path rfl)
  | scale count =>
      obtain rfl | rfl | ⟨body, rfl⟩ := h
      · exact .inl rfl
      · exact .inr (.path rfl)
      · exact .inr (.path rfl)
  | usage start => exact hcurrent h
  | usageSeries start finish limit => exact hcurrent h

/-- Apart from the builds, the requests of an operation are about the namespace of its environment. -/
theorem Guard.sendsAbout (g : Guard) {space app environment ns : String} {r : Run σ}
    (hns : r.session.environments.lookup environment = some ns) :
    SendsAsked ns (fun q => q = .path (buildsAsk r.session space app) ∨ q.About ns) g.queries r
      ((g.operation space app environment).perform.eval r).2 := by
  obtain ⟨name, hname, -⟩ : ∃ name, NamesConfig ns app space r name ∧ True :=
    exists_namesConfig ⟨"", trivial⟩ fun _ _ _ => trivial
  exact (g.sendsAsked hns hname).mono fun q hq => g.about hq

/-! ## both together -/

/-- What the checks and the operations take an environment to be. -/
structure Agreement (r : Run σ) (environment ns : String) : Prop where
  /-- The client knows the namespace of the environment. -/
  known : (environmentNamespace environment).eval r = (.ok ns, r)
  /-- The checks judge the environment by the rules there, … -/
  judged : environment ≠ userEnvironment → JudgedIn r environment ns
  /-- … unless it has the name that they keep for the user's own namespace. -/
  reserved : environment = userEnvironment →
    JudgedIn r environment r.session.config.userNamespace
  /-- The operations look at builds, and at this namespace. -/
  accessed (g : Guard) (space app : String) :
    SendsAsked ns (fun q => q = .path (buildsAsk r.session space app) ∨ q.About ns) g.queries r
      ((g.operation space app environment).perform.eval r).2
  quota : ((Operation.environment environment).perform.eval r).2 = r.afterCore (quotaQuery ns)
  /-- Who may look at applications may look at their deployments in the environment. -/
  application {r₁ : Run σ} : environment ≠ userEnvironment →
    Check.application.ask.eval r = (.ok true, r₁) → ∀ steps : List (Step σ),
      (Check.deployment environment).ask.eval (after steps r₁) = (.ok true, after steps r₁)

/-- In every state of a client, for every environment that it lists. -/
theorem agreement {r : Run σ} {environment ns : String}
    (hns : r.session.environments.lookup environment = some ns) : Agreement r environment ns where
  known := eval_environmentNamespace_eq_ok_iff.mpr ⟨hns, rfl⟩
  judged hother := judgedIn_of_namespaceFor (by
    rw [Session.namespaceFor, if_neg hother, hns])
  reserved huser := judgedIn_of_namespaceFor (if_pos huser)
  accessed g space app := g.sendsAbout hns
  quota := (eval_wrap _ _ r).trans (getEnvironment_after hns)
  application hother hyes := (within_application (mem_of_lookup hns) hother).ever_after hyes

/-- A client that lists an environment under the name that the checks keep for the user's own
namespace.  There its user may look at builds and quotas, in another environment at deployments. -/
def mapped : Run Recorded := { permitted with
  session := { permitted.session with environments := [("user", "other"), ("run", "my-run")] }
  cluster := ⟨[], [
    ("POST /oapi/v1/namespaces/my/selfsubjectrulesreviews",
      permitted.review [("builds", ["list"]), ("resourcequotas", ["list"])]),
    ("POST /oapi/v1/namespaces/other/selfsubjectrulesreviews", permitted.review []),
    ("POST /oapi/v1/namespaces/my-run/selfsubjectrulesreviews",
      permitted.review [("deploymentconfigs", ["get"]), ("replicationcontrollers", ["list"]),
        ("pods", ["list"]), ("services", ["list"]), ("routes", ["list"])])]⟩ }

/-- The client knows one environment of either kind: under the name that is kept, and under another. -/
theorem mapped_agreement : Agreement mapped "user" "other" ∧ Agreement mapped "run" "my-run" :=
  ⟨agreement rfl, agreement rfl⟩

/-- The checks do not judge the environment by the rules of its namespace, and they do not permit to
look at deployments there although they permit it of applications. -/
theorem mapped_disagreement :
    (environmentNamespace "user").eval mapped = (.ok "other", mapped) ∧
      ¬ JudgedIn mapped "user" "other" ∧
      ∃ r₁, Check.application.ask.eval mapped = (.ok true, r₁) ∧
        ((Check.deployment "user").ask.eval r₁).1 = .ok false := by
  refine ⟨eval_environmentNamespace_eq_ok_iff.mpr ⟨rfl, rfl⟩, fun hjudged => ?_, ?_⟩
  · have hyes : ((Check.environment "user").ask.eval mapped).1.toOption = some true := by
      decide +kernel
    have hno : ((permittedIn "other" Access.environment).eval mapped).1.toOption = some false := by
      decide +kernel
    rw [hjudged.quota, hno] at hyes
    cases hyes
  · have hrun : (Check.application.ask.eval mapped).map Except.toOption
        (fun r₁ => ((Check.deployment "user").ask.eval r₁).1.toOption) =
          (some true, some false) := by decide +kernel
    obtain ⟨r₁, hyes, hno⟩ := exists_eval hrun
    exact ⟨r₁, hyes, Outcome.eq_ok_of_toOption hno⟩

end Rollout
