import Rollout.Proofs.Isolation
import Rollout.Proofs.Outcomes

/-!
# Rollout.Proofs.Questions

What an activity asks, in which order, and how far it gets.

* `Question` — something that a client asks, about core resources or under a path;
* `Asked` — from one state to another, questions have been put, and nothing else has happened to the
  client;
* `AsksUpTo` — an activity puts the first ones of a list of questions; `Asks` — all of them if it has
  a result;
* `AsksUpTo.bind` — one activity after another;
* `asksUpTo_currentDeployment`, `asksUpTo_getDeployment` — the questions of looking up a deployment.
-/

namespace Rollout.Client

variable {σ α β : Type}

/-! ## questions -/

/-- Something that a client asks a cluster: about core resources, or under a path. -/
inductive Question where
  | core (query : CoreQuery)
  | path (ask : Ask)

/-- The request that puts a question, or why none can be sent. -/
def Question.request (s : Session) : Question → Outcome Request
  | core q => .ok (.core q s.config.timeout)
  | path a => (a.request s).map .web

/-- The requests that put questions, one after the other. -/
def requestsOf (s : Session) (questions : List Question) : Outcome (List Request) :=
  questions.mapM (·.request s)

/-- The requests for some questions are followed by those for the others. -/
theorem requestsOf_append {s : Session} {earlier later : List Question}
    {first rest : List Request} (hfirst : requestsOf s earlier = .ok first)
    (hrest : requestsOf s later = .ok rest) :
    requestsOf s (earlier ++ later) = .ok (first ++ rest) := by
  unfold requestsOf at *
  rw [List.mapM_append, hfirst, hrest]
  rfl

/-- A request among those that put questions puts one of them. -/
theorem exists_of_mem_requestsOf {s : Session} {questions : List Question}
    {requests : List Request} (h : requestsOf s questions = .ok requests) {w : Request}
    (hw : w ∈ requests) : ∃ q ∈ questions, q.request s = .ok w :=
  Outcome.exists_of_mem_mapM h hw

/-! ## putting them -/

/-- From one state to another, questions have been put in their order, and what the client remembers
is as before. -/
structure Asked (questions : List Question) (r r' : Run σ) : Prop where
  session : r'.session = r.session
  sent : ∃ requests, requestsOf r.session questions = .ok requests ∧ r'.sent = r.sent ++ requests

theorem asked_nil (r : Run σ) : Asked [] r r := ⟨rfl, [], rfl, by simp⟩

/-- Some questions are asked, and then others. -/
theorem Asked.append {earlier later : List Question} {r r₁ r₂ : Run σ}
    (h : Asked earlier r r₁) (h' : Asked later r₁ r₂) : Asked (earlier ++ later) r r₂ := by
  obtain ⟨hsession, first, hfirst, hsent⟩ := h
  obtain ⟨hsession', rest, hrest, hsent'⟩ := h'
  rw [hsession] at hrest
  refine ⟨hsession'.trans hsession, first ++ rest, requestsOf_append hfirst hrest, ?_⟩
  rw [hsent', hsent, List.append_assoc]

/-- An activity puts the first ones of the questions, and no other ones. -/
def AsksUpTo (m : Client σ α) (r : Run σ) (questions : List Question) : Prop :=
  ∃ k, Asked (questions.take k) r (m.eval r).2

/-- An activity puts the questions in their order.  It may end early, but then it has no result. -/
structure Asks (m : Client σ α) (r : Run σ) (questions : List Question) : Prop where
  upTo : AsksUpTo m r questions
  all {a : α} {r' : Run σ} : m.eval r = (.ok a, r') → Asked questions r r'

/-- What leaves everything as it is asks nothing. -/
theorem AsksUpTo.of_still {m : Client σ α} {r : Run σ} (h : (m.eval r).2 = r)
    (questions : List Question) : AsksUpTo m r questions := by
  refine ⟨0, ?_⟩
  rw [h]
  exact asked_nil r

/-- What asks up to some questions asks up to more of them. -/
theorem AsksUpTo.more {m : Client σ α} {r : Run σ} {questions : List Question}
    (h : AsksUpTo m r questions) (others : List Question) :
    AsksUpTo m r (questions ++ others) := by
  obtain ⟨k, hk⟩ := h
  refine ⟨min k questions.length, ?_⟩
  rw [List.take_append_of_le_length (Nat.min_le_right _ _), ← List.take_eq_take_min]
  exact hk

/-- An activity that is followed by another one.  Where the other one asks something, too, the first
one must have put all of its questions. -/
theorem AsksUpTo.bind {m : Client σ α} {f : α → Client σ β} {r : Run σ}
    {earlier later : List Question} (hm : AsksUpTo m r earlier)
    (hf : ∀ a r', m.eval r = (.ok a, r') →
      ((f a).eval r').2 = r' ∨ Asked earlier r r' ∧ AsksUpTo (f a) r' later) :
    AsksUpTo (m >>= f) r (earlier ++ later) := by
  rcases hfirst : m.eval r with ⟨result, r₁⟩
  cases result with
  | error e =>
      have hend : ((m >>= f).eval r).2 = (m.eval r).2 := by
        rw [eval_bind_of_error hfirst, hfirst]
      unfold AsksUpTo at hm
      rw [← hend] at hm
      exact AsksUpTo.more hm later
  | ok a =>
      rw [AsksUpTo, eval_bind_of_ok hfirst]
      obtain hstill | ⟨hall, k, hk⟩ := hf a r₁ hfirst
      · have hupTo : AsksUpTo m r (earlier ++ later) := hm.more later
        rwa [AsksUpTo, hfirst, ← hstill] at hupTo
      · refine ⟨earlier.length + k, ?_⟩
        rw [List.take_length_add_append]
        exact hall.append hk

/-- After an activity that puts all of its questions, another one goes on. -/
theorem Asks.bind {m : Client σ α} {f : α → Client σ β} {r : Run σ}
    {earlier later : List Question} (hm : Asks m r earlier)
    (hf : ∀ a r', m.eval r = (.ok a, r') → AsksUpTo (f a) r' later) :
    AsksUpTo (m >>= f) r (earlier ++ later) :=
  hm.upTo.bind fun a r' h => .inr ⟨hm.all h, hf a r' h⟩

/-- What follows without asking anything changes nothing about the questions. -/
theorem AsksUpTo.bind_still {m : Client σ α} {f : α → Client σ β} {r : Run σ}
    {questions : List Question} (hm : AsksUpTo m r questions)
    (hf : ∀ a r', ((f a).eval r').2 = r') : AsksUpTo (m >>= f) r questions := by
  have hbind : AsksUpTo (m >>= f) r (questions ++ []) :=
    hm.bind fun a r' _ => .inl (hf a r')
  rwa [List.append_nil] at hbind

/-- Working on an answer asks nothing. -/
theorem Asks.bind_still {m : Client σ α} {f : α → Client σ β} {r : Run σ}
    {questions : List Question} (hm : Asks m r questions)
    (hf : ∀ a r', ((f a).eval r').2 = r') : Asks (m >>= f) r questions := by
  refine ⟨hm.upTo.bind_still hf, fun h => ?_⟩
  obtain ⟨a, r₁, hfirst, hrest⟩ := eval_bind_eq_ok_iff.mp h
  have hend := hf a r₁
  rw [hrest] at hend
  cases hend
  exact hm.all hfirst

theorem Asks.of_still {m : Client σ α} {r : Run σ} (h : (m.eval r).2 = r) : Asks m r [] := by
  refine ⟨.of_still h [], fun heval => ?_⟩
  rw [heval] at h
  cases h
  exact asked_nil _

variable [Cluster σ]

theorem asks_readCore [Resource α] (q : CoreQuery) (r : Run σ) :
    Asks (readCore q : Client σ α) r [.core q] := by
  have hasked : Asked [.core q] r (r.afterCore q) := ⟨rfl, _, rfl, rfl⟩
  refine ⟨⟨1, ?_⟩, fun h => ?_⟩
  · rw [eval_readCore]
    exact hasked
  · rw [eval_readCore] at h
    obtain ⟨-, rfl⟩ := Prod.mk.inj h
    exact hasked

theorem AsksOnly.asks {m : Client σ α} {r : Run σ} {a : Ask} (h : AsksOnly m r a) :
    Asks m r [.path a] := by
  obtain ⟨e, heval⟩ | ⟨w, hw, hafter⟩ := h.sent_or_not
  · refine ⟨.of_still (by rw [heval]) _, fun hok => ?_⟩
    rw [heval] at hok
    cases hok
  · have hasked : Asked [.path a] r (m.eval r).2 := by
      rw [hafter]
      refine ⟨rfl, [.web w], ?_, rfl⟩
      rw [requestsOf, List.mapM_cons, Question.request, hw]
      rfl
    refine ⟨⟨1, hasked⟩, fun hok => ?_⟩
    rw [hok] at hasked
    exact hasked

/-! ## looking up a deployment -/

/-- All that looking up the current deployment of an application may ask, in order. -/
def currentQuestions (s : Session) (space app ns name : String) : List Question :=
  [.path (buildsAsk s space app), .path (configAsk ns name), .core (.controllers ns),
    .core (.pods ns none)]

/-- Where the routes of a namespace are looked up. -/
def routesAsk (ns : String) : Ask := ⟨ApiPath.text ⟨ns, "routes", none, none⟩, some [], .get⟩

/-- All that showing a deployment may ask, in order. -/
def deploymentQuestions (s : Session) (space app ns name : String) : List Question :=
  currentQuestions s space app ns name ++ [.core (.services ns), .path (routesAsk ns)]

/-- A name is the one that the builds give to the deployment config, if they give one. -/
def NamesConfig (ns app space : String) (r : Run σ) (name : String) : Prop :=
  ∀ found r₁, (configNameIn ns app space).eval r = (.ok found, r₁) → found = name

/-- The name that is found is the one that the builds give. -/
theorem NamesConfig.eq_of_ok {ns app space name found : String} {r : Run σ}
    (h : NamesConfig ns app space r name)
    (hfound : ((configNameIn ns app space).eval r).1 = .ok found) : found = name := by
  rcases heval : (configNameIn ns app space).eval r with ⟨result, r₁⟩
  rw [heval] at hfound
  obtain rfl : result = .ok found := hfound
  exact h found r₁ heval

/-- Where the builds can only give names of a kind, there is one that they give, if they give one. -/
theorem exists_namesConfig {ns app space : String} {r : Run σ} {p : String → Prop}
    (hsome : ∃ name, p name)
    (h : ∀ found r₁, (configNameIn ns app space).eval r = (.ok found, r₁) → p found) :
    ∃ name, NamesConfig ns app space r name ∧ p name := by
  rcases heval : (configNameIn ns app space).eval r with ⟨result, r₁⟩
  cases result with
  | error e =>
      obtain ⟨name, hname⟩ := hsome
      refine ⟨name, fun found r₂ hfound => ?_, hname⟩
      rw [heval] at hfound
      cases hfound
  | ok name =>
      refine ⟨name, fun found r₂ hfound => ?_, h name r₁ heval⟩
      rw [heval] at hfound
      cases hfound
      rfl

theorem asks_configNameIn (ns app space : String) (r : Run σ) :
    Asks (configNameIn ns app space) r [.path (buildsAsk r.session space app)] :=
  (asksOnly_configNameIn ns app space r).asks

theorem asksOnly_deploymentNamed (ns name space : String) (r : Run σ) :
    AsksOnly (deploymentNamed ns name space) r (configAsk ns name) := by
  refine (asksOnly_deploymentConfig? ns name r).bind fun found r' => ?_
  cases found with
  | none => rfl
  | some dc =>
      rw [eval_bind, eval_outcome]
      cases Deployment.ofConfig dc name space <;> rfl

theorem asks_controllers (ns : String) (r : Run σ) :
    Asks (controllers ns) r [.core (.controllers ns)] := asks_readCore _ r

theorem asks_pods (ns : String) (r : Run σ) :
    Asks (pods ns none) r [.core (.pods ns none)] := asks_readCore _ r

theorem asks_controlledPods (ns uid : String) (r : Run σ) :
    Asks (controlledPods ns uid) r [.core (.pods ns none)] :=
  (asks_pods ns r).bind_still fun _ _ => rfl

theorem asksOnly_routes (ns : String) (r : Run σ) : AsksOnly (routes ns none) r (routesAsk ns) :=
  (asksOnly_getResource _ _ r).bind fun _ _ => outcome_after _ _

/-- Resolving a deployment asks for the builds, the config and the controllers, until something is
missing. -/
theorem asksUpTo_resolve {space app ns name : String} {r : Run σ}
    (hname : NamesConfig ns app space r name) :
    AsksUpTo (resolve space app ns) r [.path (buildsAsk r.session space app),
      .path (configAsk ns name), .core (.controllers ns)] := by
  unfold resolve
  refine (asks_configNameIn ns app space r).bind fun found r₁ hfound => ?_
  obtain rfl := hname found r₁ hfound
  refine (asksOnly_deploymentNamed ns found space r₁).asks.bind fun d? r₂ _ => ?_
  cases d? with
  | none => exact .of_still rfl _
  | some d =>
      refine (asks_controllers ns r₂).bind fun list r₃ _ => .of_still ?_ []
      rw [eval_bind, eval_outcome]
      cases currentController _ <;> rfl

/-- A deployment that is found has been asked for completely. -/
theorem asked_of_resolve {space app ns name : String} {r r' : Run σ} {d : Deployment}
    (hname : NamesConfig ns app space r name)
    (h : (resolve space app ns).eval r = (.ok (some d), r')) :
    Asked [.path (buildsAsk r.session space app), .path (configAsk ns name),
      .core (.controllers ns)] r r' := by
  obtain ⟨found, r₁, dc, r₂, first, list, hfound, hdc, -, hlist, -⟩ := eval_resolve_eq_some h
  obtain rfl := hname found r₁ hfound
  have hbuilds := (asks_configNameIn ns app space r).all hfound
  have hconfig := (asksOnly_deploymentConfig? ns found r₁).asks.all hdc
  have hcontrollers := (asks_controllers ns r₂).all hlist
  exact (hbuilds.append hconfig).append hcontrollers

/-- Finding the current deployment asks for the pods last. -/
theorem asksUpTo_currentDeployment {space app ns name : String} {r : Run σ}
    (hname : NamesConfig ns app space r name) :
    AsksUpTo (currentDeployment space app ns) r
      (currentQuestions r.session space app ns name) := by
  unfold currentDeployment
  refine (asksUpTo_resolve hname).bind fun d? r₁ h => ?_
  rcases d? with _ | d
  · exact .inl rfl
  · have hall := asked_of_resolve hname h
    simp only
    cases d.current with
    | none => exact .inl rfl
    | some rc =>
        simp only
        cases nonEmpty? rc.metadata.uid with
        | none => exact .inl rfl
        | some uid =>
            exact .inr ⟨hall, (asks_controlledPods ns uid r₁).upTo.bind_still fun _ _ => rfl⟩

/-- The pods of a deployment that is found have been asked for, too. -/
theorem asked_of_currentDeployment {space app ns name : String} {r r' : Run σ} {d : Deployment}
    {rc : ReplicationController} {found : List Pod} (hname : NamesConfig ns app space r name)
    (h : (currentDeployment space app ns).eval r = (.ok (some (d, rc, found)), r')) :
    Asked (currentQuestions r.session space app ns name) r r' := by
  obtain ⟨r₁, uid, list, hresolve, -, -, hlist, -⟩ := eval_currentDeployment_eq_some h
  exact (asked_of_resolve hname hresolve).append ((asks_pods ns r₁).all hlist)

/-- Going on with the current deployment puts the questions of looking it up, and then those that
follow. -/
theorem asksUpTo_throughCurrent {space app environment ns name : String} {r : Run σ}
    {k : String → Deployment → ReplicationController → List Pod → Client σ α}
    {later : List Question} (hns : r.session.environments.lookup environment = some ns)
    (hname : NamesConfig ns app space r name)
    (hk : ∀ d rc found r', AsksUpTo (k ns d rc found) r' later) :
    AsksUpTo (throughCurrent space app environment k) r
      (currentQuestions r.session space app ns name ++ later) := by
  have heval := eval_environmentNamespace_eq_ok_iff.mpr ⟨hns, rfl⟩
  unfold throughCurrent
  rw [AsksUpTo, eval_bind_of_ok heval]
  refine (asksUpTo_currentDeployment hname).bind fun current r₁ h => ?_
  rcases current with _ | ⟨d, rc, found⟩
  · exact .inl rfl
  · exact .inr ⟨asked_of_currentDeployment hname h, (hk d rc found r₁).bind_still fun _ _ => rfl⟩

/-- The URL of an application takes the services and the routes. -/
theorem asksUpTo_applicationUrl (ns : String) (d : Deployment) (r : Run σ) :
    AsksUpTo (applicationUrl ns d) r [.core (.services ns), .path (routesAsk ns)] := by
  unfold applicationUrl candidates
  cases d.current.bind (·.spec.template) with
  | none => exact .of_still rfl _
  | some template =>
      refine AsksUpTo.bind_still ?_ fun _ _ => rfl
      refine (asks_readCore (.services ns) r).bind fun serviceList r₁ _ => ?_
      exact (asksOnly_routes ns r₁).asks.upTo.bind_still fun _ _ => outcome_after _ _

/-- Before it asks for services and routes, showing a deployment asks nothing. -/
theorem asksUpTo_showDeployment (environment ns : String) (d : Deployment)
    (rc : ReplicationController) (found : List Pod) (r : Run σ) :
    AsksUpTo (showDeployment environment ns d rc found) r
      [.core (.services ns), .path (routesAsk ns)] := by
  unfold showDeployment
  refine (Asks.of_still rfl).bind fun c r₁ _ => ?_
  refine (Asks.of_still (outcome_after _ r₁)).bind fun quota r₂ _ => ?_
  refine (Asks.of_still rfl).bind fun s r₃ _ => ?_
  refine (Asks.of_still (outcome_after _ r₃)).bind fun tallied r₄ _ => ?_
  refine (Asks.of_still (outcome_after _ r₄)).bind fun console r₅ _ => ?_
  refine (Asks.of_still (outcome_after _ r₅)).bind fun logs r₆ _ => ?_
  exact (asksUpTo_applicationUrl ns d r₆).bind_still fun _ _ => rfl

/-- Showing a deployment puts its questions in their order, as far as it gets. -/
theorem asksUpTo_getDeployment {space app environment ns name : String} {r : Run σ}
    (hns : r.session.environments.lookup environment = some ns)
    (hname : NamesConfig ns app space r name) :
    AsksUpTo (getDeployment space app environment) r
      (deploymentQuestions r.session space app ns name) := by
  rw [getDeployment_eq]
  exact asksUpTo_throughCurrent hns hname fun d rc found r' =>
    asksUpTo_showDeployment environment ns d rc found r'

end Rollout.Client
