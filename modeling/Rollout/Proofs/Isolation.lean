import Rollout.Proofs.Ownership
import Rollout.Proofs.Reading

/-!
# Rollout.Proofs.Isolation

Views show nothing of another space.

* `Sources` — what a view is made from: a deployment config, a controller and its pods;
* `Sources.FoundBy`, `Sources.BelongTo` — they are found by asking for the application, and belong to
  the space, each by the UID of the one before;
* `throughCurrent` — activities that go on with the current deployment, if there is one;
* `Isolated` — such an activity shows what belongs to the space, and refuses a deployment config of
  another one before it asks for anything more;
* `isolated_views` — the views of a deployment and of its usage are isolated.
-/

namespace Rollout

open Client

variable {σ α β : Type} [Cluster σ]

/-! ## what a view is made from -/

/-- What a view is made from, with what the cluster listed. -/
structure Sources where
  namespace_ : String
  name : String
  config : DeploymentConfig
  deployment : Deployment
  controllers : ControllerList
  controller : ReplicationController
  controllerUid : String
  listed : PodList

namespace Sources

/-- The pods that enter a view. -/
def pods (x : Sources) : List Pod := owned (·.metadata) x.listed.items x.controllerUid

/-- The controller is the current one of those that the deployment config controls. -/
def Selected (x : Sources) : Prop :=
  currentController (owned (·.metadata) x.controllers.items x.deployment.uid) =
    .ok (some x.controller)

/-- The sources are found by asking for an application in an environment: for its name, its
deployment config, the controllers and the pods there. -/
structure FoundBy (x : Sources) (space app environment : String) (r r' : Run σ) : Prop where
  known : r.session.environments.lookup environment = some x.namespace_
  asked : ∃ r₁ r₂ r₃, (configNameIn x.namespace_ app space).eval r = (.ok x.name, r₁) ∧
    (deploymentConfig? x.namespace_ x.name).eval r₁ = (.ok (some x.config), r₂) ∧
    (Client.controllers x.namespace_).eval r₂ = (.ok x.controllers, r₃) ∧
    (Client.pods x.namespace_ none).eval r₃ = (.ok x.listed, r')

/-- The sources belong to a space: the deployment config by its label, its controller by the UID of
the deployment config, and the pods by the UID of the controller. -/
structure BelongTo (x : Sources) (space : String) : Prop where
  space : x.config.metadata.labels.lookup "space" = some space ∧ space ≠ ""
  uid : x.config.metadata.uid = some x.deployment.uid ∧ x.deployment.uid ≠ ""
  version : x.config.metadata.labels.lookup "version" = some x.deployment.version ∧
    x.deployment.version ≠ ""
  controller : x.controller ∈ x.controllers.items ∧
    x.controller.metadata.HasController x.deployment.uid
  controllerUid : x.controller.metadata.uid = some x.controllerUid ∧ x.controllerUid ≠ ""
  pods (p : Pod) : p ∈ x.pods → p ∈ x.listed.items ∧ p.metadata.HasController x.controllerUid

end Sources

/-! ## finding them -/

/-- A deployment that is found has a deployment config of the space, and one of the controllers of
its namespace, if any. -/
theorem eval_resolve_eq_some {space app ns : String} {r r' : Run σ} {d : Deployment}
    (h : (resolve space app ns).eval r = (.ok (some d), r')) :
    ∃ name r₁ dc r₂ first list, (configNameIn ns app space).eval r = (.ok name, r₁) ∧
      (deploymentConfig? ns name).eval r₁ = (.ok (some dc), r₂) ∧
      Deployment.ofConfig dc name space = .ok first ∧
      (controllers ns).eval r₂ = (.ok list, r') ∧
      ∃ current, currentController (owned (·.metadata) list.items first.uid) = .ok current ∧
        d = { first with current } := by
  unfold resolve at h
  obtain ⟨name, r₁, hname, h⟩ := eval_bind_eq_ok_iff.mp h
  obtain ⟨found, r₂, hnamed, h⟩ := eval_bind_eq_ok_iff.mp h
  cases found with
  | none => cases h
  | some first =>
      unfold deploymentNamed at hnamed
      obtain ⟨dc?, r₂', hdc, hnamed⟩ := eval_bind_eq_ok_iff.mp hnamed
      cases dc? with
      | none => cases hnamed
      | some dc =>
          obtain ⟨first', r₂'', hfirst, hnamed⟩ := eval_bind_eq_ok_iff.mp hnamed
          obtain ⟨hconfig, rfl⟩ := eval_outcome_eq_iff.mp hfirst
          cases hnamed
          simp only at h
          obtain ⟨list, r₃, hlist, h⟩ := eval_bind_eq_ok_iff.mp h
          obtain ⟨current, r₄, hcurrent, h⟩ := eval_bind_eq_ok_iff.mp h
          obtain ⟨hlatest, rfl⟩ := eval_outcome_eq_iff.mp hcurrent
          cases h
          exact ⟨name, r₁, dc, r₂, first, list, hname, hdc, hconfig, hlist, current, hlatest, rfl⟩

/-- What a current deployment is made of: the deployment that has been resolved, its current controller,
and the pods that this one owns. -/
theorem eval_currentDeployment_eq_some {space app ns : String} {r r' : Run σ} {d : Deployment}
    {rc : ReplicationController} {found : List Pod}
    (h : (currentDeployment space app ns).eval r = (.ok (some (d, rc, found)), r')) :
    ∃ r₁ uid list, (resolve space app ns).eval r = (.ok (some d), r₁) ∧ d.current = some rc ∧
      (rc.metadata.uid = some uid ∧ uid ≠ "") ∧
      (Client.pods ns none).eval r₁ = (.ok list, r') ∧
      found = owned (·.metadata) list.items uid := by
  unfold currentDeployment at h
  obtain ⟨d?, r₁, hresolve, h⟩ := eval_bind_eq_ok_iff.mp h
  cases d? with
  | none => cases h
  | some d' =>
      simp only at h
      cases hcurrent : d'.current with
      | none =>
          rw [hcurrent] at h
          cases h
      | some rc' =>
          rw [hcurrent] at h
          simp only at h
          cases huid : nonEmpty? rc'.metadata.uid with
          | none =>
              rw [huid] at h
              cases h
          | some uid =>
              rw [huid] at h
              simp only at h
              obtain ⟨found', r₂, hpods, h⟩ := eval_bind_eq_ok_iff.mp h
              cases h
              unfold controlledPods at hpods
              obtain ⟨list, r₃, hlist, hpods⟩ := eval_bind_eq_ok_iff.mp hpods
              cases hpods
              exact ⟨r₁, uid, list, hresolve, hcurrent, nonEmpty?_eq_some_iff.mp huid, hlist, rfl⟩

/-- A current deployment is made from sources that belong to the space. -/
theorem exists_sources {space app environment ns : String} {r r' : Run σ} {d : Deployment}
    {rc : ReplicationController} {found : List Pod}
    (hns : r.session.environments.lookup environment = some ns)
    (h : (currentDeployment space app ns).eval r = (.ok (some (d, rc, found)), r')) :
    ∃ x : Sources, x.FoundBy space app environment r r' ∧ x.BelongTo space ∧ x.Selected ∧
      x.namespace_ = ns ∧ x.deployment = d ∧ x.controller = rc ∧ x.pods = found := by
  obtain ⟨r₃, uid, list, hresolve, hcurrent, huid, hlist, rfl⟩ := eval_currentDeployment_eq_some h
  obtain ⟨name, r₁, dc, r₂, first, rcs, hname, hdc, hfirst, hrcs, current, hlatest, rfl⟩ :=
    eval_resolve_eq_some hresolve
  obtain ⟨hspace, hconfigUid, hversion, -, -⟩ := Deployment.ofConfig_eq_ok_iff.mp hfirst
  obtain rfl : current = some rc := hcurrent
  have hcontroller := mem_owned_iff.mp (mem_of_currentController hlatest)
  exact ⟨⟨ns, name, dc, { first with current := some rc }, rcs, rc, uid, list⟩,
    ⟨hns, r₁, r₂, r₃, hname, hdc, hrcs, hlist⟩,
    ⟨hspace, hconfigUid, hversion, hcontroller, huid, fun p hp => mem_owned_iff.mp hp⟩,
    hlatest, rfl, rfl, rfl, rfl⟩

/-! ## going on with the current deployment -/

/-- Goes on with the current deployment of an application in an environment, if there is one. -/
def throughCurrent (space app environment : String)
    (k : String → Deployment → ReplicationController → List Pod → Client σ α) :
    Client σ (Option α) := do
  let ns ← environmentNamespace environment
  match ← currentDeployment space app ns with
  | none => return none
  | some (d, rc, found) => return some (← k ns d rc found)

/-- Where there is a result, it is made from sources that belong to the space. -/
theorem exists_sources_of_throughCurrent {space app environment : String}
    {k : String → Deployment → ReplicationController → List Pod → Client σ α} {r r' : Run σ}
    {view : α} (h : (throughCurrent space app environment k).eval r = (.ok (some view), r')) :
    ∃ (x : Sources) (r₁ : Run σ), x.FoundBy space app environment r r₁ ∧ x.BelongTo space ∧
      x.Selected ∧ (k x.namespace_ x.deployment x.controller x.pods).eval r₁ = (.ok view, r') := by
  unfold throughCurrent at h
  obtain ⟨ns, r₀, hns, h⟩ := eval_bind_eq_ok_iff.mp h
  obtain ⟨hknown, rfl⟩ := eval_environmentNamespace_eq_ok_iff.mp hns
  obtain ⟨current, r₁, hcurrent, h⟩ := eval_bind_eq_ok_iff.mp h
  rcases current with _ | ⟨d, rc, found⟩
  · cases h
  · obtain ⟨view', r₂, hview, h⟩ := eval_bind_eq_ok_iff.mp h
    cases h
    obtain ⟨x, hfound, hbelong, hselected, rfl, rfl, rfl, rfl⟩ := exists_sources hknown hcurrent
    exact ⟨x, r₁, hfound, hbelong, hselected, hview⟩

/-- Where a deployment config is looked up. -/
def configAsk (ns name : String) : Ask :=
  ⟨ApiPath.text ⟨ns, "deploymentconfigs", some name, none⟩, some [], .get⟩

/-- A deployment config is looked up by one request. -/
theorem asksOnly_deploymentConfig? (ns name : String) (r : Run σ) :
    AsksOnly (deploymentConfig? ns name) r (configAsk ns name) := by
  refine (asksOnly_getResource? _ true [] r).bind fun found r' => ?_
  cases found with
  | none => rfl
  | some d =>
      rw [eval_bind, eval_outcome]
      cases (Resource.decode d _ : Outcome DeploymentConfig) <;> rfl

/-- An activity shows what belongs to a space only: a view is made from sources that belong to the
space, and a deployment config of another space is refused after the two requests that lead to it. -/
structure Isolated (space app environment : String) (m : Client σ (Option α))
    (Shows : Sources → Run σ → α → Run σ → Prop) : Prop where
  shown {r r' : Run σ} {view : α} : m.eval r = (.ok (some view), r') →
    ∃ x r₁, x.FoundBy space app environment r r₁ ∧ x.BelongTo space ∧ Shows x r₁ view r'
  refused {r r₁ r₂ : Run σ} {ns name actual : String} {dc : DeploymentConfig} :
    r.session.environments.lookup environment = some ns →
    (configNameIn ns app space).eval r = (.ok name, r₁) →
    (deploymentConfig? ns name).eval r₁ = (.ok (some dc), r₂) →
    dc.metadata.labels.lookup "space" = some actual → actual ≠ "" → actual ≠ space →
    m.eval r = (.error (.otherSpace name actual space), r₂) ∧
      ∃ w w', (buildsAsk r.session space app).request r.session = .ok w ∧
        (configAsk ns name).request r.session = .ok w' ∧
        r₂.sent = r.sent ++ [.web w, .web w']

/-- The two requests that lead to a deployment config. -/
theorem sent_of_config {space app ns name : String} {r r₁ r₂ : Run σ} {dc : DeploymentConfig}
    (hname : (configNameIn ns app space).eval r = (.ok name, r₁))
    (hconfig : (deploymentConfig? ns name).eval r₁ = (.ok (some dc), r₂)) :
    ∃ w w', (buildsAsk r.session space app).request r.session = .ok w ∧
      (configAsk ns name).request r.session = .ok w' ∧
      r₂.sent = r.sent ++ [.web w, .web w'] := by
  obtain ⟨w, hw, rfl⟩ := (asksOnly_configNameIn ns app space r).of_ok hname
  obtain ⟨w', hw', rfl⟩ := (asksOnly_deploymentConfig? ns name (r.afterWeb w)).of_ok hconfig
  refine ⟨w, w', hw, hw', ?_⟩
  simp [Run.afterWeb]

/-- Going on with the current deployment is isolated. -/
theorem isolated_throughCurrent (space app environment : String)
    (k : String → Deployment → ReplicationController → List Pod → Client σ α) :
    Isolated space app environment (throughCurrent space app environment k)
      fun x r₁ view r' =>
        (k x.namespace_ x.deployment x.controller x.pods).eval r₁ = (.ok view, r') := by
  refine ⟨?_, ?_⟩
  case refine_1 =>
    intro r r' view h
    obtain ⟨x, r₁, hfound, hbelong, -, hview⟩ := exists_sources_of_throughCurrent h
    exact ⟨x, r₁, hfound, hbelong, hview⟩
  case refine_2 =>
    intro r r₁ r₂ ns name actual dc hns hname hconfig hlabel hactual hspace
    have hnamed : (deploymentNamed ns name space).eval r₁ =
        (.error (.otherSpace name actual space), r₂) := by
      unfold deploymentNamed
      rw [eval_bind_of_ok hconfig]
      refine eval_bind_of_error ?_
      rw [eval_outcome, Deployment.ofConfig_of_otherSpace name hlabel hactual hspace]
    have hresolve : (resolve space app ns).eval r =
        (.error (.otherSpace name actual space), r₂) := by
      unfold resolve
      rw [eval_bind_of_ok hname]
      exact eval_bind_of_error hnamed
    have hns' := eval_environmentNamespace_eq_ok_iff.mpr ⟨hns, rfl⟩
    refine ⟨?_, sent_of_config hname hconfig⟩
    unfold throughCurrent
    rw [eval_bind_of_ok hns']
    exact eval_bind_of_error (eval_bind_of_error hresolve)

/-! ## views -/

/-- Shows a deployment. -/
def showDeployment (environment ns : String) (d : Deployment) (rc : ReplicationController)
    (found : List Pod) : Client σ DeploymentView := do
  let provider := (← config).provider
  let quota ← outcome (podsQuota found)
  let (counts, total) ← outcome (tally found (← session).now)
  let console ← outcome (provider.consoleUrl ns)
  let logs ← outcome (provider.logsUrl ns (shownName rc.metadata.name))
  let application ← applicationUrl ns d
  return {
    environment, version := d.version, pods := tallyText counts, podTotal := total, quota,
    console, logs, application }

/-- Shows the usage of pods over a minute. -/
def showUsage (start : DateTime) (ns : String) (found : List Pod) : Client σ UsageView := do
  let access ← metricsAccess ns
  let sample (signal : Signal) : Client σ (Option Sample) := readSample access found ns signal start
  return ⟨← sample .cpu, ← sample .memory, ← sample .sent, ← sample .received⟩

/-- Shows the usage of pods between two moments. -/
def showUsageSeries (start finish : DateTime) (limit : Int) (ns : String) (found : List Pod) :
    Client σ UsageSeriesView := do
  let access ← metricsAccess ns
  let series (signal : Signal) : Client σ (List Sample) :=
    readSeries access found ns signal start finish limit
  let cores ← series .cpu
  let memory ← series .memory
  let sent ← series .sent
  let received ← series .received
  let (first, last) := endpoints [cores, memory]
  return ⟨cores, memory, sent, received, first, last⟩

/-- Showing a deployment goes through the current one. -/
theorem getDeployment_eq (space app environment : String) :
    (getDeployment space app environment : Client σ _) =
      throughCurrent space app environment (showDeployment environment) := by
  unfold getDeployment throughCurrent showDeployment
  refine bind_congr fun ns => bind_congr fun current => ?_
  rcases current with _ | ⟨d, rc, found⟩
  · rfl
  · simp only [bind_assoc, pure_bind]

/-- So does showing its usage. -/
theorem getUsage_eq (space app environment : String) (start : DateTime) :
    (getUsage space app environment start : Client σ _) =
      throughCurrent space app environment fun ns _ _ found => showUsage start ns found := by
  unfold getUsage throughCurrent showUsage
  refine bind_congr fun ns => bind_congr fun current => ?_
  rcases current with _ | ⟨d, rc, found⟩
  · rfl
  · simp only [bind_assoc, pure_bind]

/-- And so does showing the usage as series. -/
theorem getUsageSeries_eq (space app environment : String) (start finish : DateTime)
    (limit : Int) :
    (getUsageSeries space app environment start finish limit : Client σ _) =
      throughCurrent space app environment fun ns _ _ found =>
        showUsageSeries start finish limit ns found := by
  unfold getUsageSeries throughCurrent showUsageSeries
  refine bind_congr fun ns => bind_congr fun current => ?_
  rcases current with _ | ⟨d, rc, found⟩
  · rfl
  · simp only [bind_assoc, pure_bind]

/-- From one state to another, only queries of the usage of pods are sent. -/
def OnlyQueries (ns : String) (found : List Pod) (r r' : Run σ) : Prop :=
  ∃ ws : List WebRequest, r'.sent = r.sent ++ ws.map .web ∧ ∀ w ∈ ws, w.Queries ns found

omit [Cluster σ] in
/-- Queries of some pods only, one after the other, are such queries. -/
theorem path_onlyQueries (ns : String) (found : List Pod) :
    Path (OnlyQueries (σ := σ) ns found) where
  here r := ⟨[], by simp, by simp⟩
  onward h h' := by
    obtain ⟨ws, hws, hall⟩ := h
    obtain ⟨ws', hws', hall'⟩ := h'
    refine ⟨ws ++ ws', by rw [hws', hws, List.map_append, List.append_assoc], fun w hw => ?_⟩
    obtain hw | hw := List.mem_append.mp hw
    · exact hall w hw
    · exact hall' w hw

theorem onlyQueries_afterWeb {ns : String} {found : List Pod} (r : Run σ) (w : WebRequest)
    (h : w.Queries ns found) : OnlyQueries ns found r (r.afterWeb w) :=
  ⟨[w], rfl, by simpa using h⟩

omit [Cluster σ] in
theorem onlyQueries_metrics {ns : String} {found : List Pod} (r : Run σ)
    (entries : List (String × MetricsAccess)) :
    OnlyQueries ns found r { r with session := { r.session with metrics := entries } } :=
  ⟨[], by simp, by simp⟩

/-- What is made of steps of asking for the usage of pods sends queries of these pods only. -/
theorem onlyQueries_of_uses {ns : String} {found : List Pod} {m : Client σ α}
    (h : Uses (UsageStep ns found) m) : Along (OnlyQueries ns found) m := by
  have hR := path_onlyQueries (σ := σ) ns found
  exact h.along hR fun _ _ => along_of_usageStep hR onlyQueries_afterWeb onlyQueries_metrics

/-- Showing the usage queries the pods that have been found, and no others. -/
theorem along_showUsage (start : DateTime) (ns : String) (found : List Pod) :
    Along (OnlyQueries (σ := σ) ns found) (showUsage start ns found) := by
  refine onlyQueries_of_uses (.bind (.step (.access ns)) fun access => ?_)
  have hsample (signal : Signal) := uses_readSample (σ := σ) access found ns signal start
  exact .bind (hsample .cpu) fun _ => .bind (hsample .memory) fun _ =>
    .bind (hsample .sent) fun _ => .bind (hsample .received) fun _ => .pure _

/-- Showing it as series does not query others, either. -/
theorem along_showUsageSeries (start finish : DateTime) (limit : Int) (ns : String)
    (found : List Pod) :
    Along (OnlyQueries (σ := σ) ns found) (showUsageSeries start finish limit ns found) := by
  refine onlyQueries_of_uses (.bind (.step (.access ns)) fun access => ?_)
  have hseries (signal : Signal) :=
    uses_readSeries (σ := σ) access found ns signal start finish limit
  exact .bind (hseries .cpu) fun _ => .bind (hseries .memory) fun _ =>
    .bind (hseries .sent) fun _ => .bind (hseries .received) fun _ => .pure _

/-- A view of a deployment counts the pods of its sources, and no other ones. -/
structure DeploymentView.MadeFrom (x : Sources) (r : Run σ) (view : DeploymentView) : Prop where
  version : view.version = x.deployment.version
  quota : podsQuota x.pods = .ok view.quota
  pods : ∃ counts, tally x.pods r.session.now = .ok (counts, view.podTotal) ∧
    view.pods = tallyText counts
  logs : r.session.config.provider.logsUrl x.namespace_ (shownName x.controller.metadata.name) =
    .ok view.logs

/-- The view of a deployment is made from its sources. -/
theorem madeFrom_of_showDeployment {environment : String} {x : Sources} {r r' : Run σ}
    {view : DeploymentView}
    (h : (showDeployment environment x.namespace_ x.deployment x.controller x.pods).eval r =
      (.ok view, r')) : view.MadeFrom x r := by
  unfold showDeployment at h
  obtain ⟨c, r₁, hc, h⟩ := eval_bind_eq_ok_iff.mp h
  cases hc
  obtain ⟨quota, r₂, houtcome, h⟩ := eval_bind_eq_ok_iff.mp h
  obtain ⟨hquota, rfl⟩ := eval_outcome_eq_iff.mp houtcome
  obtain ⟨s, r₃, hs, h⟩ := eval_bind_eq_ok_iff.mp h
  cases hs
  obtain ⟨⟨counts, total⟩, r₄, houtcome, h⟩ := eval_bind_eq_ok_iff.mp h
  obtain ⟨htally, rfl⟩ := eval_outcome_eq_iff.mp houtcome
  obtain ⟨console, r₅, houtcome, h⟩ := eval_bind_eq_ok_iff.mp h
  obtain ⟨-, rfl⟩ := eval_outcome_eq_iff.mp houtcome
  obtain ⟨logs, r₆, houtcome, h⟩ := eval_bind_eq_ok_iff.mp h
  obtain ⟨hlogs, rfl⟩ := eval_outcome_eq_iff.mp houtcome
  obtain ⟨application, r₇, -, h⟩ := eval_bind_eq_ok_iff.mp h
  cases h
  exact ⟨rfl, hquota, ⟨counts, htally, rfl⟩, hlogs⟩

/-! ## isolated views -/

/-- What is shown from isolated sources may be described in another way. -/
theorem Isolated.imp {space app environment : String} {m : Client σ (Option α)}
    {Shows Shows' : Sources → Run σ → α → Run σ → Prop} (hm : Isolated space app environment m Shows)
    (h : ∀ x r view r', Shows x r view r' → Shows' x r view r') :
    Isolated space app environment m Shows' := by
  refine ⟨fun heval => ?_, hm.refused⟩
  obtain ⟨x, r₁, hfound, hbelong, hshows⟩ := hm.shown heval
  exact ⟨x, r₁, hfound, hbelong, h x r₁ _ _ hshows⟩

/-- The views of a deployment and of its usage are isolated.  A deployment is shown with the pods of
its sources; its usage is what the metrics service says about these pods. -/
theorem isolated_views (space app environment : String) :
    Isolated space app environment (getDeployment space app environment : Client σ _)
        (fun x r view _ => view.MadeFrom x r) ∧
      (∀ start, Isolated space app environment
        (getUsage space app environment start : Client σ _)
        fun x r view r' => (showUsage start x.namespace_ x.pods).eval r = (.ok view, r') ∧
          OnlyQueries x.namespace_ x.pods r r') ∧
      ∀ start finish limit, Isolated space app environment
        (getUsageSeries space app environment start finish limit : Client σ _)
        fun x r view r' =>
          (showUsageSeries start finish limit x.namespace_ x.pods).eval r = (.ok view, r') ∧
            OnlyQueries x.namespace_ x.pods r r' := by
  refine ⟨?_, fun start => ?_, fun start finish limit => ?_⟩
  · rw [getDeployment_eq]
    refine (isolated_throughCurrent _ _ _ _).imp fun x r view r' h => ?_
    exact madeFrom_of_showDeployment h
  · rw [getUsage_eq]
    refine (isolated_throughCurrent _ _ _ _).imp fun x r view r' h => ⟨h, ?_⟩
    have hqueries := along_showUsage start x.namespace_ x.pods r
    rw [h] at hqueries
    exact hqueries
  · rw [getUsageSeries_eq]
    refine (isolated_throughCurrent _ _ _ _).imp fun x r view r' h => ⟨h, ?_⟩
    have hqueries := along_showUsageSeries start finish limit x.namespace_ x.pods r
    rw [h] at hqueries
    exact hqueries

end Rollout
