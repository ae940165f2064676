import Rollout.Proofs.Alike
import Rollout.Proofs.Health
import Rollout.Proofs.Questions

/-!
# Rollout.Proofs.DeploymentView

Showing the deployment of an application, from the first request to the view.

* `NotRolledOut` — an application has no deployment config, or none of its controllers has been
  listed; `eval_currentDeployment_eq_none_iff` — then, and only then, it has no current deployment;
* `DeploymentView.Describes` — what a view says about its sources;
* `EndToEnd`, `getDeployment_endToEnd` — what is asked, when there is nothing to show, what is shown
  otherwise, and what makes no difference.
-/

namespace Rollout

open Client

variable {σ : Type} [Cluster σ]

/-! ## what has not been rolled out -/

/-- An absent resource that may be absent is the one that is answered with the status 404. -/
theorem webResult_eq_none_iff {s : Session} {path : String} {w : WebRequest} {reply : WebReply} :
    webResult s path w true reply = .ok none ↔ ∃ content, reply = .answer 404 content := by
  cases reply with
  | broken detail => simp [webResult]
  | answer status content =>
      by_cases hmissing : status = 404
      · simp [webResult, hmissing]
      · by_cases hgood : 200 ≤ status ∧ status < 300
        · simp [webResult, hmissing, hgood]
        · simp [webResult, hmissing, hgood]

/-- There is no document if and only if there is no answer. -/
theorem yamlOf_eq_none_iff {answer : Option Answer} : yamlOf answer = .ok none ↔ answer = none := by
  cases answer with
  | none => simp [yamlOf]
  | some a => cases h : a.yaml <;> simp [yamlOf, h, Except.map]

/-- A resource that may be absent is, where the request for it is answered with the status 404. -/
theorem eval_getResource?_eq_none_iff {path : String} {params : Labels} {r r' : Run σ} :
    (getResource? path true params).eval r = (.ok none, r') ↔
      ∃ w content, (Ask.mk path (some params) .get).request r.session = .ok w ∧
        (Cluster.web w r.cluster).1 = .answer 404 content ∧ r' = r.afterWeb w := by
  rw [eval_getResource?]
  unfold Ask.request
  cases prepared r.session path (some params) .get with
  | error e => simp [sending]
  | ok w =>
      have hresult : (webResult r.session path w true (Cluster.web w r.cluster).1).bind yamlOf =
          .ok none ↔ ∃ content, (Cluster.web w r.cluster).1 = .answer 404 content := by
        rw [← webResult_eq_none_iff]
        constructor
        · intro h
          obtain ⟨answer, hanswer, hnone⟩ := Outcome.bind_eq_ok_iff.mp h
          rw [hanswer, yamlOf_eq_none_iff.mp hnone]
        · intro h
          rw [h]
          rfl
      simp only [sending, Prod.mk.injEq, hresult, Except.ok.injEq]
      constructor
      · rintro ⟨⟨content, h⟩, rfl⟩
        exact ⟨w, content, rfl, h, rfl⟩
      · rintro ⟨_, content, rfl, h, rfl⟩
        exact ⟨⟨content, h⟩, rfl⟩

/-- There is no deployment config if its path is answered with 404. -/
theorem eval_deploymentConfig?_eq_none_iff {ns name : String} {r r' : Run σ} :
    (deploymentConfig? ns name).eval r = (.ok none, r') ↔
      ∃ w content, (configAsk ns name).request r.session = .ok w ∧
        (Cluster.web w r.cluster).1 = .answer 404 content ∧ r' = r.afterWeb w := by
  unfold configAsk
  rw [← eval_getResource?_eq_none_iff]
  unfold deploymentConfig?
  constructor
  · intro h
    obtain ⟨found, r₁, hget, h⟩ := eval_bind_eq_ok_iff.mp h
    cases found with
    | none =>
        cases h
        exact hget
    | some d =>
        obtain ⟨dc, r₂, -, h⟩ := eval_bind_eq_ok_iff.mp h
        cases h
  · intro h
    rw [eval_bind_of_ok h]
    rfl

/-- Several controllers have a current one, if it can be told which. -/
theorem currentController_eq_none_iff {rcs : List ReplicationController} :
    currentController rcs = .ok none ↔ rcs = [] := by
  cases rcs with
  | nil => simp [currentController]
  | cons rc rest =>
      rw [currentController, Outcome.bind_eq_ok_iff]
      simp [pure, Except.pure]

/-- Nothing is owned by a UID that no item has as its controller. -/
theorem owned_eq_nil_iff {α : Type} {metadata : α → Metadata} {items : List α} {uid : String} :
    owned metadata items uid = [] ↔ ∀ a ∈ items, ¬ (metadata a).HasController uid := by
  simp [owned, List.filter_eq_nil_iff, ← Metadata.controlledBy_iff]

/-- A deployment config is one of a space, with a UID and a version. -/
structure DeploymentConfig.IsOf (dc : DeploymentConfig) (space uid version : String) : Prop where
  space : dc.metadata.labels.lookup "space" = some space ∧ space ≠ ""
  uid : dc.metadata.uid = some uid ∧ uid ≠ ""
  version : dc.metadata.labels.lookup "version" = some version ∧ version ≠ ""

/-- A config belongs to a space under a version and a UID if a deployment is read from it. -/
theorem DeploymentConfig.isOf_iff {dc : DeploymentConfig} {config space uid version : String} :
    dc.IsOf space uid version ↔
      Deployment.ofConfig dc config space = .ok { config, uid, version } := by
  rw [Deployment.ofConfig_eq_ok_iff]
  constructor
  · intro h
    exact ⟨h.space, h.uid, h.version, rfl, rfl⟩
  · rintro ⟨hspace, huid, hversion, -, -⟩
    exact ⟨hspace, huid, hversion⟩

/-- An application has not been rolled out in a namespace: after these questions, its deployment
config is missing, or it is one of the space and controls none of the controllers that are listed. -/
inductive NotRolledOut (space app ns : String) (r : Run σ) : List Question → Run σ → Prop where
  | missing {name : String} {r₁ : Run σ} {w : WebRequest} {content : Content} :
      (configNameIn ns app space).eval r = (.ok name, r₁) →
      (configAsk ns name).request r₁.session = .ok w →
      (Cluster.web w r₁.cluster).1 = .answer 404 content →
      NotRolledOut space app ns r [.path (buildsAsk r.session space app), .path (configAsk ns name)]
        (r₁.afterWeb w)
  | idle {name uid version : String} {r₁ r₂ r₃ : Run σ} {dc : DeploymentConfig}
      {list : ControllerList} :
      (configNameIn ns app space).eval r = (.ok name, r₁) →
      (deploymentConfig? ns name).eval r₁ = (.ok (some dc), r₂) →
      dc.IsOf space uid version →
      (controllers ns).eval r₂ = (.ok list, r₃) →
      (∀ rc ∈ list.items, ¬ rc.metadata.HasController uid) →
      NotRolledOut space app ns r [.path (buildsAsk r.session space app), .path (configAsk ns name),
        .core (.controllers ns)] r₃

/-- These questions have been put then, and no other ones. -/
theorem NotRolledOut.asked {space app ns : String} {r r' : Run σ} {questions : List Question}
    (h : NotRolledOut space app ns r questions r') : Asked questions r r' := by
  cases h with
  | @missing name r₁ w content hname hrequest hmissing =>
      have hconfig := eval_deploymentConfig?_eq_none_iff.mpr ⟨w, content, hrequest, hmissing, rfl⟩
      have hbuilds := (asks_configNameIn ns app space r).all hname
      exact hbuilds.append ((asksOnly_deploymentConfig? ns name r₁).asks.all hconfig)
  | @idle name uid version r₁ r₂ _ dc list hname hconfig hof hlist hidle =>
      have hbuilds := (asks_configNameIn ns app space r).all hname
      have hfound := (asksOnly_deploymentConfig? ns name r₁).asks.all hconfig
      exact (hbuilds.append hfound).append ((asks_controllers ns r₂).all hlist)

/-- There is no deployment of an application where its deployment config is missing. -/
theorem eval_resolve_eq_none_iff {space app ns : String} {r r' : Run σ} :
    (resolve space app ns).eval r = (.ok none, r') ↔
      ∃ name r₁, (configNameIn ns app space).eval r = (.ok name, r₁) ∧
        (deploymentConfig? ns name).eval r₁ = (.ok none, r') := by
  unfold resolve
  constructor
  · intro h
    obtain ⟨name, r₁, hname, h⟩ := eval_bind_eq_ok_iff.mp h
    obtain ⟨d?, r₂, hnamed, h⟩ := eval_bind_eq_ok_iff.mp h
    unfold deploymentNamed at hnamed
    obtain ⟨dc?, r₃, hconfig, hnamed⟩ := eval_bind_eq_ok_iff.mp hnamed
    cases d? with
    | none =>
        cases h
        cases dc? with
        | none =>
            cases hnamed
            exact ⟨name, r₁, hname, hconfig⟩
        | some dc =>
            obtain ⟨d, r₄, -, hnamed⟩ := eval_bind_eq_ok_iff.mp hnamed
            cases hnamed
    | some d =>
        obtain ⟨list, r₄, -, h⟩ := eval_bind_eq_ok_iff.mp h
        obtain ⟨current, r₅, -, h⟩ := eval_bind_eq_ok_iff.mp h
        cases h
  · rintro ⟨name, r₁, hname, hconfig⟩
    have hnamed : (deploymentNamed ns name space).eval r₁ = (.ok none, r') := by
      unfold deploymentNamed
      rw [eval_bind_of_ok hconfig]
      rfl
    rw [eval_bind_of_ok hname, eval_bind_of_ok hnamed]
    rfl

/-- A deployment without a current controller is one whose deployment config controls none. -/
theorem eval_resolve_eq_some_of_idle {space app ns name uid version : String} {r r₁ r₂ r₃ : Run σ}
    {dc : DeploymentConfig} {list : ControllerList}
    (hname : (configNameIn ns app space).eval r = (.ok name, r₁))
    (hconfig : (deploymentConfig? ns name).eval r₁ = (.ok (some dc), r₂))
    (hof : dc.IsOf space uid version) (hlist : (controllers ns).eval r₂ = (.ok list, r₃))
    (hidle : ∀ rc ∈ list.items, ¬ rc.metadata.HasController uid) :
    (resolve space app ns).eval r = (.ok (some { config := name, uid, version }), r₃) := by
  have hcurrent : currentController (owned (·.metadata) list.items uid) = .ok none :=
    currentController_eq_none_iff.mpr (owned_eq_nil_iff.mpr hidle)
  have hnamed : (deploymentNamed ns name space).eval r₁ =
      (.ok (some { config := name, uid, version }), r₂) := by
    unfold deploymentNamed
    rw [eval_bind_of_ok hconfig]
    simp only [eval_bind, eval_outcome, DeploymentConfig.isOf_iff.mp hof]
    rfl
  unfold resolve
  rw [eval_bind_of_ok hname, eval_bind_of_ok hnamed]
  simp only
  rw [eval_bind_of_ok hlist, eval_bind, eval_outcome, hcurrent]
  rfl

/-- There is no current deployment of an application where it has not been rolled out. -/
theorem eval_currentDeployment_eq_none_iff {space app ns : String} {r r' : Run σ} :
    (currentDeployment space app ns).eval r = (.ok none, r') ↔
      ∃ questions, NotRolledOut space app ns r questions r' := by
  unfold currentDeployment
  constructor
  · intro h
    obtain ⟨d?, r₁, hresolve, h⟩ := eval_bind_eq_ok_iff.mp h
    cases d? with
    | none =>
        cases h
        obtain ⟨name, r₁, hname, hconfig⟩ := eval_resolve_eq_none_iff.mp hresolve
        obtain ⟨w, content, hrequest, hmissing, rfl⟩ := eval_deploymentConfig?_eq_none_iff.mp hconfig
        exact ⟨_, .missing hname hrequest hmissing⟩
    | some d =>
        simp only at h
        cases hd : d.current with
        | some rc =>
            simp only [hd] at h
            cases huid : nonEmpty? rc.metadata.uid with
            | none =>
                simp only [huid] at h
                cases h
            | some uid =>
                simp only [huid] at h
                obtain ⟨found, r₂, -, h⟩ := eval_bind_eq_ok_iff.mp h
                cases h
        | none =>
            simp only [hd] at h
            cases h
            obtain ⟨name, r₁, dc, r₂, first, list, hname, hconfig, hof, hlist, current, hcurrent, rfl⟩ :=
              eval_resolve_eq_some hresolve
            obtain ⟨hspace, huid, hversion, -⟩ := Deployment.ofConfig_eq_ok_iff.mp hof
            obtain rfl : current = none := hd
            exact ⟨_, .idle hname hconfig ⟨hspace, huid, hversion⟩ hlist
              (owned_eq_nil_iff.mp (currentController_eq_none_iff.mp hcurrent))⟩
  · rintro ⟨questions, h⟩
    cases h with
    | @missing name r₁ w content hname hrequest hmissing =>
        have hconfig := eval_deploymentConfig?_eq_none_iff.mpr ⟨w, content, hrequest, hmissing, rfl⟩
        rw [eval_bind_of_ok (eval_resolve_eq_none_iff.mpr ⟨name, r₁, hname, hconfig⟩)]
        rfl
    | idle hname hconfig hof hlist hidle =>
        rw [eval_bind_of_ok (eval_resolve_eq_some_of_idle hname hconfig hof hlist hidle)]
        rfl

/-! ## what is shown -/

/-- A view says how the pods of its sources are: it counts those that have not failed, by the words
for their states, and sums up the limits of all of them. -/
structure DeploymentView.Describes (view : DeploymentView) (x : Sources) (now : DateTime) : Prop where
  version : x.config.metadata.labels.lookup "version" = some view.version
  total : view.podTotal = x.listed.items.countP fun p =>
    p.metadata.controlledBy x.controllerUid && p.status.phase ≠ some "Failed"
  pods : ∃ words, (countedPods x.pods).mapM (·.category now) = .ok words ∧
    view.pods = tallyText (tallied words)
  quota : ∃ limits, (x.pods.flatMap (·.spec.containers)).mapM Container.limit = .ok limits ∧
    view.quota = limits.foldl PodsQuota.plus ⟨.zero, .zero⟩

/-- The pods that are counted are those of the controller that have not failed. -/
theorem Sources.length_countedPods (x : Sources) :
    (countedPods x.pods).length = x.listed.items.countP fun p =>
      p.metadata.controlledBy x.controllerUid && p.status.phase ≠ some "Failed" := by
  rw [List.countP_eq_length_filter, countedPods, pods, owned, List.filter_filter]
  simp only [Bool.and_comm]

omit [Cluster σ] in
/-- A view that is made from sources describes them. -/
theorem describes_of_madeFrom {x : Sources} {space : String} {r : Run σ} {view : DeploymentView}
    (hbelong : x.BelongTo space) (h : view.MadeFrom x r) : view.Describes x r.session.now := by
  obtain ⟨counts, htally, hpods⟩ := h.pods
  obtain ⟨words, hwords, -, hcounts⟩ := tally_eq_ok_iff.mp htally
  refine ⟨?_, ?_, ⟨words, hwords, ?_⟩, podsQuota_eq_ok_iff.mp h.quota⟩
  · rw [h.version]
    exact hbelong.version.1
  · rw [total_of_tally htally, x.length_countedPods]
  · rw [hpods, hcounts]

/-- Finding sources leaves what the client remembers as it was. -/
theorem Sources.FoundBy.session {x : Sources} {space app environment : String} {r r' : Run σ}
    (h : x.FoundBy space app environment r r') : r'.session = r.session := by
  obtain ⟨r₁, r₂, r₃, hname, hconfig, hcontrollers, hpods⟩ := h.asked
  have hnamed := ((asks_configNameIn x.namespace_ app space r).all hname).session
  have hfound := ((asksOnly_deploymentConfig? x.namespace_ x.name r₁).asks.all hconfig).session
  have hlisted := ((asks_controllers x.namespace_ r₂).all hcontrollers).session
  have hended := ((asks_pods x.namespace_ r₃).all hpods).session
  rw [hended, hlisted, hfound, hnamed]

/-! ## from end to end -/

/-- Showing the deployment of an application in an environment.  It asks for the builds, the
deployment config, the controllers, the pods, the services and the routes, in this order, as far as
it gets.  There is nothing to show exactly where the application has not been rolled out.  A view
describes the pods of the current controller, and the other pods that are listed make no
difference. -/
structure EndToEnd (space app environment ns : String) (r : Run σ) : Prop where
  asks : ∃ name, NamesConfig ns app space r name ∧
    AsksUpTo (getDeployment space app environment) r (deploymentQuestions r.session space app ns name)
  nothing {r' : Run σ} : (getDeployment space app environment).eval r = (.ok none, r') ↔
    ∃ questions, NotRolledOut space app ns r questions r' ∧ Asked questions r r'
  shown {view : DeploymentView} {r' : Run σ} :
    (getDeployment space app environment).eval r = (.ok (some view), r') →
      ∃ (x : Sources) (r₁ : Run σ), x.FoundBy space app environment r r₁ ∧ x.BelongTo space ∧
        x.Selected ∧ x.namespace_ = ns ∧ view.Describes x r.session.now
  unaffected {uid : String} {C : σ → σ → Prop} : AlikeBut ns uid C → IsCurrent uid space app ns r →
    SameOn C (getDeployment space app environment) r

/-- Nothing is shown if and only if there is no current deployment. -/
theorem eval_throughCurrent_eq_none_iff {α : Type} {space app environment ns : String}
    {k : String → Deployment → ReplicationController → List Pod → Client σ α} {r r' : Run σ}
    (hns : r.session.environments.lookup environment = some ns) :
    (throughCurrent space app environment k).eval r = (.ok none, r') ↔
      (currentDeployment space app ns).eval r = (.ok none, r') := by
  have hknown := eval_environmentNamespace_eq_ok_iff.mpr ⟨hns, rfl⟩
  unfold throughCurrent
  rw [eval_bind_of_ok hknown]
  constructor
  · intro h
    obtain ⟨current, r₁, hcurrent, h⟩ := eval_bind_eq_ok_iff.mp h
    rcases current with _ | ⟨d, rc, found⟩
    · cases h
      exact hcurrent
    · obtain ⟨view, r₂, -, h⟩ := eval_bind_eq_ok_iff.mp h
      cases h
  · intro h
    rw [eval_bind_of_ok h]
    rfl

/-- Showing a deployment in an environment that the client knows: what is asked, when there is nothing
to show, and what the view says of the pods, the quota and the links. -/
theorem getDeployment_endToEnd {space app environment ns : String} {r : Run σ}
    (hns : r.session.environments.lookup environment = some ns) :
    EndToEnd space app environment ns r where
  asks := by
    obtain ⟨name, hname, -⟩ : ∃ name, NamesConfig ns app space r name ∧ True :=
      exists_namesConfig ⟨"", trivial⟩ fun _ _ _ => trivial
    exact ⟨name, hname, asksUpTo_getDeployment hns hname⟩
  nothing := by
    intro r'
    rw [getDeployment_eq, eval_throughCurrent_eq_none_iff hns, eval_currentDeployment_eq_none_iff]
    constructor
    · rintro ⟨questions, h⟩
      exact ⟨questions, h, h.asked⟩
    · rintro ⟨questions, h, -⟩
      exact ⟨questions, h⟩
  shown := by
    intro view r' h
    rw [getDeployment_eq] at h
    obtain ⟨x, r₁, hfound, hbelong, hselected, hview⟩ := exists_sources_of_throughCurrent h
    have hns' : x.namespace_ = ns := Option.some.inj (hfound.known.symm.trans hns)
    have hdescribes := describes_of_madeFrom hbelong (madeFrom_of_showDeployment hview)
    rw [hfound.session] at hdescribes
    exact ⟨x, r₁, hfound, hbelong, hselected, hns', hdescribes⟩
  unaffected hC hcurrent := sameOn_getDeployment hC hns hcurrent

/-- A client of a cluster with one deployment. Its controller has a pod that runs and one that has
failed; a third pod is controlled by another one. -/
def rolledOut : Run Recorded where
  session := ⟨⟨.cluster "https://api.a.b" "t" "https://api.a.b" "t", "my", none, true, 1⟩, ⟨0, some 0⟩,
    [("run", "my-run")], [], [], false⟩
  cluster := ⟨[
    ("replicationcontrollers my-run", .document (.object [("items", .list [
      .object [("metadata", .object [("name", .text "app-1"), ("uid", .text "rc"), owner "dc"]),
        ("spec", .object [("template", .object [])])]])])),
    ("pods my-run", .document (.object [("items", .list [
      pod "rc" "Running", pod "rc" "Failed", pod "other" "Running"])]))], [
    ("GET /oapi/v1/namespaces/my/builds",
      .answer 200 (.document (.object [("kind", .text "BuildList"), ("items", .list [])]))),
    ("GET /oapi/v1/namespaces/my-run/deploymentconfigs/app",
      .answer 200 (.document (.object [("kind", .text "DeploymentConfig"),
        ("metadata", .object [("uid", .text "dc"), ("labels",
          .object [("space", .text "space"), ("version", .text "1.0")])])]))),
    ("GET /oapi/v1/namespaces/my-run/routes",
      .answer 200 (.document (.object [("kind", .text "RouteList"), ("items", .list [])])))]⟩
where
  owner (uid : String) : String × Document :=
    ("ownerReferences", .list [.object [("uid", .text uid), ("controller", .bool true)]])
  pod (uid phase : String) : Document :=
    .object [("metadata", .object [owner uid]), ("status", .object [("phase", .text phase)])]

/-- One pod is counted; the third one may be missing or be another one. -/
theorem rolledOut_endToEnd :
    rolledOut.session.environments.lookup "run" = some "my-run" ∧
      EndToEnd "space" "app" "run" "my-run" rolledOut ∧
      (((getDeployment "space" "app" "run").eval rolledOut).1.toOption.map fun view? =>
        view?.map fun view => (view.version, view.pods, view.podTotal)) =
          some (some ("1.0", [("Running", "1")], 1)) ∧
      AlikeBut "my-run" "rc" (OtherPods "my-run" "rc") ∧
      IsCurrent "rc" "space" "app" "my-run" rolledOut := by
  refine ⟨rfl, getDeployment_endToEnd rfl, by decide +kernel, alikeBut_otherPods _ _, ?_⟩
  intro d r₁ rc hresolve hcurrent
  have huid : (((resolve "space" "app" "my-run").eval rolledOut).1.toOption.map fun d? =>
      d?.bind fun d => d.current.bind (·.metadata.uid)) = some (some "rc") := by decide +kernel
  rw [hresolve] at huid
  simpa [Except.toOption, hcurrent] using huid

end Rollout
