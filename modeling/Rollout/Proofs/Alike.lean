import Rollout.Cluster.Recorded
import Rollout.Proofs.Isolation

/-!
# Rollout.Proofs.Alike

Clusters that differ in what a view may not depend on.

* `AlikeBut` — clusters that answer alike for ever, except that they may list other pods of a
  namespace: those that one owner controls are the same;
* `alikeBut_otherPods` — records of clusters that differ in this way;
* `Twins` — clients that differ by such clusters only;
* `SameOn` — an activity has the same result on twins, and makes twins of them again;
* `sameOn_getDeployment` — so does showing a deployment, where the owner is its current controller.
-/

namespace Rollout.Client

variable {σ α β : Type} [Cluster σ]

/-! ## clusters that answer alike -/

/-- The pods of a namespace that the owner with the given UID controls, according to an answer. -/
def controlledIn (s : Session) (ns uid : String) (reply : CoreReply) : Outcome (List Pod) :=
  (coreResult s (.pods ns none) reply : Outcome PodList).map
    fun list => owned (·.metadata) list.items uid

/-- Related clusters answer alike, and stay related.  Only the pods that they list in the namespace
may differ: the owner with the given UID controls the same ones. -/
structure AlikeBut (ns uid : String) (C : σ → σ → Prop) : Prop where
  web {c c' : σ} (w : WebRequest) : C c c' → (Cluster.web w c').1 = (Cluster.web w c).1 ∧
    C (Cluster.web w c).2 (Cluster.web w c').2
  core {c c' : σ} (q : CoreQuery) : C c c' →
    (q ≠ .pods ns none → (Cluster.core q c').1 = (Cluster.core q c).1) ∧
      C (Cluster.core q c).2 (Cluster.core q c').2
  pods {c c' : σ} (s : Session) : C c c' →
    controlledIn s ns uid (Cluster.core (.pods ns none) c').1 =
      controlledIn s ns uid (Cluster.core (.pods ns none) c).1

/-- One record of a cluster differs from another one in what it lists as the pods of a namespace
only: the owner with the given UID controls the same ones. -/
structure OtherPods (ns uid : String) (c c' : Recorded) : Prop where
  http : c'.http = c.http
  core (q : CoreQuery) : q ≠ .pods ns none → (Recorded.core q c').1 = (Recorded.core q c).1
  pods (s : Session) : controlledIn s ns uid (Recorded.core (.pods ns none) c').1 =
    controlledIn s ns uid (Recorded.core (.pods ns none) c).1

/-- The answer to a request to a URL comes from one half of a record, and leaves the other one as it
is. -/
theorem exists_recorded_web (w : WebRequest) (http : List (String × WebReply)) :
    ∃ reply http', ∀ kube, Recorded.web w ⟨kube, http⟩ = (reply, ⟨kube, http'⟩) := by
  simp only [Recorded.web]
  cases (Recorded.keys w).findSome? fun key => http.lookup key with
  | some reply => exact ⟨reply, http, fun _ => rfl⟩
  | none =>
      simp only [Recorded.missingWeb]
      cases w.call <;> exact ⟨_, _, fun _ => rfl⟩

/-- Clusters that differ in the pods of other controllers answer everything else alike. -/
theorem alikeBut_otherPods (ns uid : String) : AlikeBut ns uid (OtherPods ns uid) where
  web := by
    intro c c' w h
    obtain ⟨kube, http⟩ := c
    obtain ⟨kube', http'⟩ := c'
    obtain rfl : http' = http := h.http
    obtain ⟨reply, after, hweb⟩ := exists_recorded_web w http'
    have hfirst : Cluster.web w (⟨kube, http'⟩ : Recorded) = (reply, ⟨kube, after⟩) := hweb kube
    have hother : Cluster.web w (⟨kube', http'⟩ : Recorded) = (reply, ⟨kube', after⟩) := hweb kube'
    rw [hfirst, hother]
    exact ⟨rfl, rfl, h.core, h.pods⟩
  core q h := ⟨h.core q, h⟩
  pods s h := h.pods s

/-- Clients that differ by their clusters only. -/
structure Twins (C : σ → σ → Prop) (r r' : Run σ) : Prop where
  session : r'.session = r.session
  sent : r'.sent = r.sent
  cluster : C r.cluster r'.cluster

/-- An activity has one result on a client and its twins, and leaves twins behind. -/
def SameOn (C : σ → σ → Prop) (m : Client σ α) (r : Run σ) : Prop :=
  ∀ r', Twins C r r' → (m.eval r').1 = (m.eval r).1 ∧ Twins C (m.eval r).2 (m.eval r').2

variable {C : σ → σ → Prop} {ns uid : String}

omit [Cluster σ] in
/-- What needs no cluster has the same outcome on both. -/
theorem sameOn_outcome (a : Outcome α) (r : Run σ) : SameOn C (outcome a) r := by
  intro r' h
  rw [eval_outcome, eval_outcome]
  exact ⟨rfl, h⟩

omit [Cluster σ] in
theorem sameOn_pure (a : α) (r : Run σ) : SameOn C (pure a : Client σ α) r := fun _ h => ⟨rfl, h⟩

omit [Cluster σ] in
theorem sameOn_throw (f : Failure) (r : Run σ) : SameOn C (throw f : Client σ α) r :=
  fun _ h => ⟨rfl, h⟩

omit [Cluster σ] in
theorem sameOn_session (r : Run σ) : SameOn C (session : Client σ Session) r := by
  intro r' h
  exact ⟨congrArg Except.ok h.session, h⟩

omit [Cluster σ] in
theorem sameOn_config (r : Run σ) : SameOn C (config : Client σ ClientConfig) r := by
  intro r' h
  exact ⟨congrArg (fun s : Session => Except.ok s.config) h.session, h⟩

omit [Cluster σ] in
/-- Two activities in a row, of which the second one is the same where the first one leads. -/
theorem SameOn.bind {m : Client σ α} {f : α → Client σ β} {r : Run σ} (hm : SameOn C m r)
    (hf : ∀ a r₁, m.eval r = (.ok a, r₁) → SameOn C (f a) r₁) : SameOn C (m >>= f) r := by
  intro r' h
  obtain ⟨hresult, htwins⟩ := hm r' h
  rcases hfirst : m.eval r with ⟨result, r₁⟩
  rcases hfirst' : m.eval r' with ⟨result', r₁'⟩
  rw [hfirst, hfirst'] at hresult htwins
  obtain rfl : result' = result := hresult
  cases result' with
  | error e =>
      rw [eval_bind_of_error hfirst, eval_bind_of_error hfirst']
      exact ⟨rfl, htwins⟩
  | ok a =>
      rw [eval_bind_of_ok hfirst, eval_bind_of_ok hfirst']
      exact hf a r₁ hfirst r₁' htwins

/-! ## single requests -/

/-- Two clients that are alike stay alike when both send a request. -/
theorem Twins.afterWeb (hC : AlikeBut ns uid C) {r r' : Run σ} (h : Twins C r r')
    (w : WebRequest) : Twins C (r.afterWeb w) (r'.afterWeb w) :=
  ⟨h.session, by simp [Run.afterWeb, h.sent], (hC.web w h.cluster).2⟩

/-- So they do when both ask about core resources. -/
theorem Twins.afterCore (hC : AlikeBut ns uid C) {r r' : Run σ} (h : Twins C r r')
    (q : CoreQuery) : Twins C (r.afterCore q) (r'.afterCore q) :=
  ⟨h.session, by simp [Run.afterCore, h.sent, h.session], (hC.core q h.cluster).2⟩

/-- All questions but those for the pods of the namespace have the same answer. -/
theorem sameOn_readCore [Resource α] (hC : AlikeBut ns uid C) {q : CoreQuery}
    (hq : q ≠ .pods ns none) (r : Run σ) : SameOn C (readCore q : Client σ α) r := by
  intro r' h
  rw [eval_readCore, eval_readCore, h.session, (hC.core q h.cluster).1 hq]
  exact ⟨rfl, h.afterCore hC q⟩

/-- The pods of a controller are picked from all pods of the namespace. -/
theorem eval_controlledPods (ns uid : String) (r : Run σ) :
    (controlledPods ns uid).eval r =
      (controlledIn r.session ns uid (Cluster.core (.pods ns none) r.cluster).1,
        r.afterCore (.pods ns none)) := by
  have hread : (pods ns none).eval r = _ := eval_readCore (α := PodList) (.pods ns none) r
  unfold controlledPods controlledIn
  rw [eval_bind, hread]
  cases (coreResult r.session (.pods ns none) _ : Outcome PodList) <;> rfl

/-- The one question whose answers differ has one result, too. -/
theorem sameOn_controlledPods (hC : AlikeBut ns uid C) (r : Run σ) :
    SameOn C (controlledPods ns uid) r := by
  intro r' h
  rw [eval_controlledPods, eval_controlledPods, h.session, hC.pods r.session h.cluster]
  exact ⟨rfl, h.afterCore hC _⟩

/-- Fetching a document has the same outcome on both. -/
theorem sameOn_getResource? (hC : AlikeBut ns uid C) (path : String) (allowMissing : Bool)
    (params : Labels) (r : Run σ) : SameOn C (getResource? path allowMissing params) r := by
  intro r' h
  rw [eval_getResource?, eval_getResource?, h.session]
  cases prepared r.session path (some params) .get with
  | error e => exact ⟨rfl, h⟩
  | ok w =>
      simp only [sending]
      rw [(hC.web w h.cluster).1]
      exact ⟨rfl, h.afterWeb hC w⟩

theorem sameOn_getResource (hC : AlikeBut ns uid C) (path : String) (params : Labels) (r : Run σ) :
    SameOn C (getResource path params) r :=
  (sameOn_getResource? hC path false params r).bind fun _ _ _ => sameOn_pure _ _

/-! ## looking up a deployment -/

theorem sameOn_configNameIn (hC : AlikeBut ns uid C) (app space : String) (r : Run σ) :
    SameOn C (configNameIn ns app space) r := by
  refine (sameOn_config r).bind fun c r₁ _ => ?_
  refine SameOn.bind ?_ fun list r₂ _ => sameOn_outcome _ r₂
  exact (sameOn_getResource hC _ _ r₁).bind fun d r₂ _ => sameOn_outcome _ r₂

theorem sameOn_deploymentNamed (hC : AlikeBut ns uid C) (name space : String) (r : Run σ) :
    SameOn C (deploymentNamed ns name space) r := by
  have hconfig : SameOn C (deploymentConfig? ns name) r := by
    refine (sameOn_getResource? hC _ true [] r).bind fun found r₁ _ => ?_
    cases found with
    | none => exact sameOn_pure none r₁
    | some d => exact (sameOn_outcome _ r₁).bind fun _ r₂ _ => sameOn_pure _ r₂
  refine hconfig.bind fun found r₁ _ => ?_
  cases found with
  | none => exact sameOn_pure none r₁
  | some dc => exact (sameOn_outcome _ r₁).bind fun _ r₂ _ => sameOn_pure _ r₂

/-- Resolving a deployment does not look at pods. -/
theorem sameOn_resolve (hC : AlikeBut ns uid C) (space app : String) (r : Run σ) :
    SameOn C (resolve space app ns) r := by
  refine (sameOn_configNameIn hC app space r).bind fun name r₁ _ => ?_
  refine (sameOn_deploymentNamed hC name space r₁).bind fun found r₂ _ => ?_
  cases found with
  | none => exact sameOn_pure none r₂
  | some d =>
      refine (sameOn_readCore hC (by simp) r₂).bind fun list r₃ _ => ?_
      exact (sameOn_outcome _ r₃).bind fun current r₄ _ => sameOn_pure _ r₄

/-- The owner with the given UID is the current controller of the deployment, if there is one. -/
def IsCurrent (uid : String) (space app ns : String) (r : Run σ) : Prop :=
  ∀ d r₁ rc, (resolve space app ns).eval r = (.ok (some d), r₁) → d.current = some rc →
    rc.metadata.uid = some uid

/-- The pods of the controller itself are the same, and they are all that is picked. -/
theorem sameOn_currentDeployment (hC : AlikeBut ns uid C) {space app : String} {r : Run σ}
    (hcurrent : IsCurrent uid space app ns r) : SameOn C (currentDeployment space app ns) r := by
  refine (sameOn_resolve hC space app r).bind fun found r₁ hresolve => ?_
  rcases found with _ | d
  · exact sameOn_pure none r₁
  · simp only
    cases hrc : d.current with
    | none => exact sameOn_pure none r₁
    | some rc =>
        simp only
        cases huid : nonEmpty? rc.metadata.uid with
        | none => exact sameOn_throw _ r₁
        | some uid' =>
            obtain rfl : uid' = uid := by
              have hsame := hcurrent d r₁ rc hresolve hrc
              rw [(nonEmpty?_eq_some_iff.mp huid).1] at hsame
              exact Option.some.inj hsame
            exact (sameOn_controlledPods hC r₁).bind fun pods r₂ _ => sameOn_pure _ r₂

theorem sameOn_applicationUrl (hC : AlikeBut ns uid C) (d : Deployment) (r : Run σ) :
    SameOn C (applicationUrl ns d) r := by
  unfold applicationUrl candidates
  refine SameOn.bind ?_ fun table r₁ _ => sameOn_pure _ r₁
  cases d.current.bind (·.spec.template) with
  | none => exact sameOn_throw _ r
  | some template =>
      refine (sameOn_readCore hC (by simp) r).bind fun serviceList r₁ _ => ?_
      refine SameOn.bind ?_ fun routeList r₂ _ => sameOn_outcome _ r₂
      exact (sameOn_getResource hC _ _ r₁).bind fun d r₂ _ => sameOn_outcome _ r₂

/-- What is shown of a deployment depends on no other pods. -/
theorem sameOn_showDeployment (hC : AlikeBut ns uid C) (environment : String) (d : Deployment)
    (rc : ReplicationController) (found : List Pod) (r : Run σ) :
    SameOn C (showDeployment environment ns d rc found) r := by
  refine (sameOn_config r).bind fun c r₁ _ => (sameOn_outcome _ r₁).bind fun quota r₂ _ => ?_
  refine (sameOn_session r₂).bind fun s r₃ _ => (sameOn_outcome _ r₃).bind fun tallied r₄ _ => ?_
  refine (sameOn_outcome _ r₄).bind fun console r₅ _ => ?_
  refine (sameOn_outcome _ r₅).bind fun logs r₆ _ => ?_
  exact (sameOn_applicationUrl hC d r₆).bind fun application r₇ _ => sameOn_pure _ r₇

/-- Pods that the current controller does not control make no difference to showing a deployment:
neither to its result, whatever that is, nor to what is asked. -/
theorem sameOn_getDeployment (hC : AlikeBut ns uid C) {space app environment : String} {r : Run σ}
    (hns : r.session.environments.lookup environment = some ns)
    (hcurrent : IsCurrent uid space app ns r) :
    SameOn C (getDeployment space app environment) r := by
  rw [getDeployment_eq]
  unfold throughCurrent environmentNamespace
  refine SameOn.bind ?_ fun ns' r₁ hns' => ?_
  · refine (sameOn_session r).bind fun s r₁ _ => ?_
    cases s.environments.lookup environment with
    | none => exact sameOn_throw _ r₁
    | some ns' => exact sameOn_pure ns' r₁
  · obtain ⟨hlookup, rfl⟩ := eval_environmentNamespace_eq_ok_iff.mp hns'
    obtain rfl : ns = ns' := Option.some.inj (hns.symm.trans hlookup)
    refine (sameOn_currentDeployment hC hcurrent).bind fun current r₂ _ => ?_
    rcases current with _ | ⟨d, rc, found⟩
    · exact sameOn_pure none r₂
    · exact (sameOn_showDeployment hC environment d rc found r₂).bind fun view r₃ _ =>
        sameOn_pure _ r₃

end Rollout.Client
