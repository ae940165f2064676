import Rollout.Proofs.Confinement
import Rollout.Proofs.Namespaces
import Rollout.Proofs.Steady

/-!
# Rollout.Proofs.Mapping

The environments that a client is opened with count for good.

* `Request.Reads.addressed` — a request for resources of a namespace addresses a path below it;
* `Operation.On`, `eval_of_unlisted` — nothing is sent for an environment that is not listed;
* `KeepsTo` — what a client does with the environments that it lists;
* `Opens`, `environments_kept` — a client is opened with all environments of a config map or with
  none, and keeps to them.
-/

namespace Rollout

open Client Url

variable {σ α β : Type}

/-! ## requests below a namespace -/

/-- The path of a namespace begins with its name. -/
theorem ApiPath.isPrefix_text (p : ApiPath) :
    ("/oapi/v1/namespaces/" ++ p.namespace_ ++ "/").toList <+: p.text.toList :=
  (isPrefix_append _ _).trans ((isPrefix_append _ _).trans (isPrefix_append _ _))

/-- What a request for resources of a namespace addresses lies below it. -/
theorem Request.Reads.addressed {s : Session} {w : WebRequest} {u : ApiUse}
    (h : (Request.web w).Reads s u) (hbase : IsOrigin s.config.provider.apiBase)
    (hns : isPlainSegment u.namespace_ = true) :
    ("/oapi/v1/namespaces/" ++ u.namespace_ ++ "/").toList <+: w.target.decodedPath.toList := by
  cases h with
  | web hplain hrequest hverb =>
      obtain ⟨haddressed, -⟩ := addressed_of_request ⟨hns, hplain⟩ hbase hrequest
      rw [haddressed]
      exact ApiPath.isPrefix_text _

/-! ## environments that are not listed -/

/-- An operation on an environment: one that a check of it guards, or looking at its quota. -/
inductive Operation.On (environment : String) : Operation → Prop where
  | guarded (g : Guard) (space app : String) : On environment (g.operation space app environment)
  | quota : On environment (.environment environment)

/-- Without the namespace of its environment nothing is done. -/
theorem eval_bind_of_unlisted {environment : String} {r : Run σ}
    (hnone : r.session.environments.lookup environment = none) (f : String → Client σ α) :
    (environmentNamespace environment >>= f).eval r =
      (.error (.misconfigured (.unknownEnvironment environment)), r) := by
  rw [eval_bind, eval_environmentNamespace, hnone]

/-- A failure stays one when something was to be made of the result. -/
theorem eval_wrap_of_error {m : Client σ α} {r r' : Run σ} {e : Failure}
    (h : m.eval r = (.error e, r')) (f : α → β) :
    (do return f (← m) : Client σ β).eval r = (.error e, r') :=
  eval_bind_of_error h

variable [Cluster σ]

/-- An environment that is not listed is an error of the configuration, and nothing is sent. -/
theorem eval_of_unlisted {environment : String} {o : Operation} (ho : o.On environment) {r : Run σ}
    (hnone : r.session.environments.lookup environment = none) :
    o.perform.eval r = (.error (.misconfigured (.unknownEnvironment environment)), r) := by
  cases ho with
  | guarded g space app =>
      cases g with
      | deployment => exact eval_wrap_of_error (eval_bind_of_unlisted hnone _) _
      | scale count => exact eval_wrap_of_error (eval_bind_of_unlisted hnone _) _
      | usage start => exact eval_wrap_of_error (eval_bind_of_unlisted hnone _) _
      | usageSeries start finish limit =>
          exact eval_wrap_of_error (eval_bind_of_unlisted hnone _) _
  | quota => exact eval_wrap_of_error (eval_bind_of_unlisted hnone _) _

/-! ## environments that are listed -/

/-- What a client does with the environments that it lists. -/
structure KeepsTo (found : Labels) (r : Run σ) : Prop where
  listed : r.session.environments = found
  /-- Apart from builds of the user, operations on an environment read and write resources of its
  namespace only, as long as the builds give plain names. -/
  guarded {environment ns : String} : found.lookup environment = some ns →
    ∀ (g : Guard) (space app : String),
      (∀ name r', (configNameIn ns app space).eval r = (.ok name, r') → isPlainSegment name = true) →
      SendsOnly ns g.required g.queries r ((g.operation space app environment).perform.eval r).2
  /-- Looking at an environment reads the quota there. -/
  quota {environment ns : String} : found.lookup environment = some ns →
    ((Operation.environment environment).perform.eval r).2 = r.afterCore (quotaQuery ns)
  /-- What they address lies below a namespace that is a plain segment. -/
  addressed {w : WebRequest} {u : ApiUse} : (Request.web w).Reads r.session u →
    IsOrigin r.session.config.provider.apiBase → isPlainSegment u.namespace_ = true →
    ("/oapi/v1/namespaces/" ++ u.namespace_ ++ "/").toList <+: w.target.decodedPath.toList
  /-- Nothing is sent for an environment that is not listed. -/
  unlisted {environment : String} : found.lookup environment = none →
    ∀ o : Operation, o.On environment →
      o.perform.eval r = (.error (.misconfigured (.unknownEnvironment environment)), r)

/-- In every state a client keeps to the environments that it lists. -/
theorem keepsTo (r : Run σ) : KeepsTo r.session.environments r where
  listed := rfl
  guarded hns g space app hplain := by
    obtain ⟨name, hname, hsegment⟩ := exists_namesConfig ⟨"app", by decide +kernel⟩ hplain
    exact g.sendsOnly hns hname hsegment
  quota hns := (eval_wrap _ _ r).trans (getEnvironment_after hns)
  addressed h := h.addressed
  unlisted hnone _ ho := eval_of_unlisted ho hnone

/-! ## opening -/

/-- A client that has not been opened yet. -/
def Run.unopened (config : ClientConfig) (now : DateTime) (cluster : σ) : Run σ :=
  { session := { config, now }, cluster }

/-- A client that is about to be opened finds the config map of the environments in its cluster. -/
def Finds (config : ClientConfig) (now : DateTime) (cluster : σ) (m : ConfigMap) : Prop :=
  ((environmentsMap config.userNamespace environmentsName).eval
    (Run.unopened config now cluster)).1 = .ok m

/-- What opening a client makes of the environments that it reads: it fails with them, or they are kept
for good, whatever is done and whatever becomes of the cluster. -/
structure Opens (config : ClientConfig) (now : DateTime) (cluster : σ) (result : Outcome Labels) :
    Prop where
  fails {e : Failure} : result = .error e → openOn config now cluster = .error e
  keeps {found : Labels} : result = .ok found → ∃ r, openOn config now cluster = .ok r ∧
    ∀ steps : List (Step σ), KeepsTo found (after steps r)

/-- A client that finds the config map of the environments opens with these. -/
theorem opens_of_finds {config : ClientConfig} {now : DateTime} {cluster : σ} {m : ConfigMap}
    (h : Finds config now cluster m) :
    Opens config now cluster (environments m config.userNamespace) := by
  have hlisted : listedEnvironments config now cluster = environments m config.userNamespace := by
    unfold Finds environmentsMap at h
    rw [eval_readCore] at h
    change (coreResult { config, now } _ (Cluster.core _ cluster).1 : Outcome ConfigMap) = .ok m at h
    rw [listedEnvironments, h]
    rfl
  constructor
  case fails =>
    intro e he
    rw [openOn_eq, hlisted, he]
    rfl
  case keeps =>
    intro found hfound
    obtain ⟨r, hopen, henvironments⟩ : ∃ r, openOn config now cluster = .ok r ∧
        r.session.environments = found :=
      ⟨_, openOn_eq_ok_iff.mpr ⟨found, hlisted.trans hfound, rfl⟩, rfl⟩
    refine ⟨r, hopen, fun steps => ?_⟩
    have hkeeps := keepsTo (after steps r)
    rw [(sameSetup_after steps r).environments, henvironments] at hkeeps
    exact hkeeps

/-- Of a config map all environments are listed, or none.  A client that finds it is opened with all
of them or fails, and keeps to them whatever it is asked to do and however the cluster changes. -/
theorem environments_kept (m : ConfigMap) :
    (∀ user, AllOrNone m (environments m user)) ∧
      ∀ (config : ClientConfig) (now : DateTime) (cluster : σ), Finds config now cluster m →
        Opens config now cluster (environments m config.userNamespace) :=
  ⟨allOrNone_environments m, fun _ _ _ => opens_of_finds⟩

/-- A config map in which one environment gives two namespaces, of which the last one counts. -/
def givenTwice : ConfigMap where
  metadata := { labels := [("provider", "fabric8")] }
  data := [("run", "namespace: first\norder: 1\nnamespace:\t my-run "),
    ("stage", "namespace:my-stage")]

/-- A cluster that returns it, and that has the scale of a deployment. -/
def listingTwice : Recorded where
  kube := [("configmap my/fabric8-environments", .document (Resource.view givenTwice))]
  http := [
    ("GET /oapi/v1/namespaces/my/builds",
      .answer 200 (.document (.object [("kind", .text "BuildList"), ("items", .list [])]))),
    ("GET /oapi/v1/namespaces/my-run/deploymentconfigs/app/scale",
      .answer 200 (.document (.object [("spec", .object [("replicas", .int 2)])])))]

/-- Afterwards the cluster lists other environments. -/
def relisted : Step Recorded :=
  let other := { givenTwice with data := [("run", "namespace: elsewhere")] }
  .change (fun c => { c with kube := [("configmap my/fabric8-environments",
    .document (Resource.view other))] }) ⟨1, some 0⟩

/-- The client keeps to those that it was opened with. -/
theorem relisted_kept :
    Finds sampleConfig ⟨0, some 0⟩ listingTwice givenTwice ∧
      environments givenTwice "my" = .ok [("run", "my-run"), ("stage", "my-stage")] ∧
      ∃ r, openOn sampleConfig ⟨0, some 0⟩ listingTwice = .ok r ∧
        KeepsTo [("run", "my-run"), ("stage", "my-stage")] (after [relisted] r) ∧
        ((scaleDeployment "space" "app" "run" 3).eval
          (after [relisted] r)).2.sent.filterMap addressed? =
          [("GET", "/oapi/v1/namespaces/my/builds"),
            ("GET", "/oapi/v1/namespaces/my-run/deploymentconfigs/app/scale"),
            ("PUT", "/oapi/v1/namespaces/my-run/deploymentconfigs/app/scale")] := by
  have hfinds : Finds sampleConfig ⟨0, some 0⟩ listingTwice givenTwice :=
    Outcome.eq_ok_of_toOption (by decide +kernel)
  have hfound : environments givenTwice "my" = .ok [("run", "my-run"), ("stage", "my-stage")] :=
    Outcome.eq_ok_of_toOption (by decide +kernel)
  have hrun : (openOn sampleConfig ⟨0, some 0⟩ listingTwice).toOption.map (fun r =>
      ((scaleDeployment "space" "app" "run" 3).eval (after [relisted] r)).2.sent.filterMap
        addressed?) = some [("GET", "/oapi/v1/namespaces/my/builds"),
          ("GET", "/oapi/v1/namespaces/my-run/deploymentconfigs/app/scale"),
          ("PUT", "/oapi/v1/namespaces/my-run/deploymentconfigs/app/scale")] := by decide +kernel
  obtain ⟨r, hopen, hkeeps⟩ := ((environments_kept givenTwice).2 _ _ _ hfinds).keeps hfound
  rw [hopen] at hrun
  exact ⟨hfinds, hfound, r, hopen, hkeeps [relisted], Option.some.inj hrun⟩

end Rollout
