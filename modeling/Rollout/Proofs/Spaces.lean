import Rollout.Proofs.Isolation
import Rollout.Proofs.Outcomes
import Rollout.Proofs.Scaling
import Rollout.Proofs.Writing

/-!
# Rollout.Proofs.Spaces

Scaling asks nobody to which space a deployment config belongs.

* `refusal?`, `Unrefused` — refusing a deployment config for its space, and activities that never do;
* `unrefused_scaleDeployment` — scaling is one of them;
* `scaleDeployment_stores` — it stores every scale that it can read;
* `CrossesSpaces`, `scaleDeployment_crossesSpaces` — a deployment config of another space, which is
  not shown, is scaled.
-/

namespace Rollout

open Client

/-! ## refusals -/

variable {α β : Type}

/-- The name of a deployment config, its space and the one that was expected, where the reason for a
failure is that they differ. -/
def refusal? : Outcome α → Option (String × String × String)
  | .error (.otherSpace config actual expected) => some (config, actual, expected)
  | _ => none

/-- It does not matter what the computation was to result in. -/
theorem refusal?_error (e : Failure) :
    refusal? (.error e : Outcome α) = refusal? (.error e : Outcome β) := by
  cases e <;> rfl

/-- Two steps that do not refuse a space do not do so in a row. -/
theorem refusal?_bind {a : Outcome α} {f : α → Outcome β} (ha : refusal? a = none)
    (hf : ∀ x, refusal? (f x) = none) : refusal? (a >>= f) = none := by
  cases a with
  | ok x => exact hf x
  | error e => exact (refusal?_error e).trans ha

theorem refusal?_ite {p : Prop} [Decidable p] {a b : Outcome α} (ha : refusal? a = none)
    (hb : refusal? b = none) : refusal? (if p then a else b) = none := by
  split
  · exact ha
  · exact hb

/-- A scan of such steps refuses none, either. -/
theorem refusal?_foldlM {f : β → α → Outcome β} (hf : ∀ b a, refusal? (f b a) = none)
    (items : List α) (first : β) : refusal? (items.foldlM f first) = none := by
  induction items generalizing first with
  | nil => rfl
  | cons a rest ih =>
      rw [List.foldlM_cons]
      exact refusal?_bind (hf first a) ih

theorem refusal?_ofFault (cause : Malformed) (fault : Yaml.Fault) :
    refusal? (.error (.ofFault cause fault) : Outcome α) = none := by
  cases fault <;> rfl

/-- Reading a document as a resource refuses no space. -/
theorem refusal?_decode [Resource α] (d : Document) (what : String) :
    refusal? (Resource.decode d what : Outcome α) = none := by
  unfold Resource.decode
  refine refusal?_ite rfl ?_
  cases (Resource.read? d : Option α) <;> rfl

theorem refusal?_yaml (a : Answer) : refusal? a.yaml = none := by
  have hmapping (d : Document) : refusal? (if d.isMap then .ok d
      else .error (.malformed (.notMapping a.url d.kindWord)) : Outcome Document) = none :=
    refusal?_ite rfl rfl
  unfold Answer.yaml
  cases a.content with
  | document d => exact hmapping d
  | text s =>
      simp only
      cases Yaml.document s with
      | ok d => exact hmapping d
      | error fault => exact refusal?_ofFault _ fault

theorem refusal?_written (n : Int) : refusal? (written n) = none := refusal?_ite rfl rfl

/-- Looking for the latest build refuses no space. -/
theorem refusal?_latestBuild (builds : List Build) : refusal? (latestBuild builds) = none := by
  unfold latestBuild
  simp only
  split
  · rfl
  · refine refusal?_bind (refusal?_foldlM (fun latest next => ?_) _ _) fun _ => rfl
    split <;> rfl

/-- Nor does looking for a name in its record. -/
theorem refusal?_configNamed (record : String) : refusal? (configNamed record) = none := by
  have hfirst (d : Document) : refusal? (firstName d) = none := by
    unfold firstName
    split <;> rfl
  unfold configNamed
  cases Yaml.document record with
  | error fault => exact refusal?_ofFault _ fault
  | ok d =>
      refine refusal?_ite rfl (refusal?_ite ?_ rfl)
      cases d.get? servicesKey with
      | none => rfl
      | some versions => exact hfirst versions

/-- The annotations of builds may say anything. -/
theorem refusal?_configName (builds : List Build) (ns app : String) :
    refusal? (configName builds ns app) = none := by
  unfold configName
  refine refusal?_bind (refusal?_latestBuild builds) fun build? => ?_
  cases build? with
  | none => rfl
  | some build =>
      simp only
      cases build.metadata.annotations.lookup (annotationFor ns) with
      | none => rfl
      | some record =>
          have hnamed := refusal?_configNamed record
          simp only
          cases hresult : configNamed record with
          | ok name => rfl
          | error e =>
              rw [hresult] at hnamed
              cases e with
              | malformed cause => rfl
              | _ => exact (refusal?_error _).trans hnamed

/-! ## activities that never refuse -/

variable {σ : Type}

/-- An activity never refuses a deployment config for its space. -/
def Unrefused (m : Client σ α) : Prop := ∀ r, refusal? (m.eval r).1 = none

theorem unrefused_outcome {a : Outcome α} (h : refusal? a = none) :
    Unrefused (outcome a : Client σ α) := by
  intro r
  rw [eval_outcome]
  exact h

/-- What follows on an activity that does not refuse a space may not do so either. -/
theorem Unrefused.bind {m : Client σ α} {f : α → Client σ β} (hm : Unrefused m)
    (hf : ∀ a, Unrefused (f a)) : Unrefused (m >>= f) := by
  intro r
  have hfirst := hm r
  rw [eval_bind]
  rcases heval : m.eval r with ⟨result, r₁⟩
  rw [heval] at hfirst
  cases result with
  | ok a => exact hf a r₁
  | error e => exact (refusal?_error e).trans hfirst

theorem unrefused_environmentNamespace (environment : String) :
    Unrefused (environmentNamespace environment : Client σ String) := by
  intro r
  rw [eval_environmentNamespace]
  cases r.session.environments.lookup environment <;> rfl

variable [Cluster σ]

/-- Sending a request refuses no space. -/
theorem unrefused_send (path : String) (params : Option Labels) (call : Call)
    (allowMissing : Bool) :
    Unrefused (send path params call allowMissing : Client σ (Option Answer)) := by
  have hresult (s : Session) (w : WebRequest) (reply : WebReply) :
      refusal? (webResult s path w allowMissing reply) = none := by
    cases reply with
    | broken detail => rfl
    | answer status content => exact refusal?_ite rfl (refusal?_ite rfl rfl)
  have hprepared (s : Session) : refusal? (prepared s path params call) = none := by
    cases hrequest : prepared s path params call with
    | ok w => rfl
    | error e =>
        obtain rfl | rfl | rfl | ⟨-, rfl | rfl⟩ := prepared_eq_error hrequest <;> rfl
  intro r
  have hrequest := hprepared r.session
  rw [eval_send]
  cases hw : prepared r.session path params call with
  | ok w => exact hresult r.session w _
  | error e =>
      rw [hw] at hrequest
      exact (refusal?_error e).trans hrequest

/-- Nor does fetching a document. -/
theorem unrefused_getResource (path : String) (params : Labels) :
    Unrefused (getResource path params : Client σ Document) := by
  refine Unrefused.bind ?_ fun _ _ => rfl
  refine (unrefused_send path (some params) .get false).bind fun answer => ?_
  cases answer with
  | none => exact fun _ => rfl
  | some a => exact (unrefused_outcome (refusal?_yaml a)).bind fun _ _ => rfl

/-- Nor does storing one. -/
theorem unrefused_putResource (path : String) (body : Document) :
    Unrefused (putResource path body : Client σ (Option Document)) := by
  refine (unrefused_send path none (.put body.inKeyOrder) false).bind fun answer => ?_
  cases answer with
  | none => exact fun _ => rfl
  | some a =>
      simp only
      by_cases hempty : a.isEmpty = true
      · rw [if_pos hempty]
        exact fun _ => rfl
      · rw [if_neg hempty]
        exact (unrefused_outcome (refusal?_yaml a)).bind fun _ _ => rfl

/-- Scaling never refuses a deployment config for its space. -/
theorem unrefused_scaleDeployment (space app environment : String) (count : Int) :
    Unrefused (scaleDeployment space app environment count : Client σ Int) := by
  refine (unrefused_environmentNamespace environment).bind fun ns => ?_
  refine Unrefused.bind ?_ fun name => (unrefused_getResource _ _).bind fun d => ?_
  · refine Unrefused.bind (fun _ => rfl) fun c => ?_
    refine Unrefused.bind ?_ fun list => unrefused_outcome (refusal?_configName _ _ _)
    exact (unrefused_getResource _ _).bind fun d => unrefused_outcome (refusal?_decode d _)
  · refine (unrefused_outcome (refusal?_decode d _)).bind fun scale => ?_
    cases d.set? "spec" "replicas" (.int count) with
    | none => exact fun _ => rfl
    | some changed =>
        exact (unrefused_putResource _ _).bind fun _ => unrefused_outcome (refusal?_written _)

/-! ## what is stored -/

/-- A number of pods can be set in every document whose specification is a map. -/
theorem exists_set? {d spec : Document} (hspec : d.get? "spec" = some spec)
    (hmap : spec.isMap = true) (value : Document) :
    ∃ changed, d.set? "spec" "replicas" value = some changed := by
  unfold Document.set?
  cases spec with
  | map mark inside =>
      rw [hspec]
      cases mark with
      | some m => cases d <;> exact ⟨_, rfl⟩
      | none =>
          cases d with
          | map mark' entries => exact ⟨_, rfl⟩
          | _ => cases hspec
  | _ => cases hmap

omit [Cluster σ] in
/-- Where a document can be asked for, another one can be stored, if it can be written. -/
theorem exists_store_request {s : Session} {ns name : String} {w : WebRequest} {body : Document}
    (hbody : body.fault? = none) (h : (readScaleAsk ns name).request s = .ok w) :
    ∃ w', (storeScaleAsk ns name body).request s = .ok w' := by
  obtain ⟨plain, hplain, rfl, hwritable, hclosed, -⟩ := prepared_eq_ok_iff.mp h
  exact ⟨_, prepared_eq_ok_iff.mpr ⟨plain, hplain, rfl, hwritable, hclosed, rfl, hbody⟩⟩

/-- A scale is stored if it can be written.  Otherwise nothing is sent. -/
theorem eval_putScale_of_fault {ns name : String} {d : Document} {e : Failure}
    (h : d.inKeyOrder.fault? = some e) (r : Run σ) : (putScale ns name d).eval r = (.error e, r) := by
  have hprepared : prepared r.session (scalePath ns name).text none (.put d.inKeyOrder) = .error e :=
    prepared_of_fault h
  unfold putScale
  rw [eval_putResource, hprepared]
  rfl

/-- What scaling makes of a scale that it can read.  The builds and the scale have been looked up, and
the number of pods is set; the scale is stored if it can be written, and otherwise scaling fails. -/
structure Stores (space app environment ns name : String) (count : Int) (r : Run σ)
    (changed : Document) (w w' : WebRequest) : Prop where
  named : (buildsAsk r.session space app).request r.session = .ok w
  read : (readScaleAsk ns name).request r.session = .ok w'
  stored : changed.inKeyOrder.fault? = none →
    ∃ w'', (storeScaleAsk ns name changed.inKeyOrder).request r.session = .ok w'' ∧
      ((scaleDeployment space app environment count).eval r).2.sent =
        r.sent ++ [.web w, .web w', .web w'']
  unwritten {e : Failure} : changed.inKeyOrder.fault? = some e →
    ((scaleDeployment space app environment count).eval r).1 = .error e ∧
      ((scaleDeployment space app environment count).eval r).2.sent = r.sent ++ [.web w, .web w']

/-- Scaling stores every scale that it can read, with the number of pods set in it. -/
theorem scaleDeployment_stores {space app environment ns name : String} {count : Int}
    {r r₁ r₂ : Run σ} {d spec : Document} {replicas : Option Int}
    (hns : r.session.environments.lookup environment = some ns)
    (hname : (configNameIn ns app space).eval r = (.ok name, r₁))
    (hread : (scaleDocument ns name).eval r₁ = (.ok d, r₂))
    (hspec : d.get? "spec" = some spec) (hmap : spec.isMap = true)
    (hreplicas : replicasOf? spec = some replicas) :
    ∃ changed w w', d.set? "spec" "replicas" (.int count) = some changed ∧
      Stores space app environment ns name count r changed w w' := by
  obtain ⟨changed, hset⟩ := exists_set? hspec hmap (.int count)
  obtain ⟨w, hw, rfl⟩ := (asksOnly_configNameIn ns app space r).of_ok hname
  obtain ⟨w', hw', rfl⟩ := (asksOnly_scaleDocument ns name (r.afterWeb w)).of_ok hread
  have hknown := eval_environmentNamespace_eq_ok_iff.mpr ⟨hns, rfl⟩
  have heval : (scaleDeployment space app environment count).eval r =
      (putScale ns name changed >>= fun _ => outcome (written (replicas.getD 0))).eval
        ((r.afterWeb w).afterWeb w') := by
    rw [scaleDeployment_eq, eval_bind_of_ok hknown, eval_bind_of_ok hname, rescale,
      eval_bind_of_ok hread, storeCount_eq hspec hmap hreplicas hset]
  refine ⟨changed, w, w', hset, hw, hw', fun hfits => ?_, fun hfault => ?_⟩
  · obtain ⟨w'', hw''⟩ := exists_store_request hfits hw'
    have hput := ((asksOnly_putScale ns name changed ((r.afterWeb w).afterWeb w')).bind
      fun _ r' => outcome_after (written (replicas.getD 0)) r').after
    have hrequest : (storeScaleAsk ns name changed.inKeyOrder).request
        ((r.afterWeb w).afterWeb w').session = .ok w'' := hw''
    rw [hrequest, Run.afterTrying_ok] at hput
    refine ⟨w'', hw'', ?_⟩
    rw [heval, hput]
    simp [Run.afterWeb]
  · rw [heval, eval_bind_of_error (eval_putScale_of_fault hfault _)]
    simp [Run.afterWeb]

/-! ## other spaces -/

/-- A deployment config belongs to another space than the one on whose behalf it is looked up. It is
not shown, but it is scaled: whatever happens, scaling does not refuse it for its space, and a scale
that can be read is stored with the number of pods that is asked for, if that can be written. -/
structure CrossesSpaces (space app environment ns name actual : String) (count : Int)
    (r r₁ r₂ : Run σ) : Prop where
  shown : (getDeployment space app environment).eval r = (.error (.otherSpace name actual space), r₂)
  scaled : refusal? ((scaleDeployment space app environment count).eval r).1 = none
  stored {d spec : Document} {replicas : Option Int} {r₃ : Run σ} :
    (scaleDocument ns name).eval r₁ = (.ok d, r₃) → d.get? "spec" = some spec →
    spec.isMap = true → replicasOf? spec = some replicas →
    ∃ changed w w', d.set? "spec" "replicas" (.int count) = some changed ∧
      Stores space app environment ns name count r changed w w'

/-- Scaling does not stop at the deployment configs of other spaces, where showing them does. -/
theorem scaleDeployment_crossesSpaces {space app environment ns name actual : String} (count : Int)
    {r r₁ r₂ : Run σ} {dc : DeploymentConfig}
    (hns : r.session.environments.lookup environment = some ns)
    (hname : (configNameIn ns app space).eval r = (.ok name, r₁))
    (hconfig : (deploymentConfig? ns name).eval r₁ = (.ok (some dc), r₂))
    (hlabel : dc.metadata.labels.lookup "space" = some actual) (hactual : actual ≠ "")
    (hother : actual ≠ space) :
    CrossesSpaces space app environment ns name actual count r r₁ r₂ where
  shown := by
    rw [getDeployment_eq]
    exact ((isolated_throughCurrent space app environment _).refused hns hname hconfig hlabel
      hactual hother).1
  scaled := unrefused_scaleDeployment space app environment count r
  stored hread hspec hmap hreplicas :=
    scaleDeployment_stores hns hname hread hspec hmap hreplicas

/-- A client of a cluster in which the deployment config `app` belongs to another space, and no
build says anything about it. -/
def neighbour : Run Recorded where
  session := ⟨⟨.cluster "https://api.a.b" "t" "https://api.a.b" "t", "my", none, true, 1⟩, ⟨0, some 0⟩,
    [("run", "my-run")], [], [], false⟩
  cluster := ⟨[], [
    ("GET /oapi/v1/namespaces/my/builds",
      .answer 200 (.document (.object [("kind", .text "BuildList"), ("items", .list [])]))),
    ("GET /oapi/v1/namespaces/my-run/deploymentconfigs/app",
      .answer 200 (.document (.object [("kind", .text "DeploymentConfig"), ("metadata",
        .object [("uid", .text "dc"), ("labels",
          .object [("space", .text "other"), ("version", .text "1.0")])])]))),
    ("GET /oapi/v1/namespaces/my-run/deploymentconfigs/app/scale",
      .answer 200 (.document (.object [("spec", .object [("replicas", .int 2)])])))]⟩

/-- The client scales the application of its neighbour in the other space. -/
theorem neighbour_crossesSpaces :
    ∃ r₁ r₂, CrossesSpaces "space" "app" "run" "my-run" "app" "other" 5 neighbour r₁ r₂ := by
  have hname : ((configNameIn "my-run" "app" "space").eval neighbour).1.toOption = some "app" := by
    decide +kernel
  have hconfig : ((deploymentConfig? "my-run" "app").eval
      ((configNameIn "my-run" "app" "space").eval neighbour).2).1.toOption =
        some (some ⟨{ uid := some "dc", labels := [("space", "other"), ("version", "1.0")] }⟩) := by
    decide +kernel
  exact ⟨_, _, scaleDeployment_crossesSpaces 5 rfl
    (Prod.ext (Outcome.eq_ok_of_toOption hname) rfl)
    (Prod.ext (Outcome.eq_ok_of_toOption hconfig) rfl) rfl (by decide) (by decide)⟩

/-- It is refused for its space where it is to be shown.  Scaling it gives the old number of pods,
and the new one is stored. -/
theorem neighbour_scaled :
    refusal? ((getDeployment "space" "app" "run").eval neighbour).1 =
        some ("app", "other", "space") ∧
      ((scaleDeployment "space" "app" "run" 5).eval neighbour).1.toOption = some 2 ∧
      ((scaleDeployment "space" "app" "run" 5).eval neighbour).2.sent.filterMap storedScale? =
        [(none, some 5)] ∧
      ((scaleDeployment "space" "app" "run" 7).eval
        ((scaleDeployment "space" "app" "run" 5).eval neighbour).2).1.toOption = some 5 := by
  decide +kernel

end Rollout
