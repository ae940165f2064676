import Rollout.Cluster.Recorded
import Rollout.Proofs.Keys

/-!
# Rollout.Proofs.Scaling

What scaling sends, and what it makes of the answers.

* `decode_scale_eq_ok_iff` — the documents that are a scale;
* `RescaleCourse`, `ScaleCourse` — the courses that scaling can take, each with what it has sent;
* `keysDiffer_scaleDocument` — a scale that is read from a text has no key twice;
* `ScaleCourse.asks` — all of them send the start of one list of requests;
* `scaleDeployment_course` — scaling takes one of its courses, and does nothing else.
-/

namespace Rollout

open Document Client

/-! ## scales -/

/-- The number of pods that a specification asks for: a whole number, or none if it says nothing or
null.  Nothing else may stand there. -/
def replicasOf? (spec : Document) : Option (Option Int) :=
  match spec.get? "replicas" with
  | none | some .null => some none
  | some (.int n) => some (some n)
  | some _ => none

theorem field?_singleton (d : Document) (name : String) :
    d.field? [name] = (d.get? name).filter (!·.isNull) := by
  unfold field?
  rw [List.findSome?_cons, List.findSome?_nil]
  cases (d.get? name).filter (!·.isNull) <;> rfl

/-- A spec of a scale is a map whose number of pods can be read. -/
theorem read?_scaleSpec_eq_some_iff {spec : Document} {s : ScaleSpec} :
    Resource.read? spec = some s ↔ spec.isMap = true ∧ replicasOf? spec = some s.replicas := by
  obtain ⟨n⟩ := s
  simp only [Resource.read?, record, Document.optional, field?_singleton, replicasOf?]
  cases spec.isMap with
  | false => simp
  | true =>
      cases spec.get? "replicas" with
      | none => simp
      | some v => cases v <;> simp [Option.filter, isNull, strictWhole?]

theorem isMap_of_get? {d v : Document} {key : String} (h : d.get? key = some v) :
    d.isMap = true := by
  cases d with
  | map mark entries => rfl
  | _ => contradiction

theorem isNull_of_isMap {d : Document} (h : d.isMap = true) : d.isNull = false := by
  cases d with
  | null => contradiction
  | _ => rfl

/-- A scale is a document with such a spec. -/
theorem read?_scale_eq_some_iff {d : Document} {scale : Scale} :
    Resource.read? d = some scale ↔
      ∃ spec, d.get? "spec" = some spec ∧ Resource.read? spec = some scale.spec := by
  obtain ⟨s⟩ := scale
  have hread : (Resource.read? d : Option Scale) =
      d.record (((d.get? "spec").filter (!·.isNull)).bind fun v =>
        (Resource.read? v).map Scale.mk) := by
    change d.record ((d.required ["spec"] Resource.read?).bind fun s => some (Scale.mk s)) = _
    rw [Document.required, field?_singleton]
    cases (d.get? "spec").filter (!·.isNull) with
    | none => rfl
    | some v => cases hv : (Resource.read? v : Option ScaleSpec) <;> simp [hv]
  rw [hread, record]
  constructor
  · intro h
    split at h
    · obtain ⟨spec, hspec, hs⟩ := Option.bind_eq_some_iff.mp h
      obtain ⟨s', hs', heq⟩ := Option.map_eq_some_iff.mp hs
      obtain rfl := Scale.mk.inj heq
      exact ⟨spec, (Option.filter_eq_some_iff.mp hspec).1, hs'⟩
    · contradiction
  · rintro ⟨spec, hspec, hs⟩
    have hmap : spec.isMap = true := (read?_scaleSpec_eq_some_iff.mp hs).1
    rw [if_pos (isMap_of_get? hspec), hspec]
    simp [Option.filter, isNull_of_isMap hmap, hs]

/-- A document is a scale if it is a map whose specification is a map, which asks for a whole number
of pods or says nothing about it. -/
theorem decode_scale_eq_ok_iff {d : Document} {what : String} {scale : Scale} :
    Resource.decode d what = .ok scale ↔
      ∃ spec, d.get? "spec" = some spec ∧ spec.isMap = true ∧
        replicasOf? spec = some scale.spec.replicas := by
  rw [Resource.decode_eq_ok_iff]
  simp only [read?_scale_eq_some_iff, read?_scaleSpec_eq_some_iff]
  constructor
  · rintro ⟨-, spec, hspec⟩
    exact ⟨spec, hspec⟩
  · rintro ⟨spec, hget, hspec⟩
    exact ⟨isNull_of_isMap (isMap_of_get? hget), spec, hget, hspec⟩

/-! ## reading and writing back -/

variable {σ : Type} [Cluster σ]

/-- Where the scale of a deployment config is read. -/
def readScaleAsk (ns name : String) : Ask := ⟨(scalePath ns name).text, some [], .get⟩

/-- Where it is stored. -/
def storeScaleAsk (ns name : String) (body : Document) : Ask :=
  ⟨(scalePath ns name).text, none, .put body⟩

/-- Sets the number of pods in a scale, and stores it. -/
def storeCount (ns name : String) (count : Int) (d : Document) : Client σ Int := do
  let what := "scale of deployment config " ++ name
  let scale : Scale ← outcome (Resource.decode d what)
  match d.set? "spec" "replicas" (.int count) with
  | none => throw (.malformed (.shape what))
  | some changed =>
    let _ ← putScale ns name changed
    outcome (written (scale.spec.replicas.getD 0))

/-- Of a document that is a scale, the number of pods is set and the document is stored. -/
theorem storeCount_eq {ns name : String} {count : Int} {d spec changed : Document}
    {replicas : Option Int} (hspec : d.get? "spec" = some spec) (hmap : spec.isMap = true)
    (hreplicas : replicasOf? spec = some replicas)
    (hset : d.set? "spec" "replicas" (.int count) = some changed) :
    (storeCount ns name count d : Client σ Int) =
      (putScale ns name changed >>= fun _ => outcome (written (replicas.getD 0))) := by
  have hscale : Resource.decode d ("scale of deployment config " ++ name) =
      .ok (⟨⟨replicas⟩⟩ : Scale) := decode_scale_eq_ok_iff.mpr ⟨spec, hspec, hmap, hreplicas⟩
  unfold storeCount
  simp only [hscale, hset]
  rfl

/-- Sets the number of pods in the scale of a deployment config. -/
def rescale (ns name : String) (count : Int) : Client σ Int := do
  storeCount ns name count (← scaleDocument ns name)

/-- The courses of setting a number of pods: the result, and what is sent. -/
inductive RescaleCourse (r : Run σ) (ns name : String) (count : Int) :
    Outcome Int → List WebRequest → Prop where
  | idle {e : Failure} : RescaleCourse r ns name count (.error e) []
  | read {w : WebRequest} {e : Failure} : (readScaleAsk ns name).request r.session = .ok w →
    RescaleCourse r ns name count (.error e) [w]
  /-- A scale is stored.  If no map in the one that was read stands in several places, it is the same
  document, but for the number of pods.  No map may have a key twice; in a scale that was read from a
  text none has, unless that key is a number that is none. -/
  | stored {w w' : WebRequest} {d spec body : Document} {replicas : Option Int}
      {result : Outcome Int} :
    (readScaleAsk ns name).request r.session = .ok w →
    ((scaleDocument ns name).eval r).1 = .ok d →
    d.get? "spec" = some spec → spec.isMap = true → replicasOf? spec = some replicas →
    (storeScaleAsk ns name body).request r.session = .ok w' →
    (d.KeysDiffer ∨ AnswersText w r.cluster ∧ d.HasPlainKeys → d.Unshared →
      SameBut "spec" "replicas" (.int count) d body) →
    (∀ n, result = .ok n → n = replicas.getD 0) →
    RescaleCourse r ns name count result [w, w']

theorem asksOnly_scaleDocument (ns name : String) (r : Run σ) :
    AsksOnly (scaleDocument ns name) r (readScaleAsk ns name) :=
  asksOnly_getResource _ _ r

theorem asksOnly_putScale (ns name : String) (d : Document) (r : Run σ) :
    AsksOnly (putScale ns name d) r (storeScaleAsk ns name d.inKeyOrder) :=
  asksOnly_putResource _ _ r

/-- No map in a scale has a key twice, if it is read from a text and no number that is none is a key
there. -/
theorem keysDiffer_scaleDocument {ns name : String} {r : Run σ} {w : WebRequest} {d : Document}
    (hw : (readScaleAsk ns name).request r.session = .ok w) (htext : AnswersText w r.cluster)
    (hd : ((scaleDocument ns name).eval r).1 = .ok d) (hplain : d.HasPlainKeys) : d.KeysDiffer :=
  (distinct_getResource hw htext hd).keysDiffer hplain

/-- What can happen once the scale has been read. -/
theorem storeCount_course {ns name : String} {r : Run σ} {w : WebRequest} {d : Document}
    (count : Int) (hw : (readScaleAsk ns name).request r.session = .ok w)
    (hd : ((scaleDocument ns name).eval r).1 = .ok d) :
    ∃ ws, RescaleCourse r ns name count ((storeCount ns name count d).eval (r.afterWeb w)).1
        (w :: ws) ∧
      ((storeCount ns name count d).eval (r.afterWeb w)).2 = ws.foldl Run.afterWeb (r.afterWeb w) := by
  unfold storeCount
  rw [eval_bind, eval_outcome]
  cases hscale : (Resource.decode d _ : Outcome Scale) with
  | error e => exact ⟨[], .read hw, rfl⟩
  | ok scale =>
      obtain ⟨spec, hspec, hmap, hreplicas⟩ := decode_scale_eq_ok_iff.mp hscale
      simp only
      cases hset : d.set? "spec" "replicas" (.int count) with
      | none => exact ⟨[], .read hw, rfl⟩
      | some changed =>
          have hbody (hkeys : d.KeysDiffer ∨ AnswersText w r.cluster ∧ d.HasPlainKeys)
              (hunshared : d.Unshared) :
              SameBut "spec" "replicas" (.int count) d changed.inKeyOrder := by
            have hdiffer : d.KeysDiffer :=
              hkeys.elim id fun h => keysDiffer_scaleDocument hw h.1 hd h.2
            exact sameBut_set? hdiffer hunshared (keysDiffer_int count) hset
          simp only
          obtain ⟨e, heval⟩ | ⟨w', hw', hafter⟩ :=
            (asksOnly_putScale ns name changed (r.afterWeb w)).sent_or_not
          · rw [eval_bind_of_error heval]
            exact ⟨[], .read hw, rfl⟩
          · rw [Run.session_afterWeb] at hw'
            cases hstored : ((putScale ns name changed).eval (r.afterWeb w)).1 with
            | error e =>
                rw [eval_bind_of_error (Prod.ext hstored hafter)]
                exact ⟨[w'], .stored hw hd hspec hmap hreplicas hw' hbody (fun n hn => nomatch hn),
                  rfl⟩
            | ok stored =>
                rw [eval_bind_of_ok (Prod.ext hstored hafter)]
                rw [eval_outcome]
                exact ⟨[w'], .stored hw hd hspec hmap hreplicas hw' hbody
                  (fun n hn => eq_of_written hn), rfl⟩

/-- Once its name is known, a scale takes the course of being read and stored. -/
theorem rescale_course (ns name : String) (count : Int) (r : Run σ) :
    ∃ ws, RescaleCourse r ns name count ((rescale ns name count).eval r).1 ws ∧
      ((rescale ns name count).eval r).2 = ws.foldl Run.afterWeb r := by
  unfold rescale
  obtain ⟨e, heval⟩ | ⟨w, hw, hafter⟩ := (asksOnly_scaleDocument ns name r).sent_or_not
  · rw [eval_bind_of_error heval]
    exact ⟨[], .idle, rfl⟩
  · cases hd : ((scaleDocument ns name).eval r).1 with
    | error e =>
        rw [eval_bind_of_error (Prod.ext hd hafter)]
        exact ⟨[w], .read hw, rfl⟩
    | ok d =>
        rw [eval_bind_of_ok (Prod.ext hd hafter)]
        obtain ⟨ws, hcourse, hstate⟩ := storeCount_course count hw hd
        exact ⟨w :: ws, hcourse, hstate⟩

/-! ## scaling -/

/-- The courses of scaling: the result, and what is sent. -/
inductive ScaleCourse (r : Run σ) (space app environment : String) (count : Int) :
    Outcome Int → List WebRequest → Prop where
  | idle {e : Failure} : ScaleCourse r space app environment count (.error e) []
  | lookedUp {ns : String} {w : WebRequest} {e : Failure} :
    r.session.environments.lookup environment = some ns →
    (buildsAsk r.session space app).request r.session = .ok w →
    ScaleCourse r space app environment count (.error e) [w]
  /-- The environment is known, and the builds name the deployment config. -/
  | named {ns name : String} {w : WebRequest} {ws : List WebRequest} {result : Outcome Int} :
    r.session.environments.lookup environment = some ns →
    (buildsAsk r.session space app).request r.session = .ok w →
    ((configNameIn ns app space).eval r).1 = .ok name →
    RescaleCourse (r.afterWeb w) ns name count result ws →
    ScaleCourse r space app environment count result (w :: ws)

/-- Scaling finds the namespace and the name, and sets the number there. -/
theorem scaleDeployment_eq (space app environment : String) (count : Int) :
    (scaleDeployment space app environment count : Client σ Int) =
      (environmentNamespace environment >>= fun ns =>
        configNameIn ns app space >>= fun name => rescale ns name count) := rfl

/-- Every call of scaling takes its course, whatever the cluster answers. -/
theorem exists_scaleCourse (r : Run σ) (space app environment : String) (count : Int) :
    ∃ ws, ScaleCourse r space app environment count
        ((scaleDeployment space app environment count).eval r).1 ws ∧
      ((scaleDeployment space app environment count).eval r).2 = ws.foldl Run.afterWeb r := by
  rw [scaleDeployment_eq, eval_bind, eval_environmentNamespace]
  cases hns : r.session.environments.lookup environment with
  | none => exact ⟨[], .idle, rfl⟩
  | some ns =>
      simp only
      obtain ⟨e, heval⟩ | ⟨w, hw, hafter⟩ := (asksOnly_configNameIn ns app space r).sent_or_not
      · rw [eval_bind_of_error heval]
        exact ⟨[], .idle, rfl⟩
      · cases hname : ((configNameIn ns app space).eval r).1 with
        | error e =>
            rw [eval_bind_of_error (Prod.ext hname hafter)]
            exact ⟨[w], .lookedUp hns hw, rfl⟩
        | ok name =>
            rw [eval_bind_of_ok (Prod.ext hname hafter)]
            obtain ⟨ws, hcourse, hstate⟩ := rescale_course ns name count (r.afterWeb w)
            exact ⟨w :: ws, .named hns hw hname hcourse, hstate⟩

/-- All that scaling may ask for, in order. -/
def scaleAsks (s : Session) (space app ns name : String) (body : Document) : List Ask :=
  [buildsAsk s space app, readScaleAsk ns name, storeScaleAsk ns name body]

/-- Requests that can be made, one after the other. -/
theorem requests_cons {s : Session} {a : Ask} {rest : List Ask} {w : WebRequest}
    {ws : List WebRequest} (h : a.request s = .ok w) (hrest : rest.mapM (·.request s) = .ok ws) :
    (a :: rest).mapM (·.request s) = .ok (w :: ws) := by
  rw [List.mapM_cons, h, hrest]
  rfl

/-- What is sent is the start of what may be asked for. -/
theorem ScaleCourse.asks {r : Run σ} {space app environment : String} {count : Int}
    {result : Outcome Int} {ws : List WebRequest}
    (h : ScaleCourse r space app environment count result ws) :
    ∃ ns name body k, ((scaleAsks r.session space app ns name body).take k).mapM
      (·.request r.session) = .ok ws := by
  cases h with
  | idle => exact ⟨"", "", .null, 0, rfl⟩
  | lookedUp hns hw => exact ⟨"", "", .null, 1, requests_cons hw rfl⟩
  | @named ns name w ws _ hns hw hname hcourse =>
      cases hcourse with
      | idle => exact ⟨ns, name, .null, 1, requests_cons hw rfl⟩
      | read hw' => exact ⟨ns, name, .null, 2, requests_cons hw (requests_cons hw' rfl)⟩
      | @stored w' w'' d spec body _ _ hw' hd hspec hmap hreplicas hw'' hbody hresult =>
          exact ⟨ns, name, body, 3,
            requests_cons hw (requests_cons hw' (requests_cons hw'' rfl))⟩

/-- Several requests are written down one after the other. -/
theorem sent_foldl_afterWeb (r : Run σ) (ws : List WebRequest) :
    (ws.foldl Run.afterWeb r).sent = r.sent ++ ws.map .web := by
  induction ws generalizing r with
  | nil => simp
  | cons w ws ih =>
      rw [List.foldl_cons, ih, List.map_cons, Run.afterWeb]
      simp

/-- Where asking changes no cluster, neither do requests that only ask. -/
theorem cluster_foldl_afterWeb (hget : ∀ w (c : σ), w.call = .get → (Cluster.web w c).2 = c)
    (r : Run σ) {ws : List WebRequest} (h : ∀ w ∈ ws, w.call = .get) :
    (ws.foldl Run.afterWeb r).cluster = r.cluster := by
  induction ws generalizing r with
  | nil => rfl
  | cons w ws ih =>
      rw [List.foldl_cons, ih _ fun w' hw' => h w' (.tail _ hw')]
      exact hget w r.cluster (h w (.head _))

/-- Scaling takes one of its courses.  It sends the start of what it may ask for, and nothing else;
where asking changes no cluster, only storing a scale does. -/
theorem scaleDeployment_course (r : Run σ) (space app environment : String) (count : Int) :
    let ended := (scaleDeployment space app environment count).eval r
    ∃ ws, ScaleCourse r space app environment count ended.1 ws ∧
      (∃ ns name body k, ((scaleAsks r.session space app ns name body).take k).mapM
        (·.request r.session) = .ok ws) ∧
      ended.2 = ws.foldl Run.afterWeb r ∧ ended.2.sent = r.sent ++ ws.map .web ∧
      ((∀ w (c : σ), w.call = .get → (Cluster.web w c).2 = c) →
        (∀ w ∈ ws, w.call = .get) → ended.2.cluster = r.cluster) := by
  intro ended
  obtain ⟨ws, hcourse, hstate⟩ := exists_scaleCourse r space app environment count
  have hended : ended.2 = ws.foldl Run.afterWeb r := hstate
  refine ⟨ws, hcourse, hcourse.asks, hended, ?_, fun hget h => ?_⟩
  · rw [hended, sent_foldl_afterWeb]
  · rw [hended, cluster_foldl_afterWeb hget r h]

/-- A client of a cluster with one scale. -/
def scaleRun : Run Recorded where
  session := ⟨⟨.cluster "https://a.b" "t" "https://a.b" "t", "my", none, true, 1⟩, ⟨0, none⟩,
    [("run", "my-run")], [], [], false⟩
  cluster := ⟨[], [
    ("GET /oapi/v1/namespaces/my/builds",
      .answer 200 (.document (.object [("kind", .text "BuildList"), ("items", .list [])]))),
    ("GET /oapi/v1/namespaces/my-run/deploymentconfigs/app/scale",
      .answer 200 (.text "spec:\n  replicas: 2\nmetadata:\n  resourceVersion: '42'\n"))]⟩

/-- The version and the number of pods in a scale that is stored. -/
def storedScale? : Request → Option (Option String × Option Int)
  | .web ⟨_, _, .put d⟩ =>
    some (((d.get? "metadata").bind (·.get? "resourceVersion")).bind asText?,
      ((d.get? "spec").bind (·.get? "replicas")).bind strictWhole?)
  | _ => none

/-- What is stored keeps its version. -/
example : let ended := (scaleDeployment "space" "app" "run" 3).eval scaleRun
    ended.1.toOption = some 2 ∧
      ended.2.sent.filterMap storedScale? = [(some "42", some 3)] := by decide +kernel

end Rollout
