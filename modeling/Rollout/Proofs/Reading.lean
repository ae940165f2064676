import Rollout.Proofs.Activity

/-!
# Rollout.Proofs.Reading

What activities are made of, and what follows from that.

* `Uses` — an activity is made of steps of a kind, and of what the client was opened with;
* `FetchStep`, `UsageStep`, `ReadingStep` — the steps of fetching documents, which are questions about
  core resources and requests for paths; those of asking for the usage of pods, which are queries and
  making up access to metrics; and those of everything that reads;
* `uses_getDeployment`, `uses_getUsage`, … — the operations that read use nothing else;
* `Along` — from every state, an activity leads to one that a relation admits;
* `Uses.along` — what is admitted of every step is admitted of the whole activity;
* `Reading` — a relation that admits everything that reading operations do.
-/

namespace Rollout

/-- A request that asks for something and stores nothing. -/
def Call.isReading : Call → Bool
  | .get | .metrics _ _ => true
  | .put _ | .post _ => false

/-- A query of the usage of pods in a namespace, and of no other ones. -/
def WebRequest.Queries (w : WebRequest) (tenant : String) (pods : List Pod) : Prop :=
  ∃ (signal : Signal) (plain : Url.Target) (params : Labels), w.call = .metrics tenant signal ∧
    w.target = plain.withParams params ∧
    params.lookup "tags" = some (Client.gaugeTags signal pods)

theorem WebRequest.Queries.isReading {w : WebRequest} {tenant : String} {pods : List Pod}
    (h : w.Queries tenant pods) : w.call.isReading = true := by
  obtain ⟨signal, plain, params, hcall, -⟩ := h
  rw [hcall]
  rfl

/-- What a client was opened with, without what it has looked up since. -/
def Session.bare (s : Session) : Session := { s with grants := [], metrics := [] }

namespace Client

variable {σ α β : Type}

/-! ## what activities are made of -/

/-- An activity is made of steps of a kind, and of what the client was opened with. -/
inductive Uses (Allowed : (α : Type) → Client σ α → Prop) : {α : Type} → Client σ α → Prop where
  | pure {α : Type} (a : α) : Uses Allowed (pure a : Client σ α)
  | throw {α : Type} (f : Failure) : Uses Allowed (throw f : Client σ α)
  /-- What the client has looked up makes no difference. -/
  | session {α : Type} {k : Session → Client σ α} :
    (∀ s, k s.bare = k s) → (∀ s, Uses Allowed (k s)) → Uses Allowed (session >>= k)
  | bind {α β : Type} {m : Client σ α} {f : α → Client σ β} :
    Uses Allowed m → (∀ a, Uses Allowed (f a)) → Uses Allowed (m >>= f)
  | attempt {α : Type} {m : Client σ α} : Uses Allowed m → Uses Allowed (attempt m)
  | step {α : Type} {m : Client σ α} : Allowed α m → Uses Allowed m

namespace Uses

variable {Allowed Others : (α : Type) → Client σ α → Prop}

/-- An activity that uses some steps uses more kinds of them. -/
theorem mono (hsub : ∀ α m, Allowed α m → Others α m) {m : Client σ α} (h : Uses Allowed m) :
    Uses Others m := by
  induction h with
  | pure a => exact .pure a
  | throw f => exact .throw f
  | session hbare _ ih => exact .session hbare ih
  | bind _ _ ihm ihf => exact .bind ihm ihf
  | attempt _ ih => exact .attempt ih
  | step hstep => exact .step (hsub _ _ hstep)

theorem outcome (a : Outcome α) : Uses Allowed (outcome a) := by
  cases a with
  | ok a => exact .pure a
  | error f => exact .throw f

theorem config : Uses Allowed (config : Client σ ClientConfig) :=
  .session (fun _ => rfl) fun s => .pure s.config

theorem ite {p : Prop} [Decidable p] {m n : Client σ α} (hm : Uses Allowed m)
    (hn : Uses Allowed n) : Uses Allowed (if p then m else n) := by
  split
  · exact hm
  · exact hn

/-- What uses some steps for each item uses these for all of them. -/
theorem mapM {f : α → Client σ β} (hf : ∀ a, Uses Allowed (f a)) (items : List α) :
    Uses Allowed (items.mapM f) := by
  induction items with
  | nil => exact .pure []
  | cons a rest ih =>
      rw [List.mapM_cons]
      exact .bind (hf a) fun b => .bind ih fun bs => .pure _

end Uses

/-! ## relations along activities -/

/-- From every state, an activity leads to one that the relation admits. -/
def Along (R : Run σ → Run σ → Prop) (m : Client σ α) : Prop := ∀ r, R r (m.eval r).2

/-- A relation that admits any number of steps. -/
structure Path (R : Run σ → Run σ → Prop) : Prop where
  here (r : Run σ) : R r r
  onward {r r₁ r₂ : Run σ} : R r r₁ → R r₁ r₂ → R r r₂

namespace Path

variable {R : Run σ → Run σ → Prop} (hR : Path R)

include hR

theorem outcome (a : Outcome α) : Along R (outcome a : Client σ α) := by
  intro r
  rw [eval_outcome]
  exact hR.here r

/-- Two activities in a row lead along two admitted ways. -/
theorem bind {m : Client σ α} {f : α → Client σ β} (hm : Along R m)
    (hf : ∀ a, Along R (f a)) : Along R (m >>= f) := by
  intro r
  have hfirst := hm r
  rw [eval_bind]
  rcases heval : m.eval r with ⟨a, r₁⟩
  rw [heval] at hfirst
  cases a with
  | ok a => exact hR.onward hfirst (hf a r₁)
  | error e => exact hfirst

theorem mapM {f : α → Client σ β} (hf : ∀ a, Along R (f a)) (items : List α) :
    Along R (items.mapM f) := by
  induction items with
  | nil => exact hR.here
  | cons a rest ih =>
      rw [List.mapM_cons]
      exact hR.bind (hf a) fun _ => hR.bind ih fun _ => hR.here

end Path

/-- What is admitted of every step is admitted of the whole activity. -/
theorem Uses.along {Allowed : (α : Type) → Client σ α → Prop} {R : Run σ → Run σ → Prop}
    (hR : Path R) (hstep : ∀ α m, Allowed α m → Along R m) {m : Client σ α}
    (h : Uses Allowed m) : Along R m := by
  induction h with
  | pure a => exact hR.here
  | throw f => exact hR.here
  | session _ _ ih => exact hR.bind hR.here ih
  | bind _ _ ihm ihf => exact hR.bind ihm ihf
  | attempt _ ih => exact ih
  | step h => exact hstep _ _ h

/-! ## steps -/

variable [Cluster σ]

/-- The steps of asking for the usage of pods. -/
inductive UsageStep (tenant : String) (pods : List Pod) : (α : Type) → Client σ α → Prop where
  | query (w : WebRequest) : w.Queries tenant pods → UsageStep tenant pods WebReply (askWeb w)
  | access (ns : String) : UsageStep tenant pods MetricsAccess (metricsAccess ns)

/-- The steps of fetching documents. -/
inductive FetchStep : (α : Type) → Client σ α → Prop where
  | core {α : Type} [Resource α] (q : CoreQuery) : FetchStep α (readCore q)
  | path (path : String) (allowMissing : Bool) (params : Labels) :
    FetchStep (Option Document) (getResource? path allowMissing params)

/-- The steps of activities that read. -/
inductive ReadingStep : (α : Type) → Client σ α → Prop where
  | core {α : Type} [Resource α] (q : CoreQuery) : ReadingStep α (readCore q)
  | path (path : String) (allowMissing : Bool) (params : Labels) :
    ReadingStep (Option Document) (getResource? path allowMissing params)
  | usage {α : Type} {m : Client σ α} {tenant : String} {pods : List Pod} :
    UsageStep tenant pods α m → ReadingStep α m

/-! ## the usage of pods -/

/-- Reading buckets makes one query of the usage of the pods. -/
theorem uses_readBuckets (access : MetricsAccess) (pods : List Pod) (tenant : String)
    (signal : Signal) (start finish : DateTime) (division : Division) :
    Uses (UsageStep (σ := σ) tenant pods)
      (readBuckets access pods tenant signal start finish division) := by
  unfold readBuckets
  cases pods.isEmpty with
  | true => exact .pure []
  | false =>
      refine .bind (.outcome _) fun first => .bind (.outcome _) fun last =>
        .bind (.outcome _) fun plain => .ite (.throw _) ?_
      refine .bind (.step (.query _ ⟨signal, plain, _, rfl, rfl, rfl⟩)) fun reply => ?_
      cases reply with
      | broken detail => exact .throw _
      | answer status content =>
          refine .ite (.throw _) (.ite (.pure []) ?_)
          split
          · exact .pure []
          · exact .outcome _
          · exact .outcome _

/-- A sample takes the buckets of a minute. -/
theorem uses_readSample (access : MetricsAccess) (pods : List Pod) (tenant : String)
    (signal : Signal) (start : DateTime) :
    Uses (UsageStep (σ := σ) tenant pods) (readSample access pods tenant signal start) := by
  refine .bind (.outcome _) fun finish =>
    .bind (uses_readBuckets access pods tenant signal start finish .whole) fun buckets => ?_
  cases buckets with
  | nil => exact .pure none
  | cons bucket _ => exact .bind (.outcome _) fun _ => .pure _

/-- A series takes those of a longer time. -/
theorem uses_readSeries (access : MetricsAccess) (pods : List Pod) (tenant : String)
    (signal : Signal) (start finish : DateTime) (limit : Int) :
    Uses (UsageStep (σ := σ) tenant pods)
      (readSeries access pods tenant signal start finish limit) :=
  .bind (uses_readBuckets access pods tenant signal start finish .minutes) fun _ =>
    .bind (.outcome _) fun kept => .mapM (fun _ => .outcome _) kept

/-- What asks for the usage of pods reads. -/
theorem Uses.reading {tenant : String} {pods : List Pod} {m : Client σ α}
    (h : Uses (UsageStep tenant pods) m) : Uses ReadingStep m := h.mono fun _ _ => .usage

/-! ## lookups -/

/-- What fetches documents reads. -/
theorem Uses.fetched {m : Client σ α} (h : Uses FetchStep m) : Uses ReadingStep m := by
  refine h.mono fun _ _ hstep => ?_
  cases hstep with
  | core q => exact .core q
  | path path allowMissing params => exact .path path allowMissing params

theorem uses_readCore [Resource α] (q : CoreQuery) :
    Uses FetchStep (readCore q : Client σ α) := .step (.core q)

theorem uses_metricsAccess (ns : String) :
    Uses ReadingStep (metricsAccess ns : Client σ MetricsAccess) :=
  Uses.reading (.step (.access ns) : Uses (UsageStep ns []) _)

theorem uses_getResource (path : String) (params : Labels) :
    Uses FetchStep (getResource path params : Client σ Document) :=
  .bind (.step (.path path false params)) fun _ => .pure _

theorem uses_buildConfigs (ns selector : String) :
    Uses FetchStep (buildConfigs ns selector : Client σ BuildConfigList) :=
  .bind (uses_getResource _ _) fun _ => .outcome _

/-- The name of a deployment config is found in documents that are fetched. -/
theorem uses_configNameIn (ns app space : String) :
    Uses FetchStep (configNameIn ns app space : Client σ String) :=
  .bind .config fun _ => .bind (.bind (uses_getResource _ _) fun _ => .outcome _) fun _ =>
    .outcome _

theorem uses_deploymentNamed (ns name space : String) :
    Uses FetchStep (deploymentNamed ns name space : Client σ (Option Deployment)) := by
  have hconfig : Uses FetchStep (deploymentConfig? ns name : Client σ _) := by
    refine .bind (.step (.path _ true [])) fun found => ?_
    cases found with
    | none => exact .pure none
    | some d => exact .bind (.outcome _) fun _ => .pure _
  refine .bind hconfig fun found => ?_
  cases found with
  | none => exact .pure none
  | some dc => exact .bind (.outcome _) fun _ => .pure _

/-- A deployment is found in documents and lists of core resources. -/
theorem uses_resolve (space app ns : String) :
    Uses FetchStep (resolve space app ns : Client σ (Option Deployment)) := by
  refine .bind (uses_configNameIn ns app space) fun name =>
    .bind (uses_deploymentNamed ns name space) fun found => ?_
  cases found with
  | none => exact .pure none
  | some d => exact .bind (uses_readCore _) fun _ => .bind (.outcome _) fun _ => .pure _

theorem uses_controlledPods (ns uid : String) :
    Uses FetchStep (controlledPods ns uid : Client σ (List Pod)) :=
  .bind (uses_readCore _) fun _ => .pure _

theorem uses_applicationUrl (ns : String) (d : Deployment) :
    Uses FetchStep (applicationUrl ns d : Client σ (Option String)) := by
  refine .bind ?_ fun _ => .pure _
  unfold candidates
  cases d.current.bind (·.spec.template) with
  | none => exact .throw _
  | some template =>
      refine .bind (uses_readCore _) fun _ => .bind ?_ fun _ => .outcome _
      exact .bind (uses_getResource _ _) fun _ => .outcome _

/-! ## operations -/

omit [Cluster σ] in
theorem uses_environmentNamespace {Allowed : (α : Type) → Client σ α → Prop}
    (environment : String) : Uses Allowed (environmentNamespace environment) := by
  refine .session (fun _ => rfl) fun s => ?_
  cases s.environments.lookup environment with
  | some ns => exact .pure ns
  | none => exact .throw _

/-- Its current controller and the pods of this one are fetched, too. -/
theorem uses_currentDeployment (space app ns : String) :
    Uses FetchStep (currentDeployment space app ns : Client σ _) := by
  refine .bind (uses_resolve space app ns) fun found => ?_
  split
  · exact .pure none
  · split
    · exact .pure none
    · split
      · exact .throw _
      · exact .bind (uses_controlledPods ns _) fun _ => .pure _

/-- Showing a deployment fetches documents only. -/
theorem uses_getDeployment (space app environment : String) :
    Uses FetchStep (getDeployment space app environment : Client σ _) := by
  refine .bind (uses_environmentNamespace environment) fun ns =>
    .bind (uses_currentDeployment space app ns) fun current => ?_
  rcases current with _ | ⟨d, rc, pods⟩
  · exact .pure none
  · refine .bind .config fun _ => .bind (.outcome _) fun _ => ?_
    refine .session (fun _ => rfl) fun s => .bind (.outcome _) fun _ => ?_
    exact .bind (.outcome _) fun _ => .bind (.outcome _) fun _ =>
      .bind (uses_applicationUrl ns d) fun _ => .pure _

/-- So does showing an application, in all environments. -/
theorem uses_getApplication (space app : String) :
    Uses FetchStep (getApplication space app : Client σ _) :=
  .session (fun _ => rfl) fun _ =>
    .bind (.mapM (fun environment => .attempt (uses_getDeployment space app environment)) _) fun _ =>
      .bind (.outcome _) fun _ => .pure _

/-- And so does showing all applications of a space. -/
theorem uses_getSpace (space : String) : Uses FetchStep (getSpace space : Client σ _) := by
  refine .bind .config fun c => .bind (uses_buildConfigs _ _) fun list =>
    .bind (.mapM (fun buildConfig => ?_) _) fun _ => .pure _
  cases nonEmpty? buildConfig.metadata.name with
  | none => exact .throw _
  | some name => exact uses_getApplication space name

/-- Showing the usage of a deployment reads. -/
theorem uses_getUsage (space app environment : String) (start : DateTime) :
    Uses ReadingStep (getUsage space app environment start : Client σ _) := by
  refine .bind (uses_environmentNamespace environment) fun ns =>
    .bind (uses_currentDeployment space app ns).fetched fun current => ?_
  rcases current with _ | ⟨d, rc, pods⟩
  · exact .pure none
  · refine Uses.reading (?_ : Uses (UsageStep ns pods) _)
    refine .bind (.step (.access ns)) fun access => ?_
    have hsample (signal : Signal) := uses_readSample (σ := σ) access pods ns signal start
    exact .bind (hsample .cpu) fun _ => .bind (hsample .memory) fun _ =>
      .bind (hsample .sent) fun _ => .bind (hsample .received) fun _ => .pure _

/-- Showing it as series does, too. -/
theorem uses_getUsageSeries (space app environment : String) (start finish : DateTime)
    (limit : Int) :
    Uses ReadingStep (getUsageSeries space app environment start finish limit : Client σ _) := by
  refine .bind (uses_environmentNamespace environment) fun ns =>
    .bind (uses_currentDeployment space app ns).fetched fun current => ?_
  rcases current with _ | ⟨d, rc, pods⟩
  · exact .pure none
  · refine Uses.reading (?_ : Uses (UsageStep ns pods) _)
    refine .bind (.step (.access ns)) fun access => ?_
    have hseries (signal : Signal) := uses_readSeries (σ := σ) access pods ns signal start finish limit
    exact .bind (hseries .cpu) fun _ => .bind (hseries .memory) fun _ =>
      .bind (hseries .sent) fun _ => .bind (hseries .received) fun _ => .pure _

theorem uses_getEnvironment (environment : String) :
    Uses FetchStep (getEnvironment environment : Client σ _) :=
  .bind (uses_environmentNamespace environment) fun _ => .bind (uses_readCore _) fun _ =>
    .bind (.outcome _) fun _ => .pure _

theorem uses_getEnvironments : Uses FetchStep (getEnvironments (σ := σ)) := by
  refine .session (fun _ => rfl) fun s => .mapM (fun entry => ?_) s.environments
  exact uses_getEnvironment entry.1

theorem uses_podsOf (ns app : String) : Uses FetchStep (podsOf ns app : Client σ _) :=
  .bind (uses_readCore _) fun _ => .pure _

/-! ## relations that admit reading -/

/-- Sending a request leads along a relation that admits the request. -/
theorem along_send {R : Run σ → Run σ → Prop} (hR : Path R) {call : Call}
    (hcall : ∀ r w, w.call = call → R r (r.afterWeb w)) (path : String) (params : Option Labels)
    (allowMissing : Bool) : Along R (send path params call allowMissing) := by
  intro r
  rw [eval_send]
  cases hp : prepared r.session path params call with
  | error e => exact hR.here r
  | ok w => exact hcall r w (call_of_prepared hp)

omit [Cluster σ] in
/-- Making up access to metrics leads along a relation that admits remembering it. -/
theorem along_metricsAccess {R : Run σ → Run σ → Prop} (hR : Path R)
    (hmetrics : ∀ (r : Run σ) entries, R r { r with session := { r.session with metrics := entries } })
    (ns : String) : Along R (metricsAccess ns) := by
  refine hR.bind hR.here fun s => ?_
  cases s.metrics.lookup ns with
  | some access => exact hR.here
  | none =>
      exact hR.bind (hR.outcome _) fun url => hR.bind (fun r => hmetrics r _) fun _ => hR.here

/-- Asking for the usage of pods leads along a relation that admits queries of these pods. -/
theorem along_of_usageStep {R : Run σ → Run σ → Prop} (hR : Path R) {tenant : String}
    {pods : List Pod} (hquery : ∀ r w, w.Queries tenant pods → R r (r.afterWeb w))
    (hmetrics : ∀ (r : Run σ) entries, R r { r with session := { r.session with metrics := entries } })
    {m : Client σ α} (h : UsageStep tenant pods α m) : Along R m := by
  cases h with
  | query w hw => exact fun r => hquery r w hw
  | access ns => exact along_metricsAccess hR hmetrics ns

/-- A relation that admits what reading operations do. -/
structure Reading (R : Run σ → Run σ → Prop) : Prop extends Path R where
  core (r : Run σ) (q : CoreQuery) : R r (r.afterCore q)
  web (r : Run σ) (w : WebRequest) : w.call.isReading = true → R r (r.afterWeb w)
  metrics (r : Run σ) (entries : List (String × MetricsAccess)) :
    R r { r with session := { r.session with metrics := entries } }

namespace Reading

variable {R : Run σ → Run σ → Prop} (hR : Reading R)

include hR

/-- A step of reading leads along such a relation. -/
theorem step {m : Client σ α} (h : ReadingStep α m) : Along R m := by
  cases h with
  | core q =>
      intro r
      rw [eval_readCore]
      exact hR.core r q
  | path path allowMissing params =>
      intro r
      rw [eval_getResource?]
      cases hp : prepared r.session path (some params) .get with
      | error e => exact hR.here r
      | ok w =>
          refine hR.web r w ?_
          rw [call_of_prepared hp]
          rfl
  | usage h => exact along_of_usageStep hR.toPath (fun r w hw => hR.web r w hw.isReading) hR.metrics h

/-- What reads leads along a relation that admits everything that reading does. -/
theorem along {m : Client σ α} (h : Uses ReadingStep m) : Along R m :=
  h.along hR.toPath fun _ _ => hR.step

/-- Scaling leads along a relation that also admits storing a document. -/
theorem scaleDeployment (hput : ∀ r w body, w.call = .put body → R r (r.afterWeb w))
    (space app environment : String) (count : Int) :
    Along R (scaleDeployment space app environment count) := by
  refine hR.bind (hR.along (uses_environmentNamespace environment)) fun ns =>
    hR.bind (hR.along (uses_configNameIn ns app space).fetched) fun name =>
      hR.bind (hR.along (uses_getResource _ _).fetched) fun d =>
        hR.bind (hR.along (.outcome _)) fun scale => ?_
  cases d.set? "spec" "replicas" (.int count) with
  | none => exact hR.here
  | some changed =>
      refine hR.bind (hR.bind (along_send hR.toPath (fun r w h => hput r w _ h) _ _ _) ?_)
        fun _ => hR.along (.outcome _)
      intro answer
      refine hR.along ?_
      cases answer with
      | none => exact .pure none
      | some a => exact .ite (.pure none) (.bind (.outcome _) fun _ => .pure _)

end Reading

end Client

end Rollout
