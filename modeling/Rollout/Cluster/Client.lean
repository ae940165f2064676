import Rollout.Access
import Rollout.Cluster.Request
import Rollout.Document.Order
import Rollout.Resource.Workload
import Rollout.Settings
import Rollout.Text.Encoding
import Rollout.Yaml.Document

/-!
# Rollout.Cluster.Client

The client of a cluster: what it remembers, and its single requests.

* `Session` — what a client remembers: its environments, the grants and metrics clients that it has
  looked up, and whether it has been closed;
* `Client` — an activity of a client against a cluster; requests are written down, and what is
  remembered stays also when an activity fails;
* `readCore`, `getResource`, `putResource`, `postResource`, `readBuckets` — the requests.
-/

namespace Rollout

/-- Access to the metrics of a namespace. -/
structure MetricsAccess where
  base : String
  token : String
  deriving DecidableEq, Repr

/-- What a client remembers. -/
structure Session where
  config : ClientConfig
  /-- The present, against which the age of pods is judged. -/
  now : DateTime
  environments : Labels := []
  grants : List (String × Grants) := []
  metrics : List (String × MetricsAccess) := []
  closed : Bool := false
  deriving Repr

/-- A client and a cluster, and what has been sent from one to the other. -/
structure Run (σ : Type) where
  session : Session
  cluster : σ
  sent : List Request := []

/-- An activity of a client against a cluster. -/
abbrev Client (σ : Type) := ExceptT Failure (StateM (Run σ))

namespace Client

variable {σ : Type}

/-- An outcome that needs no cluster. -/
def outcome {α : Type} (a : Outcome α) : Client σ α := MonadExcept.ofExcept a

/-- Carries out an activity and hands its outcome over: what comes next is carried out also after a
failure. -/
def attempt {α : Type} (m : Client σ α) : Client σ (Outcome α) := ExceptT.lift m.run

/-- What the client remembers now. -/
def session : Client σ Session := return (← get).session

/-- What the client was opened with. -/
def config : Client σ ClientConfig := return (← session).config

/-- Changes what the client remembers. -/
def remember (change : Session → Session) : Client σ Unit :=
  modify fun run => { run with session := change run.session }

variable [Cluster σ]

/-- Asks about core resources; the question is written down. -/
def askCore (q : CoreQuery) : Client σ CoreReply := do
  let run ← get
  let (reply, cluster) := Cluster.core q run.cluster
  set { run with cluster, sent := run.sent ++ [Request.core q run.session.config.timeout] }
  return reply

/-- Sends a request to a URL; it is written down. -/
def askWeb (r : WebRequest) : Client σ WebReply := do
  let run ← get
  let (reply, cluster) := Cluster.web r run.cluster
  set { run with cluster, sent := run.sent ++ [Request.web r] }
  return reply

/-! ## core resources -/

/-- A core resource.  It has to exist. -/
def readCore {α : Type} [Resource α] (q : CoreQuery) : Client σ α := do
  let host := (← config).provider.apiBase
  let what := "could not get " ++ q.description
  match ← askCore q with
  | .document d => outcome (Resource.decode d q.description)
  | .status n =>
    throw (if n = 404 then .notFound q.description else .transport what none host (some n))
  | .broken detail => throw (.transport what (some detail) host none)

/-! ## resources under a path -/

/-- An answer with its content and the URL that it was asked for under. -/
structure Answer where
  url : String
  content : Content

/-- Sends a request to the API and expects success; an absent resource is none where that is
allowed. -/
def send (path : String) (params : Option Labels) (call : Call) (allowMissing : Bool) :
    Client σ (Option Answer) := do
  if let some e := call.fault? then throw e
  let s ← session
  let url := s.config.provider.apiBase ++ path
  let plain ← outcome (Url.Target.ofText url)
  let target := (params.map plain.withParams).getD plain
  let request : WebRequest := ⟨target, s.config.provider.apiToken, call⟩
  if !(request.isWritable && Url.Target.paramsFit (params.getD [])) then throw .badHeader
  if s.closed then throw .closed
  let what := "could not " ++ call.method ++ " resource"
  match ← askWeb request with
  | .broken detail => throw (.transport what (some detail) url none)
  | .answer status content =>
    if allowMissing ∧ status = 404 then return none
    else if 200 ≤ status ∧ status < 300 then return some ⟨target.text, content⟩
    else throw (.transport what none url (some status))

/-- The document of an answer, which has to be a map. -/
def Answer.yaml (a : Answer) : Outcome Document :=
  let mapping (d : Document) : Outcome Document :=
    if d.isMap then .ok d else .error (.malformed (.notMapping a.url d.kindWord))
  match a.content with
  | .document d => mapping d
  | .text s =>
    match Yaml.document s with
    | .ok d => mapping d
    | .error fault => .error (.ofFault (.notYaml a.url) fault)

/-- The document of an answer in JSON, which has to be an object. -/
def Answer.json (a : Answer) : Outcome Document :=
  let object (d : Document) : Outcome Document :=
    if d.isMap then .ok d else .error (.malformed (.notObject a.url))
  match a.content with
  | .document d => object d
  | .text s =>
    match (Text.decodeText? s.toUTF8.toList).elim (.error .form) (Document.readJson mostNested) with
    | .ok d => object d
    | .error .form => .error (.malformed (.notJson a.url))
    | .error .tooDeep => .error .tooDeep
where
  /-- How many collections of JSON may stand inside each other. -/
  mostNested : Nat := 985

/-- Whether the content of an answer is empty. -/
def Answer.isEmpty (a : Answer) : Bool :=
  match a.content with
  | .text s => s = ""
  | .document _ => false

/-- The resource under a path; none if it is absent and may be. -/
def getResource? (path : String) (allowMissing : Bool) (params : Labels) :
    Client σ (Option Document) := do
  match ← send path (some params) .get allowMissing with
  | none => return none
  | some a => return some (← outcome a.yaml)

/-- The resource under a path. -/
def getResource (path : String) (params : Labels) : Client σ Document :=
  return (← getResource? path false params).getD .null

/-- Stores a resource under a path.  The result is what the cluster answers, if anything. -/
def putResource (path : String) (body : Document) : Client σ (Option Document) := do
  match ← send path none (.put body.inKeyOrder) false with
  | none => return none
  | some a => if a.isEmpty then return none else return some (← outcome a.yaml)

/-- Sends a document to a path, and expects one as the answer. -/
def postResource (path : String) (body : Document) : Client σ Document := do
  match ← send path none (.post body) false with
  | none => return .null
  | some a => outcome a.json

/-! ## metrics -/

/-- Access to the metrics of a namespace, made up at the first use. -/
def metricsAccess (ns : String) : Client σ MetricsAccess := do
  let s ← session
  match s.metrics.lookup ns with
  | some access => return access
  | none =>
    let url ← outcome (s.config.provider.metricsUrl ns)
    let access := ⟨Text.trimRight '/' url, s.config.provider.metricsToken⟩
    remember fun s => { s with metrics := s.metrics ++ [(ns, access)] }
    return access

/-- How a window is divided: into one bucket, or into buckets of a minute. -/
inductive Division where
  | whole
  | minutes

/-- The parameter that asks for a division. -/
def Division.param : Division → String × String
  | whole => ("buckets", "1")
  | minutes => ("bucketDuration", "60000ms")

/-- The condition that selects the gauges of pods. -/
def gaugeTags (signal : Signal) (pods : List Pod) : String :=
  "descriptor_name:" ++ signal.descriptor ++ ",type:pod,pod_id:" ++
    "|".intercalate (pods.map fun p => p.metadata.uid.getD "")

/-- The usage of pods over a window, summed over them.  Without pods nothing is asked. -/
def readBuckets (access : MetricsAccess) (pods : List Pod) (tenant : String) (signal : Signal)
    (start finish : DateTime) (division : Division) : Client σ (List Bucket) := do
  if pods.isEmpty then return []
  let params := [("tags", gaugeTags signal pods), ("start", toString (← outcome (millisOf start))),
    ("end", toString (← outcome (millisOf finish))), ("stacked", "true"), division.param]
  let url := access.base ++ "/hawkular/metrics/gauges/stats"
  let target := (← outcome (Url.Target.ofText url)).withParams params
  let request : WebRequest := ⟨target, access.token, .metrics tenant signal⟩
  if !(request.isWritable && Url.Target.paramsFit params) then throw .badHeader
  let what := "could not read metrics"
  match ← askWeb request with
  | .broken detail => throw (.transport what (some detail) url none)
  | .answer status content =>
    if status < 200 ∨ 300 ≤ status then throw (.transport what none url (some status))
    else if status = 204 then return []
    else
      match content with
      | .text "" => return []
      | .text s => outcome (Bucket.ofJson s)
      | .document d => outcome (Bucket.ofJson d.json)

/-- The average over the minute after a moment. -/
def readSample (access : MetricsAccess) (pods : List Pod) (tenant : String) (signal : Signal)
    (start : DateTime) : Client σ (Option Sample) := do
  let finish ← outcome (minuteAfter start)
  match ← readBuckets access pods tenant signal start finish .whole with
  | [] => return none
  | bucket :: _ => return some (← outcome (Sample.ofBucket signal.scale bucket))

/-- The averages of the minutes between two moments, at most `limit` of them if that is not
negative. -/
def readSeries (access : MetricsAccess) (pods : List Pod) (tenant : String) (signal : Signal)
    (start finish : DateTime) (limit : Int) : Client σ (List Sample) := do
  let buckets ← readBuckets access pods tenant signal start finish .minutes
  let kept ← outcome (trim buckets finish limit)
  kept.mapM fun bucket => outcome (Sample.ofBucket signal.scale bucket)

end Client

end Rollout
