import Rollout.Cluster.Lookup
import Rollout.Deployment.Health

/-!
# Rollout.Cluster.Operations

What a client can be asked to do: to show the applications of a space, their deployments, and the
usage and quota of these, and to change the number of a deployment's pods.

* `openOn` — a client for a cluster, with the environments of its user;
* `getDeployment`, `getApplication`, `getSpace` — views of deployments;
* `scaleDeployment` — reads the scale as a whole, sets the number in it, and writes it back;
* `getUsage`, `getUsageSeries` — the usage of a deployment;
* `getEnvironment`, `getEnvironments` — quotas.
-/

namespace Rollout

open Document

/-! ## views -/

/-- The current deployment of an application in an environment. -/
structure DeploymentView where
  environment : String
  version : String
  pods : List (String × String)
  podTotal : Nat
  quota : PodsQuota
  console : String
  logs : String
  application : Option String
  deriving DecidableEq, Repr

def DeploymentView.view (d : DeploymentView) : Document := .object [("type", .text "deployment"),
  ("id", .text d.environment),
  ("attributes", .object [("name", .text d.environment), ("version", .text d.version),
    ("pods", .list (d.pods.map fun (word, n) => ofTexts [word, n])),
    ("pod_total", .int d.podTotal), ("pods_quota", d.quota.view)]),
  ("links", .object [("console", .text d.console), ("logs", .text d.logs),
    ("application", ofText? d.application)])]

/-- An application with its deployments. -/
structure ApplicationView where
  name : String
  deployments : List DeploymentView
  deriving DecidableEq, Repr

def ApplicationView.view (a : ApplicationView) : Document := .object [("type", .text "application"),
  ("id", .text a.name),
  ("attributes", .object [("name", .text a.name),
    ("deployments", .list (a.deployments.map (·.view)))])]

/-- A space with its applications. -/
structure SpaceView where
  name : String
  applications : List ApplicationView
  deriving DecidableEq, Repr

def SpaceView.view (s : SpaceView) : Document := .object [("type", .text "space"),
  ("attributes", .object [("name", .text s.name),
    ("applications", .list (s.applications.map (·.view)))])]

/-- An environment with its quota. -/
structure EnvironmentView where
  name : String
  quota : EnvironmentQuota
  deriving DecidableEq, Repr

def EnvironmentView.view (e : EnvironmentView) : Document := .object [("type", .text "environment"),
  ("attributes", .object [("name", .text e.name), ("quota", e.quota.view)])]

/-- The usage of a deployment over a minute. -/
structure UsageView where
  cores : Option Sample
  memory : Option Sample
  sent : Option Sample
  received : Option Sample
  deriving DecidableEq, Repr

def UsageView.view (u : UsageView) : Document :=
  let sample (s : Option Sample) : Document := (s.map Sample.view).getD .null
  .object [("type", .text "deploymentstats"),
    ("attributes", .object [("cores", sample u.cores), ("memory", sample u.memory),
      ("net_tx", sample u.sent), ("net_rx", sample u.received)])]

/-- The usage of a deployment as series, between the first and the last time of the use of cores
and memory. -/
structure UsageSeriesView where
  cores : List Sample
  memory : List Sample
  sent : List Sample
  received : List Sample
  start : Option Binary64
  finish : Option Binary64
  deriving DecidableEq, Repr

def UsageSeriesView.view (u : UsageSeriesView) : Document :=
  let series (samples : List Sample) : Document := .list (samples.map Sample.view)
  .object [("cores", series u.cores), ("memory", series u.memory), ("net_tx", series u.sent),
    ("net_rx", series u.received), ("start", ofReal? u.start), ("end", ofReal? u.finish)]

namespace Client

variable {σ : Type} [Cluster σ]

/-! ## opening -/

/-- The config map that lists the environments of a user. -/
def environmentsName : String := "fabric8-environments"

/-- Reads the environments of the user. -/
def readEnvironments : Client σ Unit := do
  let user := (← config).userNamespace
  let m ← environmentsMap user environmentsName
  let found ← outcome (environments m user)
  remember fun s => { s with environments := found }

/-- A client for a cluster, judging the age of pods against `now`. -/
def openOn (config : ClientConfig) (now : DateTime) (cluster : σ) : Outcome (Run σ) :=
  match readEnvironments.run.run { session := { config, now }, cluster } with
  | (.ok _, run) => .ok run
  | (.error failure, _) => .error failure

/-- The namespace of an environment. -/
def environmentNamespace (environment : String) : Client σ String := do
  match (← session).environments.lookup environment with
  | some ns => return ns
  | none => throw (.misconfigured (.unknownEnvironment environment))

/-! ## deployments -/

/-- The deployment of an application and the pods of its current controller; none if it has not been
rolled out. -/
def currentDeployment (space app ns : String) :
    Client σ (Option (Deployment × ReplicationController × List Pod)) := do
  match ← resolve space app ns with
  | none => return none
  | some d =>
    match d.current with
    | none => return none
    | some rc =>
      match nonEmpty? rc.metadata.uid with
      | none => throw (.malformed (.noControllerUid d.config ns))
      | some uid => return some (d, rc, ← controlledPods ns uid)

/-- The current deployment of an application in an environment. -/
def getDeployment (space app environment : String) : Client σ (Option DeploymentView) := do
  let ns ← environmentNamespace environment
  match ← currentDeployment space app ns with
  | none => return none
  | some (d, rc, pods) =>
    let provider := (← config).provider
    let quota ← outcome (podsQuota pods)
    let (counts, total) ← outcome (tally pods (← session).now)
    let console ← outcome (provider.consoleUrl ns)
    let logs ← outcome (provider.logsUrl ns (shownName rc.metadata.name))
    let application ← applicationUrl ns d
    return some {
      environment, version := d.version, pods := tallyText counts, podTotal := total, quota,
      console, logs, application }

/-- The deployments of an application in all environments.  They are asked for at once: a failure in
one environment does not keep the others from being asked, and the first one is that of the whole. -/
def getApplication (space app : String) : Client σ ApplicationView := do
  let names := (← session).environments.map (·.1)
  let outcomes ← names.mapM fun environment => attempt (getDeployment space app environment)
  let deployments ← outcome (outcomes.mapM id)
  return ⟨app, deployments.filterMap id⟩

/-- The applications of a space, one for each build config. -/
def getSpace (space : String) : Client σ SpaceView := do
  let user := (← config).userNamespace
  let list ← buildConfigs user ("space=" ++ space)
  let applications ← list.items.mapM fun c =>
    match nonEmpty? c.metadata.name with
    | none => throw (.malformed .noBuildName)
    | some name => getApplication space name
  return ⟨space, applications⟩

/-- Sets the number of pods of an application.  The result is the number before; it is written down
once the new one has been stored, which fails if it is too long. -/
def scaleDeployment (space app environment : String) (count : Int) : Client σ Int := do
  let ns ← environmentNamespace environment
  let name ← configNameIn ns app space
  let d ← scaleDocument ns name
  let what := "scale of deployment config " ++ name
  let scale : Scale ← outcome (Resource.decode d what)
  match d.set? "spec" "replicas" (.int count) with
  | none => throw (.malformed (.shape what))
  | some changed =>
    let _ ← putScale ns name changed
    outcome (written (scale.spec.replicas.getD 0))

/-! ## usage -/

/-- The usage of a deployment over the minute after a moment. -/
def getUsage (space app environment : String) (start : DateTime) : Client σ (Option UsageView) := do
  let ns ← environmentNamespace environment
  match ← currentDeployment space app ns with
  | none => return none
  | some (_, _, pods) =>
    let access ← metricsAccess ns
    let sample (signal : Signal) : Client σ (Option Sample) :=
      readSample access pods ns signal start
    return some ⟨← sample .cpu, ← sample .memory, ← sample .sent, ← sample .received⟩

/-- The usage of a deployment between two moments. -/
def getUsageSeries (space app environment : String) (start finish : DateTime) (limit : Int) :
    Client σ (Option UsageSeriesView) := do
  let ns ← environmentNamespace environment
  match ← currentDeployment space app ns with
  | none => return none
  | some (_, _, pods) =>
    let access ← metricsAccess ns
    let series (signal : Signal) : Client σ (List Sample) :=
      readSeries access pods ns signal start finish limit
    let cores ← series .cpu
    let memory ← series .memory
    let sent ← series .sent
    let received ← series .received
    let (first, last) := endpoints [cores, memory]
    return some ⟨cores, memory, sent, received, first, last⟩

/-! ## environments -/

/-- The quota of an environment. -/
def getEnvironment (environment : String) : Client σ EnvironmentView := do
  let ns ← environmentNamespace environment
  let q ← quota ns "compute-resources"
  return ⟨environment, ← outcome (EnvironmentQuota.ofQuota q)⟩

/-- The quotas of all environments, in their order. -/
def getEnvironments : Client σ (List EnvironmentView) := do
  (← session).environments.mapM fun (environment, _) => getEnvironment environment

/-- The pods of an application in a namespace. -/
def podsOf (ns app : String) : Client σ (List Pod) :=
  return (← pods ns (some ("app=" ++ app))).items

/-- Closes the client.  The result is how many metrics clients were open. -/
def close : Client σ Nat := do
  let n := (← session).metrics.length
  remember fun s => { s with metrics := [], closed := true }
  return n

end Client

end Rollout
