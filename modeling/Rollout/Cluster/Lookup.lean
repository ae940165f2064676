import Rollout.Cluster.Client
import Rollout.Deployment.Current
import Rollout.Deployment.Exposure
import Rollout.Environment
import Rollout.Resource.Listing

/-!
# Rollout.Cluster.Lookup

The resources that the operations on deployments look up, and what they make of them.

* `ApiPath` — where a resource is: its namespace, its collection, its name, and a part of it;
* `builds`, `deploymentConfig?`, `scaleDocument`, `routes`, … — single resources;
* `resolve`, `controlledPods`, `applicationUrl` — the deployment of an application in a namespace,
  its pods and its URL.
-/

namespace Rollout

/-- Where a resource or a collection of resources is. -/
structure ApiPath where
  namespace_ : String
  collection : String
  name : Option String := none
  part : Option String := none
  deriving DecidableEq, Repr

/-- The path of a resource. -/
def ApiPath.text (p : ApiPath) : String :=
  "/oapi/v1/namespaces/" ++ p.namespace_ ++ "/" ++ p.collection ++ segment p.name ++ segment p.part
where
  segment (s : Option String) : String := (s.map ("/" ++ ·)).getD ""

/-- The parameters that select resources by their labels. -/
def selecting (selector : String) : Labels := [("labelSelector", selector)]

namespace Client

variable {σ : Type} [Cluster σ]

/-! ## single resources -/

/-- A config map. -/
def environmentsMap (ns name : String) : Client σ ConfigMap := readCore (.configMap ns name)

/-- A resource quota. -/
def quota (ns name : String) : Client σ ResourceQuota := readCore (.resourceQuota ns name)

/-- The replication controllers of a namespace. -/
def controllers (ns : String) : Client σ ControllerList := readCore (.controllers ns)

/-- The services of a namespace. -/
def services (ns : String) : Client σ ServiceList := readCore (.services ns)

/-- Pods, perhaps only those that a selector selects; an empty one selects all. -/
def pods (ns : String) (selector : Option String) : Client σ PodList :=
  readCore (.pods ns (nonEmpty? selector))

/-- The build configs that a selector selects. -/
def buildConfigs (ns selector : String) : Client σ BuildConfigList := do
  let d ← getResource (ApiPath.text ⟨ns, "buildconfigs", none, none⟩) (selecting selector)
  outcome (Resource.decode d ("build configs in " ++ ns))

/-- The builds that a selector selects. -/
def builds (ns selector : String) : Client σ BuildList := do
  let d ← getResource (ApiPath.text ⟨ns, "builds", none, none⟩) (selecting selector)
  outcome (Resource.decode d ("builds in " ++ ns))

/-- A deployment config; none if there is none of the name. -/
def deploymentConfig? (ns name : String) : Client σ (Option DeploymentConfig) := do
  match ← getResource? (ApiPath.text ⟨ns, "deploymentconfigs", some name, none⟩) true [] with
  | none => return none
  | some d => return some (← outcome (Resource.decode d ("deployment config " ++ name)))

/-- The path of the scale of a deployment config. -/
def scalePath (ns name : String) : ApiPath := ⟨ns, "deploymentconfigs", some name, some "scale"⟩

/-- The scale of a deployment config, as a whole. -/
def scaleDocument (ns name : String) : Client σ Document :=
  getResource (scalePath ns name).text []

/-- Writes the scale of a deployment config back as a whole. -/
def putScale (ns name : String) (d : Document) : Client σ (Option Document) :=
  putResource (scalePath ns name).text d

/-- Routes, perhaps only those that a selector selects; an empty one selects all. -/
def routes (ns : String) (selector : Option String) : Client σ RouteList := do
  let params := ((nonEmpty? selector).map selecting).getD []
  let d ← getResource (ApiPath.text ⟨ns, "routes", none, none⟩) params
  outcome (Resource.decode d ("routes in " ++ ns))

/-- What is sent to ask for the rules of a namespace. -/
def reviewRequest : Document :=
  .object [("apiVersion", .text "v1"), ("kind", .text "SelfSubjectRulesReview")]

/-- The answer of the cluster to what the user may do in a namespace. -/
def rulesReview (ns : String) : Client σ RulesReview := do
  let d ← postResource (ApiPath.text ⟨ns, "selfsubjectrulesreviews", none, none⟩) reviewRequest
  outcome (Resource.decode d ("rules review in " ++ ns))

/-! ## deployments -/

/-- What selects the builds of an application in a space. -/
def buildSelector (app space : String) : String :=
  "openshift.io/build-config.name=" ++ app ++ ",space=" ++ space

/-- The name of an application's deployment config in a namespace. -/
def configNameIn (ns app space : String) : Client σ String := do
  let user := (← config).userNamespace
  let list ← builds user (buildSelector app space)
  outcome (configName list.items ns app)

/-- The deployment config of a name, as one of a space. -/
def deploymentNamed (ns name space : String) : Client σ (Option Deployment) := do
  match ← deploymentConfig? ns name with
  | none => return none
  | some dc => return some (← outcome (Deployment.ofConfig dc name space))

/-- The deployment of an application in a namespace, with its current controller. -/
def resolve (space app ns : String) : Client σ (Option Deployment) := do
  let name ← configNameIn ns app space
  match ← deploymentNamed ns name space with
  | none => return none
  | some d =>
    let list ← controllers ns
    let current ← outcome (currentController (owned (·.metadata) list.items d.uid))
    return some { d with current }

/-- The pods that a controller controls. -/
def controlledPods (ns uid : String) : Client σ (List Pod) := do
  let list ← pods ns none
  return owned (·.metadata) list.items uid

/-! ## URLs of applications -/

/-- The candidates of each service that selects the pods of a deployment. -/
def candidates (ns : String) (d : Deployment) :
    Client σ (List (String × List RouteCandidate)) := do
  match d.current.bind (·.spec.template) with
  | none => throw (.malformed (.noTemplate ns))
  | some template =>
    let serviceList ← services ns
    let routeList ← routes ns none
    outcome (candidatesByService serviceList.items routeList.items template.metadata.labels)

/-- The URL of a deployment, if a route leads to it. -/
def applicationUrl (ns : String) (d : Deployment) : Client σ (Option String) :=
  return bestUrl (← candidates ns d)

end Client

end Rollout
