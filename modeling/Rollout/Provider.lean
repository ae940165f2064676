import Rollout.Resource.Fields
import Rollout.Text.Blank
import Rollout.Url.Cluster

/-!
# Rollout.Provider

Where the services of a cluster are found: its API, its metrics, its console and the logs within
the console, with the tokens that open them.

* `Provider.cluster` — one cluster, perhaps with a proxy in front of its API;
* `Provider.tenant` — the namespaces of a tenant, each on a cluster of its own and possibly with
  URLs of its own;
* `apiUrl`, `metricsUrl`, `consoleUrl`, `logsUrl` — the URLs, derived from the cluster's where none
  is given.
-/

namespace Rollout

open Document

/-- A namespace as a tenant service reports it. -/
structure TenantNamespace where
  name : String
  clusterUrl : String
  consoleUrl : Option String := none
  loggingUrl : Option String := none
  metricsUrl : Option String := none
  deriving DecidableEq, Repr

/-- A member that may be missing or null. -/
def TenantNamespace.member (d : Document) (name : String) : Option (Option String) :=
  match d.get? name with
  | none | some .null => some none
  | some v => v.asText?.map some

/-- The namespace that a record holds. -/
def TenantNamespace.read? (d : Document) : Option TenantNamespace := d.record do
  let _ ← member d "type"
  return {
    name := ← (d.get? "name").bind asText?
    clusterUrl := ← (d.get? "cluster_url").bind asText?
    consoleUrl := ← member d "cluster_console_url"
    loggingUrl := ← member d "cluster_logging_url"
    metricsUrl := ← member d "cluster_metrics_url" }

/-- Where the services are found. -/
inductive Provider where
  | cluster (apiUrl apiToken clusterUrl clusterToken : String)
  | tenant (apiUrl token name : String) (namespaces : List TenantNamespace)
  deriving DecidableEq, Repr

namespace Provider

/-- One cluster.  The API's URL and token count where the cluster's are missing. -/
def ofCluster (apiUrl apiToken : String) (clusterUrl clusterToken : Option String) :
    Outcome Provider :=
  if apiUrl = "" then .error (.misconfigured .urlMissing)
  else
    .ok (cluster apiUrl apiToken ((nonEmpty? clusterUrl).getD apiUrl)
      ((nonEmpty? clusterToken).getD apiToken))

/-- A tenant's namespaces.  The API is on the cluster of the first one unless its URL is given. -/
def ofTenant (namespaces : List TenantNamespace) (token : String) (apiUrl : Option String)
    (name : String) : Outcome Provider :=
  let usual := (namespaces.head?.map (·.clusterUrl)).getD ""
  let url := (nonEmpty? apiUrl).getD usual
  if url = "" then .error (.misconfigured (.tenantWithoutUrl name))
  else .ok (tenant url token name namespaces)

/-- The URL of the API, as given. -/
def apiUrl : Provider → String
  | cluster url _ _ _ | tenant url _ _ _ => url

/-- The token that opens the API. -/
def apiToken : Provider → String
  | cluster _ token _ _ | tenant _ token _ _ => token

/-- The URL of the API without slashes at its end, to which a path is appended. -/
def apiBase (p : Provider) : String := Text.trimRight '/' p.apiUrl

/-- The last namespace of a name. -/
def find (name : String) (tenant : String) (namespaces : List TenantNamespace) :
    Outcome TenantNamespace :=
  match namespaces.reverse.find? (·.name = name) with
  | some n => .ok n
  | none => .error (.misconfigured (.notInTenant name tenant))

/-- The URL that is given, or else the one derived from the cluster's. -/
def given (url : Option String) (derived : Outcome String) : Outcome String :=
  match nonEmpty? url with
  | some u => .ok u
  | none => derived

/-- The URL of the metrics of a namespace. -/
def metricsUrl (p : Provider) (ns : String) : Outcome String :=
  match p with
  | cluster _ _ url _ => Url.sibling url "metrics" ""
  | tenant _ _ name namespaces => do
    let n ← find ns name namespaces
    given n.metricsUrl (Url.sibling n.clusterUrl "metrics" "")

/-- The token that opens the metrics. -/
def metricsToken : Provider → String
  | cluster _ _ _ token | tenant _ token _ _ => token

/-- The page of a namespace, below the console's URL. -/
def projectPage (base ns : String) : String := Text.trimRight '/' base ++ "/project/" ++ ns

/-- The page of a controller's logs, below the page of its namespace. -/
def logsPage (project controller : String) : String :=
  project ++ "/browse/rc/" ++ controller ++ "?tab=logs"

/-- The page of a namespace in the console. -/
def consoleUrl (p : Provider) (ns : String) : Outcome String :=
  match p with
  | cluster _ _ url _ => Url.sibling url "console" ("console/project/" ++ ns)
  | tenant _ _ name namespaces => do
    let n ← find ns name namespaces
    let base ← given n.consoleUrl (Url.sibling n.clusterUrl "console" "/console")
    return projectPage base ns

/-- The page of a controller's logs. -/
def logsUrl (p : Provider) (ns controller : String) : Outcome String :=
  match p with
  | cluster _ _ _ _ => do return logsPage (← p.consoleUrl ns) controller
  | tenant _ _ name namespaces => do
    let n ← find ns name namespaces
    let base ← given n.loggingUrl (Url.sibling n.clusterUrl "console" "/console")
    return logsPage (projectPage base ns) controller

end Provider

end Rollout
