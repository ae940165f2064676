import Rollout.Resource.Project
import Rollout.Resource.Workload
import Rollout.Yaml.Document

/-!
# Rollout.Deployment.Current

Which deployment config, controller and pods make up the current deployment of an application.

* `owned` — the resources that an owner controls;
* `currentController` — the youngest controller; the later in the list of two equally young ones;
* `latestBuild` — the complete build that was completed last;
* `configNamed` — the deployment config that an annotation names;
* `Deployment.ofConfig` — the deployment config as one of a space, with its UID and version.
-/

namespace Rollout

/-! ## ownership and age -/

/-- The resources among `items` that the owner with the given UID controls. -/
def owned {α : Type} (metadata : α → Metadata) (items : List α) (uid : String) : List α :=
  items.filter fun item => (metadata item).controlledBy uid

/-- Whether a controller takes the place of the current one: it has a time of creation, and the
current one has none or an earlier or equal one. -/
def supersedes (rc current : ReplicationController) : Outcome Bool :=
  match rc.metadata.created, current.metadata.created with
  | none, _ => .ok false
  | some _, none => .ok true
  | some t, some u =>
    match DateTime.notBefore? t u with
    | some later => .ok later
    | none => .error .incomparable

/-- The current one of several controllers. -/
def currentController : List ReplicationController → Outcome (Option ReplicationController)
  | [] => .ok none
  | rc :: rest => do
    let current ← rest.foldlM (fun current next => do
      return if ← supersedes next current then next else current) rc
    return some current

/-- The time when a build was completed, if it is complete. -/
def Build.completion? (b : Build) : Option DateTime :=
  if b.status.phase = some "Complete" then b.status.completed else none

/-- The complete build that was completed last; the first in the list of several at one time. -/
def latestBuild (builds : List Build) : Outcome (Option Build) := do
  let dated := builds.filterMap fun b => b.completion?.map fun t => (b, t)
  match dated with
  | [] => return none
  | first :: rest =>
    let latest ← rest.foldlM (fun (latest : Build × DateTime) next => do
      match DateTime.before? latest.2 next.2 with
      | some true => return next
      | some false => return latest
      | none => throw Failure.incomparable) first
    return some latest.1

/-! ## the name of the deployment config -/

/-- The first key of a map, which has to be a text. -/
def firstName : Document → Outcome (Option String)
  | .map _ [] => .ok none
  | .map _ ((.text name, _) :: _) => .ok (some name)
  | .map _ _ => .error (.malformed .servicesNoText)
  | _ => .ok none

/-- The deployment config that an annotation names: the first one of its map of deployment
versions. -/
def configNamed (record : String) : Outcome (Option String) :=
  match Yaml.document record with
  | .error fault => .error (.ofFault .servicesText fault)
  | .ok d =>
    if d.isNull then .ok none
    else if d.isMap then (d.get? servicesKey).elim (.ok none) firstName
    else .error (.malformed .servicesNotMapping)

/-- The annotation of a build that names the deployment config of a namespace. -/
def annotationFor (namespace_ : String) : String := servicesAnnotation ++ "/" ++ namespace_

/-- The name of an application's deployment config, as the latest of its complete builds records it.
Without a record that can be read and names one, it is the application's. -/
def configName (builds : List Build) (namespace_ app : String) : Outcome String := do
  match ← latestBuild builds with
  | none => return app
  | some build =>
    match build.metadata.annotations.lookup (annotationFor namespace_) with
    | none => return app
    | some record =>
      match configNamed record with
      | .ok name => return (nonEmpty? name).getD app
      | .error (.malformed _) => return app
      | .error failure => throw failure

/-! ## deployments -/

/-- A deployment config and its current controller, if it has been rolled out. -/
structure Deployment where
  config : String
  uid : String
  version : String
  current : Option ReplicationController := none
  deriving DecidableEq, Repr

namespace Deployment

/-- The deployment of a deployment config of the given space. -/
def ofConfig (dc : DeploymentConfig) (config space : String) : Outcome Deployment :=
  let labels := dc.metadata.labels
  match nonEmpty? (labels.lookup "space") with
  | none => .error (.malformed (.noSpace config))
  | some actual =>
    if actual ≠ space then .error (.otherSpace config actual space)
    else
      match nonEmpty? dc.metadata.uid, nonEmpty? (labels.lookup "version") with
      | none, _ => .error (.malformed (.noUid config))
      | some _, none => .error (.malformed (.noVersion config))
      | some uid, some version => .ok { config, uid, version }

/-- A deployment with all of its fields. -/
def view (d : Deployment) : Document := .object [("dc_name", .text d.config),
  ("dc_uid", .text d.uid), ("app_version", .text d.version),
  ("current", Resource.viewOption d.current)]

end Deployment

end Rollout
