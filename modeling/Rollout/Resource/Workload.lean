import Rollout.Resource.Metadata

/-!
# Rollout.Resource.Workload

Replication controllers and the pods that they keep running, with their containers.
-/

namespace Rollout

open Document

/-! ## replication controllers -/

/-- The template of a controller's pods. -/
structure PodTemplate where
  metadata : Metadata := {}
  deriving DecidableEq, Repr

instance : Resource PodTemplate where
  read? d := d.record do return { metadata := ← d.defaulted ["metadata"] Resource.read? {} }
  view t := .object [("metadata", Resource.view t.metadata)]

/-- What a controller is asked to keep running. -/
structure ControllerSpec where
  replicas : Option Int := none
  selector : Labels := []
  template : Option PodTemplate := none
  deriving DecidableEq, Repr

instance : Resource ControllerSpec where
  read? d := d.record do
    return {
      replicas := ← d.optional ["replicas"] asWhole?
      selector := ← d.defaulted ["selector"] asLabels? []
      template := ← d.optional ["template"] Resource.read? }
  view s := .object [("replicas", ofWhole? s.replicas), ("selector", ofLabels s.selector),
    ("template", Resource.viewOption s.template)]

/-- How many pods a controller keeps running. -/
structure ControllerStatus where
  replicas : Int := 0
  deriving DecidableEq, Repr

instance : Resource ControllerStatus where
  read? d := d.record do return { replicas := ← d.defaulted ["replicas"] asWhole? 0 }
  view s := .object [("replicas", .int s.replicas)]

/-- A controller that keeps a number of pods running. -/
structure ReplicationController where
  metadata : Metadata
  spec : ControllerSpec := {}
  status : ControllerStatus := {}
  deriving DecidableEq, Repr

instance : Resource ReplicationController where
  read? d := d.record do
    return {
      metadata := ← d.required ["metadata"] Resource.read?
      spec := ← d.defaulted ["spec"] Resource.read? {}
      status := ← d.defaulted ["status"] Resource.read? {} }
  view c := .object [("metadata", Resource.view c.metadata), ("spec", Resource.view c.spec),
    ("status", Resource.view c.status)]

/-! ## containers -/

/-- Quantities of resources, by the name of the resource. -/
structure ResourceNeeds where
  limits : Labels := []
  requests : Labels := []
  deriving DecidableEq, Repr

instance : Resource ResourceNeeds where
  read? d := d.record do
    return {
      limits := ← d.defaulted ["limits"] asLabels? []
      requests := ← d.defaulted ["requests"] asLabels? [] }
  view r := .object [("limits", ofLabels r.limits), ("requests", ofLabels r.requests)]

/-- A container of a pod, with what it needs. -/
structure Container where
  name : String
  image : Option String := none
  resources : ResourceNeeds := {}
  deriving DecidableEq, Repr

instance : Resource Container where
  read? d := d.record do
    return {
      name := ← d.required ["name"] asText?
      image := ← d.optional ["image"] asText?
      resources := ← d.defaulted ["resources"] Resource.read? {} }
  view c := .object [("name", .text c.name), ("image", ofText? c.image),
    ("resources", Resource.view c.resources)]

/-- A container that waits. -/
structure WaitingState where
  reason : Option String := none
  deriving DecidableEq, Repr

instance : Resource WaitingState where
  read? d := d.record do return { reason := ← d.optional ["reason"] asText? }
  view s := .object [("reason", ofText? s.reason)]

/-- A container that runs. -/
structure RunningState where
  started : Option DateTime := none
  deriving DecidableEq, Repr

instance : Resource RunningState where
  read? d := d.record do return { started := ← d.optional ["startedAt", "started_at"] asTime? }
  view s := .object [("started_at", ofTime? s.started)]

/-- A container that has ended. -/
structure TerminatedState where
  exitCode : Int := 0
  reason : Option String := none
  deriving DecidableEq, Repr

instance : Resource TerminatedState where
  read? d := d.record do
    return {
      exitCode := ← d.defaulted ["exitCode", "exit_code"] asWhole? 0
      reason := ← d.optional ["reason"] asText? }
  view s := .object [("exit_code", .int s.exitCode), ("reason", ofText? s.reason)]

/-- The state of a container; a cluster fills in one part. -/
structure ContainerState where
  waiting : Option WaitingState := none
  running : Option RunningState := none
  terminated : Option TerminatedState := none
  deriving DecidableEq, Repr

instance : Resource ContainerState where
  read? d := d.record do
    return {
      waiting := ← d.optional ["waiting"] Resource.read?
      running := ← d.optional ["running"] Resource.read?
      terminated := ← d.optional ["terminated"] Resource.read? }
  view s := .object [("waiting", Resource.viewOption s.waiting),
    ("running", Resource.viewOption s.running),
    ("terminated", Resource.viewOption s.terminated)]

/-- How a container is. -/
structure ContainerStatus where
  name : Option String := none
  ready : Bool := false
  state : ContainerState := {}
  deriving DecidableEq, Repr

instance : Resource ContainerStatus where
  read? d := d.record do
    return {
      name := ← d.optional ["name"] asText?
      ready := ← d.defaulted ["ready"] asFlag? false
      state := ← d.defaulted ["state"] Resource.read? {} }
  view s := .object [("name", ofText? s.name), ("ready", .bool s.ready),
    ("state", Resource.view s.state)]

/-! ## pods -/

/-- The containers of a pod. -/
structure PodSpec where
  containers : List Container := []
  deriving DecidableEq, Repr

instance : Resource PodSpec where
  read? d := d.record do return { containers := ← d.defaulted ["containers"] Resource.list? [] }
  view s := .object [("containers", Resource.viewList s.containers)]

/-- How a pod and its containers are. -/
structure PodStatus where
  phase : Option String := none
  containers : List ContainerStatus := []
  deriving DecidableEq, Repr

instance : Resource PodStatus where
  read? d := d.record do
    return {
      phase := ← d.optional ["phase"] asText?
      containers := ← d.defaulted ["containerStatuses", "container_statuses"] Resource.list? [] }
  view s := .object [("phase", ofText? s.phase),
    ("container_statuses", Resource.viewList s.containers)]

/-- A pod: containers that run together. -/
structure Pod where
  metadata : Metadata
  spec : PodSpec := {}
  status : PodStatus := {}
  deriving DecidableEq, Repr

instance : Resource Pod where
  read? d := d.record do
    return {
      metadata := ← d.required ["metadata"] Resource.read?
      spec := ← d.defaulted ["spec"] Resource.read? {}
      status := ← d.defaulted ["status"] Resource.read? {} }
  view p := .object [("metadata", Resource.view p.metadata), ("spec", Resource.view p.spec),
    ("status", Resource.view p.status)]

end Rollout
