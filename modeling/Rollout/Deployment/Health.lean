import Rollout.Quantity
import Rollout.Resource.Workload

/-!
# Rollout.Deployment.Health

How the pods of a deployment are, and what they may use at most.

* `Pod.warning` — whether a pod needs attention, and whether badly;
* `Pod.category` — the word for its state;
* `tally` — how many pods are in each state, the failed ones left out;
* `podsQuota` — the sum of the limits of all containers.
-/

namespace Rollout

/-! ## one pod -/

/-- Five minutes, after which waiting becomes a warning; in microseconds. -/
def patience : Int := 5 * DateTime.minute

/-- Whether more than five minutes have passed since a moment; a moment without an offset is taken
as UTC, and none has passed since an unknown one. -/
def overdue (now : DateTime) (since : Option DateTime) : Outcome Bool :=
  match since with
  | none => .ok false
  | some t =>
    if now.offset.isSome then .ok (patience < now.instant - t.instant) else .error .incomparable

/-- Whether something is wrong, and whether badly. -/
structure Warning where
  raised : Bool
  severe : Bool
  deriving DecidableEq, Repr

/-- What a container's status says about a running pod; none if nothing is wrong. -/
def ContainerStatus.warning? (s : ContainerStatus) (pod : Metadata) (now : DateTime) :
    Outcome (Option Warning) := do
  if s.state.terminated.any (·.exitCode ≠ 0) then return some ⟨true, pod.deleted.isSome⟩
  else if s.state.waiting.any (·.reason = some "CrashLoopBackOff") then return some ⟨true, true⟩
  else
    match s.state.running, s.ready with
    | some running, false =>
      return if ← overdue now running.started then some ⟨true, false⟩ else none
    | _, _ => return none

/-- The first warning of several container statuses. -/
def firstWarning (pod : Metadata) (now : DateTime) : List ContainerStatus → Outcome (Option Warning)
  | [] => return none
  | s :: rest => do
    match ← s.warning? pod now with
    | some w => return some w
    | none => firstWarning pod now rest

namespace Pod

/-- Whether a pod needs attention. A pending pod does after five minutes, a running one if one of
its containers does. -/
def warning (p : Pod) (now : DateTime) : Outcome Warning := do
  let phase := p.status.phase
  if phase = some "Unknown" then return ⟨true, false⟩
  else if phase = some "Pending" then return ⟨← overdue now p.metadata.created, false⟩
  else if phase = some "Running" then
    return (← firstWarning p.metadata now p.status.containers).getD ⟨false, false⟩
  else return ⟨false, false⟩

/-- Whether a pod waits for an image. -/
def isPulling (p : Pod) : Bool :=
  p.status.phase = some "Pending" && p.status.containers.any fun s =>
    s.state.waiting.any (·.reason = some "ContainerCreating")

/-- Whether as many containers are ready as the pod has. -/
def isReady (p : Pod) : Bool :=
  p.status.containers.countP (·.ready) = p.spec.containers.length

/-- The word for the state of a pod. -/
def category (p : Pod) (now : DateTime) : Outcome String := do
  if p.metadata.deleted.isSome then return "Terminating"
  else
    let w ← p.warning now
    if w.raised then return if w.severe then "Error" else "Warning"
    else if p.isPulling then return "Pulling"
    else if p.status.phase = some "Running" ∧ !p.isReady then return "Not Ready"
    else return (nonEmpty? p.status.phase).getD "Unknown"

end Pod

/-! ## all pods of a deployment -/

/-- Counts one more under a name, in the order in which the names appeared. -/
def countOne (counts : List (String × Nat)) (name : String) : List (String × Nat) :=
  match counts with
  | [] => [(name, 1)]
  | (n, k) :: rest => if n = name then (n, k + 1) :: rest else (n, k) :: countOne rest name

/-- The pods that count: all but the failed ones. -/
def countedPods (pods : List Pod) : List Pod := pods.filter (·.status.phase ≠ some "Failed")

/-- How many pods are in each state, and how many there are.  Without any pod, none is running. -/
def tally (pods : List Pod) (now : DateTime) : Outcome (List (String × Nat) × Nat) := do
  let words ← (countedPods pods).mapM (·.category now)
  let counts := words.foldl countOne []
  return (if counts = [] then [("Running", 0)] else counts, words.length)

/-- The counts as pairs of texts. -/
def tallyText (counts : List (String × Nat)) : List (String × String) :=
  counts.map fun (name, k) => (name, toString k)

/-! ## limits -/

/-- What pods may use at most. -/
structure PodsQuota where
  cores : Binary64
  memory : Binary64
  deriving DecidableEq, Repr

/-- The sum of the limits of all containers, in the order of the pods. -/
def podsQuota (pods : List Pod) (read : Quantity.Reader := Quantity.standard) :
    Outcome PodsQuota :=
  (pods.flatMap (·.spec.containers)).foldlM (fun sum c => do
    let cores ← Quantity.named c.resources.limits "cpu" read
    let memory ← Quantity.named c.resources.limits "memory" read
    return ⟨sum.cores + cores, sum.memory + memory⟩) ⟨.zero, .zero⟩

def PodsQuota.view (q : PodsQuota) : Document :=
  .object [("cpucores", .float q.cores), ("memory", .float q.memory)]

end Rollout
