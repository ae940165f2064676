import Rollout.Resource.Project

/-!
# Rollout.Access

What a user may do in a namespace, and what the operations on deployments need.

* `Grants.ofReview` — the verbs that a review grants on each kind of resource; rules that cannot be
  read, or that hold for single resources or other addresses only, grant nothing;
* `Grants.permits` — whether every requirement is granted;
* `Access.deployment`, `Access.scale`, … — the requirements of the operations.
-/

namespace Rollout

/-- A kind of resource; the oldest group has no name. -/
structure ResourceKind where
  group : String
  resource : String
  deriving DecidableEq, Repr

/-- What an operation needs: verbs on a kind of resource. -/
structure Requirement where
  kind : ResourceKind
  verbs : List String
  deriving DecidableEq, Repr

/-! ## requirements of the operations -/

namespace Access

/-- Verbs on a kind of resource of the oldest group. -/
def need (resource : String) (verbs : List String) : Requirement := ⟨⟨"", resource⟩, verbs⟩

/-- Looking at a deployment, its pods and its routes. -/
def deployment : List Requirement := [need "deploymentconfigs" ["get"],
  need "replicationcontrollers" ["list"], need "pods" ["list"], need "services" ["list"],
  need "routes" ["list"]]

/-- Changing the number of pods. -/
def scale : List Requirement := [need "deploymentconfigs" ["get"],
  need "deploymentconfigs/scale" ["get", "update"]]

/-- Looking at the usage of a deployment. -/
def usage : List Requirement := [need "deploymentconfigs" ["get"],
  need "replicationcontrollers" ["list"], need "pods" ["list"]]

/-- Looking at builds. -/
def builds : List Requirement := [need "builds" ["list"]]

/-- Looking at build configs and their builds. -/
def buildConfigs : List Requirement := [need "buildconfigs" ["list"], need "builds" ["list"]]

/-- Looking at the quota of an environment. -/
def environment : List Requirement := [need "resourcequotas" ["list"]]

end Access

/-! ## grants -/

/-- The verbs that are granted, by the kind of resource. -/
abbrev Grants := List (ResourceKind × List String)

namespace Grants

/-- Adds verbs to those of a kind. -/
def add (grants : Grants) (kind : ResourceKind) (verbs : List String) : Grants :=
  match grants with
  | [] => [(kind, verbs.eraseDups)]
  | (k, vs) :: rest =>
    if k = kind then (k, (vs ++ verbs).eraseDups) :: rest else (k, vs) :: add rest kind verbs

/-- Adds what a rule grants on all resources of a kind.  A rule without a group is about the group
without a name. -/
def addRule (grants : Grants) (rule : PolicyRule) : Grants :=
  if rule.names ≠ [] ∨ rule.urls ≠ [] then grants
  else
    let groups := if rule.groups = [] then [""] else rule.groups
    let kinds := rule.resources.flatMap fun r => groups.map fun g => ResourceKind.mk g r
    kinds.foldl (fun grants kind => grants.add kind rule.verbs) grants

/-- What a review grants. -/
def ofReview (review : RulesReview) : Grants :=
  (review.status.rules.filterMap Resource.read?).foldl addRule []

/-- Whether all verbs of a requirement are granted. -/
def meets (grants : Grants) (r : Requirement) : Bool :=
  match grants.lookup r.kind with
  | none => false
  | some verbs => r.verbs.all (· ∈ verbs)

/-- Whether all requirements are met. -/
def permits (grants : Grants) (required : List Requirement) : Bool := required.all grants.meets

/-- The grants in the order of groups and resources, the verbs in order. -/
def sorted (grants : Grants) : Grants :=
  let entries := grants.map fun (k, vs) => (k, vs.mergeSort fun a b => a ≤ b)
  entries.mergeSort fun (a, _) (b, _) =>
    a.group < b.group || (a.group = b.group && a.resource ≤ b.resource)

end Grants

end Rollout
