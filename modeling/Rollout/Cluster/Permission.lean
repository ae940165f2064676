import Rollout.Cluster.Operations

/-!
# Rollout.Cluster.Permission

Whether the user may do what an operation does.  A denial is an answer and no failure; what the user
may do in a namespace is looked up once.

* `grantsIn` — the grants of a namespace, remembered after the first review that succeeds;
* `canPerform` — whether requirements are met in an environment;
* `canGetDeployment`, `canScaleDeployment`, … — the checks of the operations.
-/

namespace Rollout.Client

/-- The name under which the checks know the user's own namespace. -/
def userEnvironment : String := "user"

/-- Whether applications are deployed to an environment. -/
def canDeploy (environment : String) : Bool := environment ≠ userEnvironment

variable {σ : Type} [Cluster σ]

/-- What the user may do in a namespace. -/
def grantsIn (ns : String) : Client σ Grants := do
  match (← session).grants.lookup ns with
  | some grants => return grants
  | none =>
    let grants := Grants.ofReview (← rulesReview ns)
    remember fun s => { s with grants := s.grants ++ [(ns, grants)] }
    return grants

/-- The namespace of an environment, or the user's own one. -/
def accessNamespace (environment : String) : Client σ String := do
  if environment = userEnvironment then return (← config).userNamespace
  else environmentNamespace environment

/-- Whether requirements are met in an environment. -/
def canPerform (environment : String) (required : List Requirement) : Client σ Bool := do
  return (← grantsIn (← accessNamespace environment)).permits required

/-- Whether builds may be listed, and requirements are met in an environment. -/
def canPerformWithBuilds (environment : String) (required : List Requirement) :
    Client σ Bool := do
  if ← canPerform userEnvironment Access.builds then canPerform environment required
  else return false

/-- Whether requirements are met in all of the environments, the user's own one left out. -/
def canPerformIn (required : List Requirement) : List String → Client σ Bool
  | [] => return true
  | environment :: rest => do
    if !canDeploy environment then canPerformIn required rest
    else if ← canPerform environment required then canPerformIn required rest
    else return false

/-- Whether requirements are met in all environments to which applications are deployed. -/
def canPerformEverywhere (required : List Requirement) : Client σ Bool := do
  canPerformIn required ((← session).environments.map (·.1))

/-- Whether the applications of a space may be looked at. -/
def canGetSpace : Client σ Bool := do
  if ← canPerform userEnvironment Access.buildConfigs then canPerformEverywhere Access.deployment
  else return false

/-- Whether an application may be looked at in all of its environments. -/
def canGetApplication : Client σ Bool := do
  if ← canPerform userEnvironment Access.builds then canPerformEverywhere Access.deployment
  else return false

/-- Whether deployments in an environment may be looked at. -/
def canGetDeployment (environment : String) : Client σ Bool :=
  canPerformWithBuilds environment Access.deployment

/-- Whether deployments in an environment may be scaled. -/
def canScaleDeployment (environment : String) : Client σ Bool :=
  canPerformWithBuilds environment Access.scale

/-- Whether the usage of deployments in an environment may be looked at. -/
def canGetUsage (environment : String) : Client σ Bool :=
  canPerformWithBuilds environment Access.usage

/-- Whether the same holds of the usage over time, which needs nothing more. -/
def canGetUsageSeries (environment : String) : Client σ Bool :=
  canPerformWithBuilds environment Access.usage

/-- Whether the quotas of all environments may be looked at. -/
def canGetEnvironments : Client σ Bool := canPerformEverywhere Access.environment

/-- Whether the quota of an environment may be looked at. -/
def canGetEnvironment (environment : String) : Client σ Bool :=
  canPerform environment Access.environment

end Rollout.Client
