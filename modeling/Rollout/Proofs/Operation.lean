import Rollout.Cluster.Permission
import Rollout.Proofs.Reading

/-!
# Rollout.Proofs.Operation

Everything that a client can be asked to do as data, and runs of a client.

* `Check`, `Operation` — the checks and the operations; `Check.ask` and `Operation.perform` carry
  them out;
* `Step`, `after` — what happens to a client: it is asked to do something, or the cluster changes
  and time passes; a run is any list of steps;
* `along_perform` — where operations other than checks lead.
-/

namespace Rollout

/-- A question whether the user may do something. -/
inductive Check where
  | space
  | application
  | deployment (environment : String)
  | scale (environment : String)
  | usage (environment : String)
  | usageSeries (environment : String)
  | environments
  | environment (environment : String)
  /-- Whether the given requirements are met. -/
  | perform (environment : String) (required : List Requirement)
  deriving Repr

/-- Something that a client can be asked to do. -/
inductive Operation where
  | space (space : String)
  | application (space app : String)
  | deployment (space app environment : String)
  | scale (space app environment : String) (count : Int)
  | usage (space app environment : String) (start : DateTime)
  | usageSeries (space app environment : String) (start finish : DateTime) (limit : Int)
  | environments
  | environment (environment : String)
  | environmentNamespace (environment : String)
  | pods (ns app : String)
  | metrics (ns : String)
  | canDeploy (environment : String)
  | check (c : Check)
  /-- What the user may do in a namespace. -/
  | grants (ns : String)
  | close
  deriving Repr

/-- The result of an operation. -/
inductive Answered where
  | space (view : SpaceView)
  | application (view : ApplicationView)
  | deployment (view : Option DeploymentView)
  | count (n : Int)
  | usage (view : Option UsageView)
  | usageSeries (view : Option UsageSeriesView)
  | environments (views : List EnvironmentView)
  | environment (view : EnvironmentView)
  | name (ns : String)
  | pods (items : List Pod)
  | metrics (access : MetricsAccess)
  | allowed (answer : Bool)
  | grants (table : Grants)
  | closed (count : Nat)
  deriving Repr

variable {σ : Type} [Cluster σ]

open Client in
/-- Carries out a check. -/
def Check.ask : Check → Client σ Bool
  | space => canGetSpace
  | application => canGetApplication
  | deployment e => canGetDeployment e
  | scale e => canScaleDeployment e
  | usage e => canGetUsage e
  | usageSeries e => canGetUsageSeries e
  | environments => canGetEnvironments
  | environment e => canGetEnvironment e
  | perform e required => canPerform e required

open Client in
/-- Carries out an operation. -/
def Operation.perform : Operation → Client σ Answered
  | space s => return .space (← getSpace s)
  | application s app => return .application (← getApplication s app)
  | deployment s app e => return .deployment (← getDeployment s app e)
  | scale s app e n => return .count (← scaleDeployment s app e n)
  | usage s app e start => return .usage (← getUsage s app e start)
  | usageSeries s app e start finish limit =>
    return .usageSeries (← getUsageSeries s app e start finish limit)
  | environments => return .environments (← getEnvironments)
  | environment e => return .environment (← getEnvironment e)
  | environmentNamespace e => return .name (← Client.environmentNamespace e)
  | pods ns app => return .pods (← podsOf ns app)
  | metrics ns => return .metrics (← metricsAccess ns)
  | canDeploy e => return .allowed (Client.canDeploy e)
  | check c => return .allowed (← c.ask)
  | grants ns => return .grants (← grantsIn ns)
  | close => return .closed (← Client.close)

/-! ## runs -/

/-- Something that happens to a client. -/
inductive Step (σ : Type) where
  | call (o : Operation)
  /-- The cluster changes, and time passes. -/
  | change (world : σ → σ) (now : DateTime)

/-- The client after a step. -/
def Step.after (r : Run σ) : Step σ → Run σ
  | call o => (o.perform.eval r).2
  | change world now =>
    { r with cluster := world r.cluster, session := { r.session with now } }

/-- The client after a run. -/
def after (steps : List (Step σ)) (r : Run σ) : Run σ := steps.foldl Step.after r

/-! ## operations other than checks -/

/-- Operations that look up what the user may do. -/
def Operation.asksForRules : Operation → Bool
  | check _ | grants _ => true
  | _ => false

/-- Operations that neither store anything nor close the client. -/
def Operation.onlyReads : Operation → Bool
  | scale _ _ _ _ | close => false
  | _ => true

namespace Client

/-- Operations that read are made of reading steps, unless they ask for rules. -/
theorem uses_perform {o : Operation} (hrules : o.asksForRules = false) (hreads : o.onlyReads = true) :
    Uses ReadingStep (o.perform (σ := σ)) := by
  cases o with
  | space s => exact .bind (uses_getSpace s).fetched fun _ => .pure _
  | application s app => exact .bind (uses_getApplication s app).fetched fun _ => .pure _
  | deployment s app e => exact .bind (uses_getDeployment s app e).fetched fun _ => .pure _
  | scale s app e count => cases hreads
  | usage s app e start => exact .bind (uses_getUsage s app e start) fun _ => .pure _
  | usageSeries s app e start finish limit =>
      exact .bind (uses_getUsageSeries s app e start finish limit) fun _ => .pure _
  | environments => exact .bind uses_getEnvironments.fetched fun _ => .pure _
  | environment e => exact .bind (uses_getEnvironment e).fetched fun _ => .pure _
  | environmentNamespace e => exact .bind (uses_environmentNamespace e) fun _ => .pure _
  | pods ns app => exact .bind (uses_podsOf ns app).fetched fun _ => .pure _
  | metrics ns =>
      exact .bind (uses_metricsAccess ns) fun _ => .pure _
  | canDeploy e => exact .pure _
  | check c => cases hrules
  | grants ns => cases hrules
  | close => cases hreads

omit [Cluster σ] in
/-- Closing leads along a relation that admits it. -/
theorem along_close {R : Run σ → Run σ → Prop}
    (h : ∀ r, R r { r with session := { r.session with metrics := [], closed := true } }) :
    Along R (close (σ := σ)) := h

/-- Opening a client leads along a relation that admits reading and remembering environments. -/
theorem along_readEnvironments {R : Run σ → Run σ → Prop} (hR : Reading R)
    (h : ∀ (r : Run σ) environments, R r { r with session := { r.session with environments } }) :
    Along R (readEnvironments (σ := σ)) :=
  hR.bind (hR.along .config) fun _ => hR.bind (hR.along (uses_readCore _).fetched) fun _ =>
    hR.bind (hR.outcome _) fun found r => h r found

/-- Operations that do not ask for rules lead along every relation that admits reading, storing a
document and closing. -/
theorem along_perform {R : Run σ → Run σ → Prop} (hR : Reading R)
    (hput : ∀ r w body, w.call = .put body → R r (r.afterWeb w))
    (hclose : ∀ r : Run σ, R r { r with session := { r.session with metrics := [], closed := true } })
    {o : Operation} (ho : o.asksForRules = false) : Along R (o.perform (σ := σ)) := by
  by_cases hreads : o.onlyReads = true
  · exact hR.along (uses_perform ho hreads)
  · cases o <;> simp [Operation.onlyReads] at hreads
    case scale s app e count =>
      exact hR.bind (hR.scaleDeployment hput s app e count) fun _ => hR.here
    case close => exact hR.bind (along_close hclose) fun _ => hR.here

end Client

end Rollout
