import Rollout.Resource.Network
import Rollout.Url.Cluster

/-!
# Rollout.Deployment.Exposure

The URL under which a deployment can be reached from outside.

* `Service.selects` — whether a service sends its traffic to pods with the given labels;
* `RouteCandidate.ofRoute` — what counts about a route: whether and where it is admitted, and the
  rest of its URL;
* `RouteCandidate.score`, `RouteCandidate.best` — the choice: first an admitted route, then one with
  alternate backends, then one with a host of its own, then one with TLS.
-/

namespace Rollout

open Document

/-! ## services -/

/-- A selector asks for labels with values; one that asks for nothing selects nothing. -/
def selects (selector labels : Labels) : Bool :=
  !selector.isEmpty && selector.all fun (name, value) => labels.lookup name = some value

/-- Whether a service sends traffic to pods with the given labels. -/
def Service.selects (s : Service) (labels : Labels) : Bool := Rollout.selects s.spec.selector labels

/-- The names of the services that select pods with the given labels. -/
def servicesFor (services : List Service) (labels : Labels) : List String :=
  services.filterMap fun s =>
    (nonEmpty? s.metadata.name).filter fun _ => s.selects labels

/-! ## routes -/

/-- The services of a route: its destination, then its alternate backends. -/
def Route.serviceNames (r : Route) : Outcome (List String) :=
  match nonEmpty? r.spec.destination.name with
  | none => .error (.malformed (.noServiceName r.metadata.name))
  | some name =>
    .ok (name :: r.spec.alternates.filterMap fun b =>
      if b.kind = some "Service" then nonEmpty? b.name else none)

/-- Whether a condition says that the ingress is admitted. -/
def IngressCondition.isAdmission (c : IngressCondition) : Bool :=
  c.type = some "Admitted" ∧ c.status = some "True"

/-- The older of the admission found so far and another one. -/
def olderAdmission (oldest : Option (Ingress × DateTime)) (ingress : Ingress)
    (c : IngressCondition) : Outcome (Option (Ingress × DateTime)) :=
  if !c.isAdmission then .ok oldest
  else
    match c.since, oldest with
    | none, _ => .error (.malformed .noTransitionTime)
    | some t, none => .ok (some (ingress, t))
    | some t, some (_, u) =>
      match DateTime.before? t u with
      | some true => .ok (some (ingress, t))
      | some false => .ok oldest
      | none => .error .incomparable

/-- The ingress that was admitted first, with the time of its admission. -/
def oldestAdmission (ingresses : List Ingress) : Outcome (Option (Ingress × DateTime)) :=
  ingresses.foldlM (fun oldest ingress =>
    ingress.conditions.foldlM (fun oldest c => olderAdmission oldest ingress c) oldest) none

/-- The ingress that was admitted first. -/
def oldestAdmitted (ingresses : List Ingress) : Outcome (Option Ingress) :=
  return (← oldestAdmission ingresses).map (·.1)

/-! ## candidates -/

/-- What counts about a route. -/
structure RouteCandidate where
  host : String := ""
  path : String := ""
  tls : Bool := false
  admitted : Bool := false
  alternates : Bool := false
  customHost : Bool := true
  deriving DecidableEq, Repr

namespace RouteCandidate

/-- The annotation that tells whether the host of a route was made up by the cluster. -/
def generatedAnnotation : String := "openshift.io/host.generated"

/-- What counts about a route. The host is that of the ingress which admitted it first, if one did.
-/
def ofRoute (r : Route) : Outcome RouteCandidate := do
  let ingress ← oldestAdmitted r.status.ingress
  let host ← match ingress with
    | none => .ok (r.spec.host.getD "")
    | some i =>
      match i.host with
      | some host => .ok host
      | none => .error (.malformed (.noIngressHost r.metadata.name))
  return {
    host := host
    path := r.spec.path.getD ""
    tls := (nonEmpty? (r.spec.tls.bind (·.termination))).isSome
    admitted := ingress.isSome
    alternates := !r.spec.alternates.isEmpty
    customHost := r.metadata.annotations.lookup generatedAnnotation ≠ some "true" }

/-- The weight of a property in a score: more than that of all properties after it. -/
def points (holds : Bool) (weight : Nat) : Nat := if holds then weight else 0

/-- The sum of the points for what holds of a route. -/
def score (c : RouteCandidate) : Nat :=
  points c.admitted 11 + points c.alternates 5 + points c.customHost 3 + points c.tls 1

/-- The candidate with the highest score, the first one of several. -/
def best : List RouteCandidate → Option RouteCandidate
  | [] => none
  | c :: rest =>
    some (rest.foldl (fun best next => if best.score < next.score then next else best) c)

/-- The URL that a route leads to. -/
def url (c : RouteCandidate) : String :=
  (if c.tls then "https" else "http") ++ "://" ++ c.host ++
    String.ofList (Url.slashed c.path.toList)

/-- A candidate with all of its fields. -/
def view (c : RouteCandidate) : Document := .object [("host", .text c.host), ("path", .text c.path),
  ("tls", .bool c.tls), ("admitted", .bool c.admitted),
  ("has_alternate_backends", .bool c.alternates), ("custom_host", .bool c.customHost)]

/-- The candidate that a record holds, each of its members with a usual value. -/
def read (d : Document) : Outcome RouteCandidate :=
  let member {α : Type} (name : String) (reading : Document → Option α) (usual : α) : Option α :=
    (d.get? name).elim (some usual) reading
  let candidate : Option RouteCandidate := do
    return {
      host := ← member "host" asText? ""
      path := ← member "path" asText? ""
      tls := ← member "tls" asFlag? false
      admitted := ← member "admitted" asFlag? false
      alternates := ← member "has_alternate_backends" asFlag? false
      customHost := ← member "custom_host" asFlag? true }
  match candidate with
  | some c => .ok c
  | none => .error .invalid

end RouteCandidate

/-! ## from routes to the URL -/

/-- Adds a candidate to a service's. -/
def addCandidate (table : List (String × List RouteCandidate)) (service : String)
    (c : RouteCandidate) : List (String × List RouteCandidate) :=
  table.map fun (name, cs) => if name = service then (name, cs ++ [c]) else (name, cs)

/-- Adds a route to the services of the table that it names, as often as it names them. -/
def addRoute (table : List (String × List RouteCandidate)) (r : Route) :
    Outcome (List (String × List RouteCandidate)) := do
  let names := (← r.serviceNames).filter fun name => (table.lookup name).isSome
  if names.isEmpty then return table
  else
    let c ← RouteCandidate.ofRoute r
    return names.foldl (fun table name => addCandidate table name c) table

/-- The candidates of each service that selects pods with the given labels. -/
def candidatesByService (services : List Service) (routes : List Route) (labels : Labels) :
    Outcome (List (String × List RouteCandidate)) :=
  routes.foldlM addRoute ((servicesFor services labels).eraseDups.map fun name => (name, []))

/-- The URL of the best candidate. -/
def bestUrl (table : List (String × List RouteCandidate)) : Option String :=
  (RouteCandidate.best (table.flatMap (·.2))).map (·.url)

end Rollout
