import Rollout.Resource.Metadata

/-!
# Rollout.Resource.Network

Services, which select pods by their labels, and routes, which send outside traffic to services.
-/

namespace Rollout

open Document

/-! ## services -/

/-- The labels by which a service selects pods. -/
structure ServiceSpec where
  selector : Labels := []
  deriving DecidableEq, Repr

instance : Resource ServiceSpec where
  read? d := d.record do return { selector := ← d.defaulted ["selector"] asLabels? [] }
  view s := .object [("selector", ofLabels s.selector)]

/-- A service, which passes traffic on to pods. -/
structure Service where
  metadata : Metadata
  spec : ServiceSpec := {}
  deriving DecidableEq, Repr

instance : Resource Service where
  read? d := d.record do
    return {
      metadata := ← d.required ["metadata"] Resource.read?
      spec := ← d.defaulted ["spec"] Resource.read? {} }
  view s := .object [("metadata", Resource.view s.metadata), ("spec", Resource.view s.spec)]

/-! ## routes -/

/-- What a route sends traffic to. -/
structure Backend where
  kind : Option String := none
  name : Option String := none
  deriving DecidableEq, Repr

instance : Resource Backend where
  read? d := d.record do
    return {
      kind := ← d.optional ["kind"] asText?
      name := ← d.optional ["name"] asText? }
  view b := .object [("kind", ofText? b.kind), ("name", ofText? b.name)]

/-- How the encryption of a route ends. -/
structure Tls where
  termination : Option String := none
  deriving DecidableEq, Repr

instance : Resource Tls where
  read? d := d.record do return { termination := ← d.optional ["termination"] asText? }
  view t := .object [("termination", ofText? t.termination)]

/-- What a route is asked to be. -/
structure RouteSpec where
  host : Option String := none
  path : Option String := none
  destination : Backend
  alternates : List Backend := []
  tls : Option Tls := none
  deriving DecidableEq, Repr

instance : Resource RouteSpec where
  read? d := d.record do
    return {
      host := ← d.optional ["host"] asText?
      path := ← d.optional ["path"] asText?
      destination := ← d.required ["to"] Resource.read?
      alternates := ← d.defaulted ["alternateBackends", "alternate_backends"] Resource.list? []
      tls := ← d.optional ["tls"] Resource.read? }
  view s := .object [("host", ofText? s.host), ("path", ofText? s.path),
    ("to", Resource.view s.destination), ("alternate_backends", Resource.viewList s.alternates),
    ("tls", Resource.viewOption s.tls)]

/-- A condition of an ingress, with its status and the time of its last change. -/
structure IngressCondition where
  type : Option String := none
  status : Option String := none
  since : Option DateTime := none
  deriving DecidableEq, Repr

instance : Resource IngressCondition where
  read? d := d.record do
    return {
      type := ← d.optional ["type"] asText?
      status := ← d.optional ["status"] asText?
      since := ← d.optional ["lastTransitionTime", "last_transition_time"] asTime? }
  view c := .object [("type", ofText? c.type), ("status", ofText? c.status),
    ("last_transition_time", ofTime? c.since)]

/-- A router's report on a route. -/
structure Ingress where
  host : Option String := none
  conditions : List IngressCondition := []
  deriving DecidableEq, Repr

instance : Resource Ingress where
  read? d := d.record do
    return {
      host := ← d.optional ["host"] asText?
      conditions := ← d.defaulted ["conditions"] Resource.list? [] }
  view i := .object [("host", ofText? i.host), ("conditions", Resource.viewList i.conditions)]

/-- What the routers report on a route. -/
structure RouteStatus where
  ingress : List Ingress := []
  deriving DecidableEq, Repr

instance : Resource RouteStatus where
  read? d := d.record do return { ingress := ← d.defaulted ["ingress"] Resource.list? [] }
  view s := .object [("ingress", Resource.viewList s.ingress)]

/-- A route, which lets traffic in from outside. -/
structure Route where
  metadata : Metadata := {}
  spec : RouteSpec
  status : RouteStatus := {}
  deriving DecidableEq, Repr

instance : Resource Route where
  read? d := d.record do
    return {
      metadata := ← d.defaulted ["metadata"] Resource.read? {}
      spec := ← d.required ["spec"] Resource.read?
      status := ← d.defaulted ["status"] Resource.read? {} }
  view r := .object [("metadata", Resource.view r.metadata), ("spec", Resource.view r.spec),
    ("status", Resource.view r.status)]

end Rollout
