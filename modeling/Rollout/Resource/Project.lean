import Rollout.Resource.Metadata

/-!
# Rollout.Resource.Project

The other resources of a project: config maps and quotas, builds, deployment configs with their
scale, and the rules that tell what a user may do.
-/

namespace Rollout

open Document

/-! ## configuration and quota -/

/-- Texts under names. -/
structure ConfigMap where
  metadata : Metadata
  data : Labels := []
  deriving DecidableEq, Repr

instance : Resource ConfigMap where
  read? d := d.record do
    return {
      metadata := ← d.required ["metadata"] Resource.read?
      data := ← d.defaulted ["data"] asLabels? [] }
  view m := .object [("metadata", Resource.view m.metadata), ("data", ofLabels m.data)]

/-- The limits of a quota and what is used of them, by the name of the resource. -/
structure QuotaStatus where
  hard : Labels := []
  used : Labels := []
  deriving DecidableEq, Repr

instance : Resource QuotaStatus where
  read? d := d.record do
    return {
      hard := ← d.defaulted ["hard"] asLabels? []
      used := ← d.defaulted ["used"] asLabels? [] }
  view s := .object [("hard", ofLabels s.hard), ("used", ofLabels s.used)]

/-- A quota of a namespace. -/
structure ResourceQuota where
  metadata : Metadata
  status : QuotaStatus := {}
  deriving DecidableEq, Repr

instance : Resource ResourceQuota where
  read? d := d.record do
    return {
      metadata := ← d.required ["metadata"] Resource.read?
      status := ← d.defaulted ["status"] Resource.read? {} }
  view q := .object [("metadata", Resource.view q.metadata), ("status", Resource.view q.status)]

/-! ## builds -/

/-- How an application is built. -/
structure BuildConfig where
  metadata : Metadata
  deriving DecidableEq, Repr

instance : Resource BuildConfig where
  read? d := d.record do return { metadata := ← d.required ["metadata"] Resource.read? }
  view c := .object [("metadata", Resource.view c.metadata)]

/-- How far a build is, and when it was complete. -/
structure BuildStatus where
  phase : Option String := none
  completed : Option DateTime := none
  deriving DecidableEq, Repr

instance : Resource BuildStatus where
  read? d := d.record do
    return {
      phase := ← d.optional ["phase"] asText?
      completed := ← d.optional ["completionTimestamp", "completion_timestamp"] asTime? }
  view s := .object [("phase", ofText? s.phase), ("completion_timestamp", ofTime? s.completed)]

/-- A build of an application. -/
structure Build where
  metadata : Metadata
  status : BuildStatus
  deriving DecidableEq, Repr

instance : Resource Build where
  read? d := d.record do
    return {
      metadata := ← d.required ["metadata"] Resource.read?
      status := ← d.required ["status"] Resource.read? }
  view b := .object [("metadata", Resource.view b.metadata), ("status", Resource.view b.status)]

/-! ## deployment configs -/

/-- How an application is deployed; only what it says about itself matters here. -/
structure DeploymentConfig where
  metadata : Metadata
  deriving DecidableEq, Repr

instance : Resource DeploymentConfig where
  read? d := d.record do
    let _ ← d.required ["kind"] (word? "DeploymentConfig")
    return { metadata := ← d.required ["metadata"] Resource.read? }
  view c := .object [("kind", .text "DeploymentConfig"), ("metadata", Resource.view c.metadata)]

/-- The number of pods that is asked for; a missing one is zero. -/
structure ScaleSpec where
  replicas : Option Int := none
  deriving DecidableEq, Repr

instance : Resource ScaleSpec where
  read? d := d.record do return { replicas := ← d.optional ["replicas"] strictWhole? }
  view s := .object [("replicas", ofWhole? s.replicas)]

/-- The scale of a deployment config. -/
structure Scale where
  spec : ScaleSpec
  deriving DecidableEq, Repr

instance : Resource Scale where
  read? d := d.record do return { spec := ← d.required ["spec"] Resource.read? }
  view s := .object [("spec", Resource.view s.spec)]

/-! ## rules -/

/-- One rule of a review: what may be done to which resources. -/
structure PolicyRule where
  verbs : List String
  groups : List String := []
  resources : List String := []
  names : List String := []
  urls : List String := []
  deriving DecidableEq, Repr

instance : Resource PolicyRule where
  read? d := d.record do
    return {
      verbs := ← d.required ["verbs"] (asList? strictText?)
      groups := ← d.defaulted ["apiGroups", "api_groups"] (asList? strictText?) []
      resources := ← d.defaulted ["resources"] (asList? strictText?) []
      names := ← d.defaulted ["resourceNames", "resource_names"] (asList? strictText?) []
      urls := ← d.defaulted ["nonResourceURLs", "non_resource_urls"] (asList? strictText?) [] }
  view r := .object [("verbs", ofTexts r.verbs), ("api_groups", ofTexts r.groups),
    ("resources", ofTexts r.resources), ("resource_names", ofTexts r.names),
    ("non_resource_urls", ofTexts r.urls)]

/-- The rules of a review, not read yet: some may be malformed. -/
structure ReviewStatus where
  rules : List Document
  deriving Repr

instance : Resource ReviewStatus where
  read? d := d.record do return { rules := ← d.required ["rules"] (asList? some) }
  view s := .object [("rules", .list s.rules)]

/-- The answer to the question what the user may do in a namespace. -/
structure RulesReview where
  status : ReviewStatus
  deriving Repr

instance : Resource RulesReview where
  read? d := d.record do return { status := ← d.required ["status"] Resource.read? }
  view r := .object [("status", Resource.view r.status)]

end Rollout
