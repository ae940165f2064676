import Rollout.Proofs.Guards
import Rollout.Proofs.Remembered
import Rollout.Proofs.Setup

/-!
# Rollout.Proofs.Coverage

The checks cover what the operations do that they guard.

* `ApiUse`, `Request.Reads` — what a request does: a verb on the resources of a namespace;
* `Session.Permits` — the grants that are remembered permit it;
* `permits_of_consult` — after a check that is answered with yes, the grants of the namespaces that
  it is about are remembered, and meet what it asked for;
* `Guard.sendsOnly` — an operation needs no more than its check asks for;
* `Guard.covered` — what an operation asks for is permitted, however long ago its check was.
-/

namespace Rollout

open Client

variable {σ : Type} [Cluster σ]

/-! ## what requests do -/

/-- A verb on resources of a namespace.  All of them are of the oldest group. -/
structure ApiUse where
  namespace_ : String
  resource : String
  verb : String
  deriving DecidableEq, Repr

/-- What a question about core resources does. -/
def CoreQuery.use : CoreQuery → ApiUse
  | configMap ns _ => ⟨ns, "configmaps", "get"⟩
  | resourceQuota ns _ => ⟨ns, "resourcequotas", "get"⟩
  | controllers ns => ⟨ns, "replicationcontrollers", "list"⟩
  | pods ns _ => ⟨ns, "pods", "list"⟩
  | services ns => ⟨ns, "services", "list"⟩

/-- A text is one segment of a path: it leads neither on nor back, and out of no path. -/
def isPlainSegment (s : String) : Bool :=
  s ≠ "" && s ≠ "." && s ≠ ".." && s.toList.all fun c => c ∉ ['/', '?', '#', '%']

namespace ApiPath

/-- What follows the namespace are plain segments. -/
def isPlain (p : ApiPath) : Bool :=
  isPlainSegment p.collection && p.name.all isPlainSegment && p.part.all isPlainSegment

/-- A path to a collection is plain if the name of the collection is. -/
theorem isPlain_collection {ns collection : String} (h : isPlainSegment collection = true) :
    (ApiPath.mk ns collection none none).isPlain = true := by
  simp [isPlain, h]

/-- A path to an object is plain if its names are. -/
theorem isPlain_object {ns collection name : String} {part : Option String}
    (hcollection : isPlainSegment collection = true) (hname : isPlainSegment name = true)
    (hpart : part.all isPlainSegment = true) :
    (ApiPath.mk ns collection (some name) part).isPlain = true := by
  simp [isPlain, hcollection, hname, hpart]

/-- The resource that a path leads to: a collection, or a part of its members. -/
def resource (p : ApiPath) : String := p.collection ++ (p.part.map ("/" ++ ·)).getD ""

/-- What is done to the resource.  One object is got, and a collection is listed. -/
def verb? (p : ApiPath) : Call → Option String
  | .get => some (if p.name.isSome then "get" else "list")
  | .put _ => some "update"
  | .post _ => some "create"
  | .metrics _ _ => none

end ApiPath

/-- A request does something to resources of a namespace. -/
inductive Request.Reads (s : Session) : Request → ApiUse → Prop where
  | core (q : CoreQuery) (timeout : Option Binary64) : Reads s (.core q timeout) q.use
  | web {p : ApiPath} {params : Option Labels} {call : Call} {w : WebRequest} {verb : String} :
    p.isPlain = true → (Ask.mk p.text params call).request s = .ok w → p.verb? call = some verb →
    Reads s (.web w) ⟨p.namespace_, p.resource, verb⟩

/-! ## what is permitted -/

/-- A use is one of those that requirements ask for in a namespace. -/
structure ApiUse.In (u : ApiUse) (ns : String) (required : List Requirement) : Prop where
  namespace_ : u.namespace_ = ns
  required : ∃ need ∈ required, need.kind = ⟨"", u.resource⟩ ∧ u.verb ∈ need.verbs

/-- What some requirements cover, more of them cover, too. -/
theorem ApiUse.In.mono {u : ApiUse} {ns : String} {required more : List Requirement}
    (h : u.In ns required) (hsub : required ⊆ more) : u.In ns more := by
  obtain ⟨need, hneed, hkind⟩ := h.required
  exact ⟨h.namespace_, need, hsub hneed, hkind⟩

/-- The grants of the namespace that are remembered permit the use. -/
def Session.Permits (s : Session) (u : ApiUse) : Prop :=
  ∃ grants, s.grants.lookup u.namespace_ = some grants ∧
    grants.permits [Access.need u.resource [u.verb]] = true

/-- Grants that permit requirements permit each verb of each of them. -/
theorem Grants.permits_of_mem {grants : Grants} {required : List Requirement}
    (h : grants.permits required = true) {need : Requirement} (hneed : need ∈ required)
    {verb : String} (hverb : verb ∈ need.verbs) :
    grants.permits [⟨need.kind, [verb]⟩] = true := by
  have hmeets : grants.meets need = true := List.all_eq_true.mp h need hneed
  simp only [permits, List.all_cons, List.all_nil, Bool.and_true]
  unfold meets at *
  cases hlookup : grants.lookup need.kind with
  | none =>
      rw [hlookup] at hmeets
      cases hmeets
  | some verbs =>
      rw [hlookup] at hmeets
      have hgranted := List.all_eq_true.mp hmeets verb hverb
      simpa using hgranted

/-- Requirements that are met permit what they ask for. -/
theorem Session.permits_of_in {s : Session} {u : ApiUse} {ns : String} {grants : Grants}
    {required : List Requirement} (hlookup : s.grants.lookup ns = some grants)
    (hgrants : grants.permits required = true) (hu : u.In ns required) : s.Permits u := by
  obtain ⟨hns, need, hneed, hkind, hverb⟩ := hu
  have hpermits := grants.permits_of_mem hgrants hneed hverb
  rw [hkind] at hpermits
  exact ⟨grants, by rw [hns, hlookup], hpermits⟩

/-! ## what a check leaves behind -/

/-- After a question that is answered with yes, the grants of its namespace are remembered, and meet
its requirements. -/
theorem Consultation.permits_after {q : Consultation σ} (h : q.answer = .ok true) :
    ∃ grants, q.after.session.grants.lookup q.namespace_ = some grants ∧
      grants.permits q.required = true := by
  cases hlookup : q.before.session.grants.lookup q.namespace_ with
  | some grants =>
      obtain ⟨hanswer, hafter⟩ := of_remembered hlookup
      rw [h] at hanswer
      exact ⟨grants, by rw [hafter, hlookup], (Except.ok.inj hanswer).symm⟩
  | none =>
      cases hreview : q.review with
      | error e =>
          rw [(of_no_review hlookup hreview).1] at h
          cases h
      | ok review =>
          obtain ⟨hanswer, w, -, hafter⟩ := of_review hlookup hreview
          rw [h] at hanswer
          refine ⟨Grants.ofReview review, ?_, (Except.ok.inj hanswer).symm⟩
          rw [hafter, Run.lookup_learn, Run.session_afterWeb, hlookup, if_pos rfl]
          rfl

/-- Demands that are answered with yes are, one after the other. -/
theorem consult_cons_eq_true {environment : String} {required : List Requirement}
    {rest : List (String × List Requirement)} {r : Run σ}
    (h : (consult ((environment, required) :: rest) r).2.1 = .ok true) :
    ∃ q : Consultation σ, q.required = required ∧ q.before = r ∧
      r.session.namespaceFor environment = .ok q.namespace_ ∧ q.answer = .ok true ∧
      (consult rest q.after).2.1 = .ok true ∧
      (consult ((environment, required) :: rest) r).2.2 = (consult rest q.after).2.2 := by
  rw [consult] at h ⊢
  cases hns : r.session.namespaceFor environment with
  | error e =>
      rw [hns] at h
      cases h
  | ok ns =>
      rw [hns] at h
      simp only at h ⊢
      rcases hanswer : (Consultation.mk ns required r).answer with e | _ | _
      · rw [hanswer] at h
        cases h
      · rw [hanswer] at h
        cases h
      · rw [hanswer] at h
        exact ⟨⟨ns, required, r⟩, rfl, rfl, rfl, hanswer, h, rfl⟩

/-- So it is after several of them, for each one. -/
theorem permits_of_consult {demands : List (String × List Requirement)} {r : Run σ}
    (h : (consult demands r).2.1 = .ok true) {environment : String} {required : List Requirement}
    (hmem : (environment, required) ∈ demands) :
    ∃ ns grants, r.session.namespaceFor environment = .ok ns ∧
      (consult demands r).2.2.session.grants.lookup ns = some grants ∧
      grants.permits required = true := by
  induction demands generalizing r with
  | nil => cases hmem
  | cons demand rest ih =>
      obtain ⟨environment', required'⟩ := demand
      obtain ⟨q, rfl, rfl, hns, hanswer, hrest, hend⟩ := consult_cons_eq_true h
      rw [hend]
      obtain hfirst | hlater := List.mem_cons.mp hmem
      · obtain ⟨rfl, rfl⟩ := Prod.mk.inj hfirst
        obtain ⟨grants, hlookup, hpermits⟩ := q.permits_after hanswer
        exact ⟨q.namespace_, grants, hns, (leads_consult rest q.after).remembered hlookup, hpermits⟩
      · obtain ⟨ns, grants, hfor, hlookup, hpermits⟩ := ih hrest hlater
        rw [q.sameSetup_after.namespaceFor] at hfor
        exact ⟨ns, grants, hfor, hlookup, hpermits⟩

/-! ## what the operations ask for -/

/-- A request does something that builds may be looked at for in the user's namespace, or that
requirements ask for in another one. -/
def Request.NeedsOnly (s : Session) (ns : String) (required : List Requirement) (w : Request) :
    Prop :=
  ∃ u, w.Reads s u ∧ (u.In s.config.userNamespace Access.builds ∨ u.In ns required)

/-- A request that needs no more than some requirements needs no more than others that include them. -/
theorem Request.NeedsOnly.mono {s : Session} {ns : String} {required more : List Requirement}
    {w : Request} (h : w.NeedsOnly s ns required) (hsub : required ⊆ more) :
    w.NeedsOnly s ns more := by
  obtain ⟨u, hreads, hu⟩ := h
  exact ⟨u, hreads, hu.imp_right fun hin => hin.mono hsub⟩

/-- A question about core resources needs what it uses. -/
theorem needsOnly_core {s : Session} {ns : String} {required : List Requirement} {q : CoreQuery}
    {w : Request} (h : (Question.core q).request s = .ok w) (hq : q.use.In ns required) :
    w.NeedsOnly s ns required := by
  cases h
  exact ⟨q.use, .core q _, .inr hq⟩

/-- Asking for the builds needs nothing in the namespace of the environment. -/
theorem needsOnly_builds {s : Session} {space app ns : String} {required : List Requirement}
    {w : WebRequest} (h : (buildsAsk s space app).request s = .ok w) :
    (Request.web w).NeedsOnly s ns required := by
  have hplain : isPlainSegment "builds" = true := by decide +kernel
  exact ⟨_, .web (ApiPath.isPlain_collection hplain) h rfl, .inl ⟨rfl, _, .head _, rfl, .head _⟩⟩

/-- Asking for a deployment config needs what the usage of a deployment needs. -/
theorem needsOnly_config {s : Session} {ns name : String} {w : WebRequest}
    (hname : isPlainSegment name = true) (h : (configAsk ns name).request s = .ok w) :
    (Request.web w).NeedsOnly s ns Access.usage := by
  have hplain : isPlainSegment "deploymentconfigs" = true := by decide +kernel
  exact ⟨_, .web (ApiPath.isPlain_object hplain hname rfl) h rfl,
    .inr ⟨rfl, _, .head _, rfl, .head _⟩⟩

/-- Asking for the routes needs what showing a deployment needs. -/
theorem needsOnly_routes {s : Session} {ns : String} {w : WebRequest}
    (h : (routesAsk ns).request s = .ok w) : (Request.web w).NeedsOnly s ns Access.deployment := by
  have hplain : isPlainSegment "routes" = true := by decide +kernel
  exact ⟨_, .web (ApiPath.isPlain_collection hplain) h rfl,
    .inr ⟨rfl, Access.need "routes" ["list"], by decide, rfl, .head _⟩⟩

/-- Reading and storing a scale needs what scaling requires. -/
theorem needsOnly_scale {s : Session} {ns name : String} {params : Option Labels} {call : Call}
    {verb : String} {w : WebRequest} (hname : isPlainSegment name = true)
    (h : (Ask.mk (scalePath ns name).text params call).request s = .ok w)
    (hverb : (scalePath ns name).verb? call = some verb) (hmem : verb ∈ ["get", "update"]) :
    (Request.web w).NeedsOnly s ns Access.scale := by
  have hplain : isPlainSegment "deploymentconfigs" = true := by decide +kernel
  have hpart : (some "scale").all isPlainSegment = true := by decide +kernel
  have hresource : "deploymentconfigs/scale" = "deploymentconfigs" ++ ("/" ++ "scale") := by decide
  exact ⟨_, .web (ApiPath.isPlain_object hplain hname hpart) h hverb,
    .inr ⟨rfl, Access.need "deploymentconfigs/scale" ["get", "update"], by decide,
      congrArg (ResourceKind.mk "") hresource, hmem⟩⟩

/-- Looking up the current deployment needs what looking at its usage requires. -/
theorem needsOnly_currentQuestions {s : Session} {space app ns name : String}
    (hname : isPlainSegment name = true) {q : Question}
    (hq : q ∈ currentQuestions s space app ns name) {w : Request} (hw : q.request s = .ok w) :
    w.NeedsOnly s ns Access.usage := by
  simp only [currentQuestions, List.mem_cons, List.not_mem_nil, or_false] at hq
  obtain rfl | rfl | rfl | rfl := hq
  · obtain ⟨v, hv, rfl⟩ := Outcome.map_eq_ok_iff.mp hw
    exact needsOnly_builds hv
  · obtain ⟨v, hv, rfl⟩ := Outcome.map_eq_ok_iff.mp hw
    exact needsOnly_config hname hv
  · exact needsOnly_core hw ⟨rfl, Access.need "replicationcontrollers" ["list"], by decide, rfl,
      .head _⟩
  · exact needsOnly_core hw ⟨rfl, Access.need "pods" ["list"], by decide, rfl, .head _⟩

/-- Showing a deployment needs what looking at it requires. -/
theorem needsOnly_deploymentQuestions {s : Session} {space app ns name : String}
    (hname : isPlainSegment name = true) {q : Question}
    (hq : q ∈ deploymentQuestions s space app ns name) {w : Request} (hw : q.request s = .ok w) :
    w.NeedsOnly s ns Access.deployment := by
  obtain hcurrent | hlater := List.mem_append.mp hq
  · exact (needsOnly_currentQuestions hname hcurrent hw).mono (by decide)
  · simp only [List.mem_cons, List.not_mem_nil, or_false] at hlater
    obtain rfl | rfl := hlater
    · exact needsOnly_core hw ⟨rfl, Access.need "services" ["list"], by decide, rfl, .head _⟩
    · obtain ⟨v, hv, rfl⟩ := Outcome.map_eq_ok_iff.mp hw
      exact needsOnly_routes hv

/-! ## what the operations send -/

/-- From one state to another, requests have been sent that need no more than requirements ask for.
Where queries are left aside, the metrics service may have been asked, too. -/
def SendsOnly (ns : String) (required : List Requirement) (queries : Bool) (r r' : Run σ) : Prop :=
  ∃ requests, r'.sent = r.sent ++ requests ∧ ∀ w ∈ requests,
    (queries = true ∧ w.IsQuery ns) ∨ w.NeedsOnly r.session ns required

namespace Guard

/-- The questions of an operation need what its check asks for. -/
theorem needsOnly (g : Guard) {s : Session} {space app ns name : String}
    (hname : isPlainSegment name = true) {q : Question} (hq : g.Asks s space app ns name q)
    {w : Request} (hw : q.request s = .ok w) : w.NeedsOnly s ns g.required := by
  cases g with
  | deployment => exact needsOnly_deploymentQuestions hname hq hw
  | scale count =>
      obtain rfl | rfl | ⟨body, rfl⟩ := hq
      · obtain ⟨v, hv, rfl⟩ := Outcome.map_eq_ok_iff.mp hw
        exact needsOnly_builds hv
      · obtain ⟨v, hv, rfl⟩ := Outcome.map_eq_ok_iff.mp hw
        exact needsOnly_scale hname hv rfl (.head _)
      · obtain ⟨v, hv, rfl⟩ := Outcome.map_eq_ok_iff.mp hw
        exact needsOnly_scale hname hv rfl (.tail _ (.head _))
  | usage start => exact needsOnly_currentQuestions hname hq hw
  | usageSeries start finish limit => exact needsOnly_currentQuestions hname hq hw

/-- An operation needs what its check asks for. -/
theorem sendsOnly (g : Guard) {space app environment ns name : String} {r : Run σ}
    (hns : r.session.environments.lookup environment = some ns)
    (hname : NamesConfig ns app space r name) (hplain : isPlainSegment name = true) :
    SendsOnly ns g.required g.queries r ((g.operation space app environment).perform.eval r).2 := by
  obtain ⟨requests, hsent, hput⟩ := g.sendsAsked hns hname
  refine ⟨requests, hsent, fun w hw => (hput w hw).imp_right ?_⟩
  rintro ⟨q, hq, hrequest⟩
  exact g.needsOnly hplain hq hrequest

/-- Between two states, all requests are permitted by the grants that are remembered of the user's
namespace and of another one.  Queries of the metrics service are left aside, where they belong to
the operation. -/
def Covers (g : Guard) (ns : String) (r r' : Run σ) : Prop :=
  ∃ requests, r'.sent = r.sent ++ requests ∧ ∀ w ∈ requests,
    (g.queries = true ∧ w.IsQuery ns) ∨ ∃ u, w.Reads r.session u ∧
      (u.namespace_ = r.session.config.userNamespace ∨ u.namespace_ = ns) ∧ r.session.Permits u

omit [Cluster σ] in
/-- Where the grants that are remembered meet what a check asks for, they cover the operation. -/
theorem covers_of_permits (g : Guard) {ns : String} {user grants : Grants} {r r' : Run σ}
    (huser : r.session.grants.lookup r.session.config.userNamespace = some user)
    (hbuilds : user.permits Access.builds = true) (hns : r.session.grants.lookup ns = some grants)
    (hrequired : grants.permits g.required = true)
    (hsends : SendsOnly ns g.required g.queries r r') : g.Covers ns r r' := by
  obtain ⟨requests, hsent, hneeds⟩ := hsends
  refine ⟨requests, hsent, fun w hw => (hneeds w hw).imp_right ?_⟩
  rintro ⟨u, hreads, hu | hu⟩
  · exact ⟨u, hreads, .inl hu.namespace_, Session.permits_of_in huser hbuilds hu⟩
  · exact ⟨u, hreads, .inr hu.namespace_, Session.permits_of_in hns hrequired hu⟩

/-- After a check that is answered with yes, grants that meet its requirements are remembered. -/
theorem permits_after_check (g : Guard) {environment ns : String} {r r₁ : Run σ}
    (hother : environment ≠ userEnvironment)
    (hns : r.session.environments.lookup environment = some ns)
    (hcheck : (g.check environment).ask.eval r = (.ok true, r₁)) :
    ∃ user grants, r₁.session.grants.lookup r.session.config.userNamespace = some user ∧
      user.permits Access.builds = true ∧ r₁.session.grants.lookup ns = some grants ∧
      grants.permits g.required = true := by
  rw [eval_ask, demands_check] at hcheck
  obtain ⟨hanswer, rfl⟩ := Prod.mk.inj hcheck
  obtain ⟨userNs, user, hfor, huser, hbuilds⟩ := permits_of_consult hanswer (.head _)
  obtain ⟨ns', grants, hfor', hgrants, hrequired⟩ :=
    permits_of_consult hanswer (.tail _ (.head _))
  rw [Session.namespaceFor, if_pos rfl] at hfor
  rw [Session.namespaceFor, if_neg hother, hns] at hfor'
  cases hfor
  cases hfor'
  exact ⟨user, grants, huser, hbuilds, hgrants, hrequired⟩

/-- A check that was answered with yes covers the operation ever after: whatever else the client was
asked to do in between, and however the cluster has changed, all that the operation asks for is
permitted by the grants that are remembered. -/
theorem covered (g : Guard) {space app environment ns : String} {r r₁ : Run σ}
    (hother : environment ≠ userEnvironment)
    (hns : r.session.environments.lookup environment = some ns)
    (hcheck : (g.check environment).ask.eval r = (.ok true, r₁)) (steps : List (Step σ))
    (hplain : ∀ name r', (configNameIn ns app space).eval (after steps r₁) = (.ok name, r') →
      isPlainSegment name = true) :
    g.Covers ns (after steps r₁)
      ((g.operation space app environment).perform.eval (after steps r₁)).2 := by
  obtain ⟨user, grants, huser, hbuilds, hgrants, hrequired⟩ :=
    g.permits_after_check hother hns hcheck
  have hsetup : SameSetup r (after steps r₁) := by
    have hchecked := sameSetup_perform (.check (g.check environment)) r
    simp only [Operation.perform, eval_wrap, hcheck] at hchecked
    exact hchecked.trans (sameSetup_after steps r₁)
  have hleads := leads_history steps r₁
  rw [← hsetup.config] at huser
  rw [← hsetup.environments] at hns
  obtain ⟨name, hname, hsegment⟩ := exists_namesConfig ⟨"app", by decide +kernel⟩ hplain
  exact g.covers_of_permits (hleads.remembered huser) hbuilds (hleads.remembered hgrants) hrequired
    (g.sendsOnly hns hname hsegment)

end Guard

/-- A client whose user may list builds, and may get and update the scale of deployments in an
environment. -/
def permitted : Run Recorded where
  session := ⟨⟨.cluster "https://api.a.b" "t" "https://api.a.b" "t", "my", none, true, 1⟩, ⟨0, some 0⟩,
    [("run", "my-run")], [], [], false⟩
  cluster := ⟨[], [
    ("POST /oapi/v1/namespaces/my/selfsubjectrulesreviews", review [("builds", ["list"])]),
    ("POST /oapi/v1/namespaces/my-run/selfsubjectrulesreviews",
      review [("deploymentconfigs", ["get"]), ("deploymentconfigs/scale", ["get", "update"])]),
    ("GET /oapi/v1/namespaces/my/builds",
      .answer 200 (.document (.object [("kind", .text "BuildList"), ("items", .list [])]))),
    ("GET /oapi/v1/namespaces/my-run/deploymentconfigs/app/scale",
      .answer 200 (.document (.object [("spec", .object [("replicas", .int 2)])])))]⟩
where
  review (rules : List (String × List String)) : WebReply :=
    .answer 200 (.document (.object [("kind", .text "SelfSubjectRulesReview"),
      ("status", .object [("rules", .list (rules.map fun (resource, verbs) =>
        .object [("apiGroups", .list [.text ""]), ("resources", .list [.text resource]),
          ("verbs", .list (verbs.map .text))]))])]))

/-- Afterwards the cluster grants nothing any more. -/
def revoked : Step Recorded :=
  .change (fun c => { c with http := c.http.filter fun (key, _) => key.startsWith "GET" }) ⟨1, some 0⟩

/-- Scaling is covered by a check that was made before. -/
theorem permitted_covered :
    ∃ r₁, ((Guard.scale 3).check "run").ask.eval permitted = (.ok true, r₁) ∧
      (Guard.scale 3).Covers "my-run" (after [revoked] r₁)
        (((Guard.scale 3).operation "space" "app" "run").perform.eval (after [revoked] r₁)).2 ∧
      (((Guard.scale 3).operation "space" "app" "run").perform.eval
        (after [revoked] r₁)).2.sent.length = 5 := by
  obtain ⟨r₁, hr₁⟩ : ∃ r₁, r₁ = (((Guard.scale 3).check "run").ask.eval permitted).2 := ⟨_, rfl⟩
  have hcheck : ((Guard.scale 3).check "run").ask.eval permitted = (.ok true, r₁) := by
    have hyes : (((Guard.scale 3).check "run").ask.eval permitted).1.toOption = some true := by
      decide +kernel
    rw [hr₁]
    exact Prod.ext (Outcome.eq_ok_of_toOption hyes) rfl
  refine ⟨r₁, hcheck, ?_, ?_⟩
  · have hplain : ((configNameIn "my-run" "app" "space").eval (after [revoked] r₁)).1.toOption.all
        isPlainSegment = true := by
      rw [hr₁]
      decide +kernel
    refine Guard.covered (.scale 3) (by decide) rfl hcheck [revoked] fun name r' hname => ?_
    rw [hname] at hplain
    exact hplain
  · rw [hr₁]
    decide +kernel

end Rollout
