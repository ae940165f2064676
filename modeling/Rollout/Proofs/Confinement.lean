import Rollout.Proofs.Address
import Rollout.Proofs.Coverage
import Rollout.Proofs.Onward
import Rollout.Proofs.Spaces

/-!
# Rollout.Proofs.Confinement

Which resources the operations on deployments address.

* `ApiPath.segments`, `addressed_of_leads` — a path of plain segments is addressed as it is written;
* `detour`, `addressed_of_detour` — a name that leads out of its namespace, and where it leads;
* `Guard.paths`, `Request.Within` — what an operation is to address;
* `Guard.staysWithin` — where the builds give a plain name, it addresses nothing else;
* `Strays` — where they give a detour, the scale of an object elsewhere is read and stored.
-/

namespace Rollout

open Client Url

variable {σ : Type}

/-! ## paths of the API -/

/-- A plain segment is clean, leads on, and is not empty. -/
theorem isPlainSegment_iff {s : String} :
    isPlainSegment s = true ↔ IsClean s.toList ∧ LeadsOn s.toList ∧ s.toList ≠ [] := by
  have hnil : s.toList ≠ [] ↔ s ≠ "" := by simp
  have hhere : s.toList ≠ ['.'] ↔ s ≠ "." := not_congr (by rw [← String.toList_inj]; rfl)
  have hup : s.toList ≠ ['.', '.'] ↔ s ≠ ".." := not_congr (by rw [← String.toList_inj]; rfl)
  rw [hnil, LeadsOn, hhere, hup, IsClean, isPlainSegment]
  simp only [Bool.and_eq_true, decide_eq_true_eq, List.all_eq_true]
  constructor
  · rintro ⟨⟨⟨hempty, hhere⟩, hup⟩, hclean⟩
    exact ⟨hclean, ⟨hhere, hup⟩, hempty⟩
  · rintro ⟨hclean, ⟨hhere, hup⟩, hempty⟩
    exact ⟨⟨⟨hempty, hhere⟩, hup⟩, hclean⟩

namespace ApiPath

/-- What the paths of a namespace begin with. -/
def root : List (List Char) := ["oapi".toList, "v1".toList, "namespaces".toList]

/-- The segments of a path as it is written. -/
def segments (p : ApiPath) : List (List Char) :=
  root ++ ([p.namespace_, p.collection] ++ p.name.toList ++ p.part.toList).map String.toList

/-- The text of a path is made of its segments. -/
theorem text_eq (p : ApiPath) : p.text = String.ofList (joined p.segments) := by
  obtain ⟨ns, collection, name, part⟩ := p
  have hroot : "/oapi/v1/namespaces/".toList = joined root ++ ['/'] := by decide +kernel
  have hslash : "/".toList = ['/'] := by decide +kernel
  have hsegment (s : Option String) :
      (text.segment s).toList = joined (s.toList.map String.toList) := by
    cases s with
    | none => rfl
    | some s =>
        unfold text.segment
        rw [Option.map_some, Option.getD_some, String.toList_append, hslash]
        simp [joined]
  rw [← String.toList_inj, String.toList_ofList]
  unfold text
  simp only [String.toList_append, hroot, hslash, hsegment, segments, joined, List.map_append,
    List.flatMap_append, List.map_cons, List.flatMap_cons, List.append_assoc, List.cons_append,
    List.nil_append]

/-- A path of plain segments, and its namespace one of them. -/
def Leads (p : ApiPath) : Prop := isPlainSegment p.namespace_ = true ∧ p.isPlain = true

/-- All segments that a path names are plain if it leads somewhere. -/
theorem isPlainSegment_of_leads {p : ApiPath} (h : p.Leads) {s : String}
    (hs : s ∈ [p.namespace_, p.collection] ++ p.name.toList ++ p.part.toList) :
    isPlainSegment s = true := by
  obtain ⟨hns, hplain⟩ := h
  simp only [isPlain, Bool.and_eq_true] at hplain
  obtain ⟨⟨hcollection, hname⟩, hpart⟩ := hplain
  simp only [List.mem_append, List.mem_cons, List.not_mem_nil, or_false, Option.mem_toList] at hs
  obtain ((rfl | rfl) | hs) | hs := hs
  · exact hns
  · exact hcollection
  · rw [hs] at hname
    exact hname
  · rw [hs] at hpart
    exact hpart

/-- So are the segments that all paths begin with. -/
theorem isClean_root : ∀ s ∈ root, IsClean s ∧ LeadsOn s := by decide +kernel

/-- Each segment of such a path is clean and leads on. -/
theorem isClean_of_leads {p : ApiPath} (h : p.Leads) :
    ∀ s ∈ p.segments, IsClean s ∧ LeadsOn s := by
  intro s hs
  obtain hs | hs := List.mem_append.mp hs
  · exact isClean_root s hs
  · obtain ⟨text, htext, rfl⟩ := List.mem_map.mp hs
    obtain ⟨hclean, hleads, -⟩ := isPlainSegment_iff.mp (isPlainSegment_of_leads h htext)
    exact ⟨hclean, hleads⟩

/-- A path of plain segments is addressed as it is written. -/
theorem addressed_of_leads {p : ApiPath} (h : p.Leads) {base : String} (hbase : IsOrigin base)
    {t : Target} (ht : Target.ofText (base ++ p.text) = .ok t) :
    t.decodedPath = p.text ∧ t.query = none := by
  have hall := isClean_of_leads h
  have hsteps : p.segments.foldl stepTo [[]] = [] :: p.segments :=
    foldl_stepTo_of_leadsOn (fun s hs => (hall s hs).2) [[]]
  rw [p.text_eq] at ht ⊢
  exact addressed_of_segments hbase (fun s hs => (hall s hs).1) hsteps (by decide) ht

end ApiPath

/-- A name that leads out of its namespace, to an object of another one. -/
def detour (other collection object : String) : String :=
  "../../" ++ other ++ "/" ++ collection ++ "/" ++ object

/-- Two steps up. -/
def upward : List (List Char) := ["..".toList, "..".toList]

/-- A name that leads out of a collection is a path of its own behind a slash. -/
theorem cons_detour (other collection object : String) :
    '/' :: (detour other collection object).toList =
      joined (upward ++ [other, collection, object].map String.toList) := by
  have hup : "../../".toList = "..".toList ++ '/' :: "..".toList ++ ['/'] := by decide +kernel
  have hslash : "/".toList = ['/'] := by decide +kernel
  unfold detour
  simp only [String.toList_append, hup, hslash, upward, joined, List.map_cons, List.map_nil,
    List.flatMap_cons, List.flatMap_nil, List.append_assoc, List.cons_append, List.nil_append,
    List.append_nil]

/-- Two steps up from an object lead to the namespaces. -/
theorem foldl_upward {place : List (List Char)} (h : place ≠ []) (ns collection : List Char) :
    upward.foldl stepTo (place ++ [ns] ++ [collection]) = place := by
  change stepTo (stepTo (place ++ [ns] ++ [collection]) ['.', '.']) ['.', '.'] = place
  rw [stepTo_up (by simp), stepTo_up h]

/-- What is looked up under a detour is that object. -/
theorem addressed_of_detour {ns other collection object : String} {part : Option String}
    (hns : isPlainSegment ns = true)
    (hthere : (ApiPath.mk other collection (some object) part).Leads) {base : String}
    (hbase : IsOrigin base) {t : Target}
    (ht : Target.ofText (base ++ (ApiPath.mk ns "deploymentconfigs"
      (some (detour other collection object)) part).text) = .ok t) :
    t.decodedPath = (ApiPath.mk other collection (some object) part).text ∧ t.query = none := by
  let onward := ([other, collection] ++ [object] ++ part.toList).map String.toList
  let config : ApiPath := ⟨ns, "deploymentconfigs", none, none⟩
  have hconfig : config.Leads := ⟨hns, ApiPath.isPlain_collection (by decide +kernel)⟩
  have hfront := ApiPath.isClean_of_leads hconfig
  have honward : ∀ s ∈ onward, IsClean s ∧ LeadsOn s := fun s hs =>
    ApiPath.isClean_of_leads hthere s (List.mem_append_right ApiPath.root hs)
  have hwritten : (ApiPath.mk ns "deploymentconfigs" (some (detour other collection object))
      part).text = String.ofList (joined (config.segments ++ upward ++ onward)) := by
    have hname : joined [(detour other collection object).toList] =
        joined (upward ++ [other, collection, object].map String.toList) := by
      rw [← cons_detour, joined_cons]
      exact List.append_nil _
    rw [ApiPath.text_eq]
    refine congrArg String.ofList ?_
    calc joined (ApiPath.mk ns "deploymentconfigs" (some (detour other collection object))
          part).segments
        = joined config.segments ++ joined [(detour other collection object).toList] ++
            joined (part.toList.map String.toList) := by
          rw [← joined_append, ← joined_append]
          rfl
      _ = joined (config.segments ++ upward ++ onward) := by
          rw [hname, ← joined_append, ← joined_append, ← List.append_assoc, List.append_assoc]
          rfl
  have hsteps : (config.segments ++ upward ++ onward).foldl stepTo [[]] =
      [] :: (ApiPath.mk other collection (some object) part).segments := by
    rw [List.foldl_append, List.foldl_append, foldl_stepTo_of_leadsOn fun s hs => (hfront s hs).2]
    change onward.foldl stepTo (upward.foldl stepTo
      ([] :: ApiPath.root ++ [ns.toList] ++ ["deploymentconfigs".toList])) = _
    rw [foldl_upward (List.cons_ne_nil _ _),
      foldl_stepTo_of_leadsOn fun s hs => (honward s hs).2]
    rfl
  rw [ApiPath.text_eq]
  rw [hwritten] at ht
  refine addressed_of_segments hbase (fun s hs => ?_) hsteps (by decide) ht
  obtain hs | hs := List.mem_append.mp hs
  · obtain hs | hs := List.mem_append.mp hs
    · exact (hfront s hs).1
    · have hup : ∀ s ∈ upward, IsClean s := by decide +kernel
      exact hup s hs
  · exact (honward s hs).1

/-! ## requests within bounds -/

/-- A text begins with what it is put together from first. -/
theorem isPrefix_append (a b : String) : a.toList <+: (a ++ b).toList := by
  rw [String.toList_append]
  exact List.prefix_append _ _

/-- A request under a path addresses what the path leads to, with the parameters that are asked for. -/
theorem exists_of_request {a : Ask} {s : Session} {w : WebRequest} (h : a.request s = .ok w) :
    ∃ plain, Target.ofText (s.config.provider.apiBase ++ a.path) = .ok plain ∧
      w.target.decodedPath = plain.decodedPath ∧
      w.target.params = a.params.getD plain.params := by
  obtain ⟨plain, hplain, rfl, -⟩ := prepared_eq_ok_iff.mp h
  refine ⟨plain, hplain, ?_⟩
  cases a.params with
  | none => exact ⟨rfl, rfl⟩
  | some params => exact ⟨rfl, plain.params_withParams params⟩

/-- So does a request under a path of plain segments, and it has no other parameters. -/
theorem addressed_of_request {p : ApiPath} (hp : p.Leads) {params : Option Labels} {call : Call}
    {s : Session} (hbase : IsOrigin s.config.provider.apiBase) {w : WebRequest}
    (h : (Ask.mk p.text params call).request s = .ok w) :
    w.target.decodedPath = p.text ∧ w.target.params = params.getD [] := by
  obtain ⟨plain, hplain, hpath, hparams⟩ := exists_of_request h
  obtain ⟨haddressed, hquery⟩ := ApiPath.addressed_of_leads hp hbase hplain
  refine ⟨hpath.trans haddressed, hparams.trans ?_⟩
  rw [Target.params, hquery]
  rfl

namespace Guard

/-- The paths that an operation is to address. -/
def paths (user ns name : String) : Guard → List String
  | deployment => [builds, config, "/oapi/v1/namespaces/" ++ ns ++ "/routes"]
  | scale _ => [builds, config ++ "/scale"]
  | usage _ | usageSeries _ _ _ => [builds, config]
where
  builds := "/oapi/v1/namespaces/" ++ user ++ "/builds"
  config := "/oapi/v1/namespaces/" ++ ns ++ "/deploymentconfigs/" ++ name

/-- All of them lie in one of the two namespaces. -/
theorem isPrefix_of_mem_paths {g : Guard} {user ns name path : String}
    (h : path ∈ g.paths user ns name) :
    ∃ place ∈ [user, ns], ("/oapi/v1/namespaces/" ++ place).toList <+: path.toList := by
  have hconfig : ("/oapi/v1/namespaces/" ++ ns).toList <+: (paths.config ns name).toList :=
    (isPrefix_append _ _).trans (isPrefix_append _ _)
  have hmem : path = paths.builds user ∨ path = "/oapi/v1/namespaces/" ++ ns ++ "/routes" ∨
      path = paths.config ns name ∨ path = paths.config ns name ++ "/scale" := by
    cases g <;> simp only [paths, List.mem_cons, List.not_mem_nil, or_false] at h <;> grind only
  obtain rfl | rfl | rfl | rfl := hmem
  · exact ⟨user, .head _, isPrefix_append _ _⟩
  · exact ⟨ns, .tail _ (.head _), isPrefix_append _ _⟩
  · exact ⟨ns, .tail _ (.head _), hconfig⟩
  · exact ⟨ns, .tail _ (.head _), hconfig.trans (isPrefix_append _ _)⟩

end Guard

/-- A request of an operation stays within bounds.  Core resources are asked for in the namespace of
the environment, and so is usage; other requests address one of the paths, and select by labels at
most. -/
inductive Request.Within (g : Guard) (user ns name : String) : Request → Prop where
  | core (q : CoreQuery) (timeout : Option Binary64) :
    q.use.namespace_ = ns → Within g user ns name (.core q timeout)
  | query (w : WebRequest) (signal : Signal) :
    g.queries = true → w.call = .metrics ns signal → Within g user ns name (.web w)
  | path (w : WebRequest) : w.target.decodedPath ∈ g.paths user ns name →
    (∀ param ∈ w.target.params, param.1 = "labelSelector") → Within g user ns name (.web w)

namespace ApiPath

theorem text_collection (ns collection : String) :
    (ApiPath.mk ns collection none none).text =
      "/oapi/v1/namespaces/" ++ ns ++ ("/" ++ collection) := by
  unfold text text.segment
  simp only [Option.map_none, Option.getD_none, String.append_empty, String.append_assoc]

theorem text_object (ns collection name : String) :
    (ApiPath.mk ns collection (some name) none).text =
      "/oapi/v1/namespaces/" ++ ns ++ ("/" ++ collection ++ "/") ++ name := by
  unfold text text.segment
  simp only [Option.map_none, Option.map_some, Option.getD_none, Option.getD_some,
    String.append_empty, String.append_assoc]

theorem text_part (ns collection name part : String) :
    (ApiPath.mk ns collection (some name) (some part)).text =
      (ApiPath.mk ns collection (some name) none).text ++ ("/" ++ part) := by
  unfold text text.segment
  simp only [Option.map_none, Option.map_some, Option.getD_none, Option.getD_some,
    String.append_empty, String.append_assoc]

end ApiPath

namespace Guard

theorem builds_eq (user : String) :
    (ApiPath.mk user "builds" none none).text = paths.builds user := by
  have hword : "/" ++ "builds" = "/builds" := by decide +kernel
  rw [ApiPath.text_collection, hword]
  rfl

theorem config_eq (ns name : String) :
    (ApiPath.mk ns "deploymentconfigs" (some name) none).text = paths.config ns name := by
  have hword : "/" ++ "deploymentconfigs" ++ "/" = "/deploymentconfigs/" := by decide +kernel
  rw [ApiPath.text_object, hword]
  rfl

theorem scale_eq (ns name : String) :
    (scalePath ns name).text = paths.config ns name ++ "/scale" := by
  have hword : "/" ++ "scale" = "/scale" := by decide +kernel
  unfold scalePath
  rw [ApiPath.text_part, config_eq, hword]

theorem routes_eq (ns : String) :
    (ApiPath.mk ns "routes" none none).text = "/oapi/v1/namespaces/" ++ ns ++ "/routes" := by
  have hword : "/" ++ "routes" = "/routes" := by decide +kernel
  rw [ApiPath.text_collection, hword]

end Guard

section

variable {g : Guard} {s : Session} {space app ns name : String}
  (hbase : IsOrigin s.config.provider.apiBase)

include hbase

/-- A request for one of the paths of an operation is within its bounds. -/
theorem within_of_request {p : ApiPath} (hp : p.Leads)
    (hpath : p.text ∈ g.paths s.config.userNamespace ns name) {params : Option Labels}
    (hparams : ∀ param ∈ params.getD [], param.1 = "labelSelector") {call : Call} {w : Request}
    (h : (Question.path (Ask.mk p.text params call)).request s = .ok w) :
    w.Within g s.config.userNamespace ns name := by
  obtain ⟨v, hv, rfl⟩ := Outcome.map_eq_ok_iff.mp h
  obtain ⟨haddressed, hgiven⟩ := addressed_of_request hp hbase hv
  refine .path v ?_ ?_
  · rw [haddressed]
    exact hpath
  · rw [hgiven]
    exact hparams

/-- So is the request for the builds. -/
theorem within_builds (huser : isPlainSegment s.config.userNamespace = true)
    (hpath : Guard.paths.builds s.config.userNamespace ∈ g.paths s.config.userNamespace ns name)
    {w : Request} (h : (Question.path (buildsAsk s space app)).request s = .ok w) :
    w.Within g s.config.userNamespace ns name := by
  rw [← Guard.builds_eq] at hpath
  refine within_of_request hbase ⟨huser, ApiPath.isPlain_collection (by decide +kernel)⟩ hpath
    (fun param hparam => ?_) h
  obtain rfl := List.mem_singleton.mp hparam
  rfl

/-- The questions of an operation stay within its bounds. -/
theorem within_of_asks (huser : isPlainSegment s.config.userNamespace = true)
    (hns : isPlainSegment ns = true) (hname : isPlainSegment name = true) {q : Question}
    (hq : g.Asks s space app ns name q) {w : Request} (hw : q.request s = .ok w) :
    w.Within g s.config.userNamespace ns name := by
  have hobject {part : Option String} (hpart : part.all isPlainSegment = true) :
      (ApiPath.mk ns "deploymentconfigs" (some name) part).Leads :=
    ⟨hns, ApiPath.isPlain_object (by decide +kernel) hname hpart⟩
  have hnone : ∀ param ∈ ([] : Labels), param.1 = "labelSelector" := fun _ h => nomatch h
  have hcurrent (hbuilds : Guard.paths.builds s.config.userNamespace ∈
        g.paths s.config.userNamespace ns name)
      (hconfig : Guard.paths.config ns name ∈ g.paths s.config.userNamespace ns name)
      (hq : q ∈ currentQuestions s space app ns name) :
      w.Within g s.config.userNamespace ns name := by
    simp only [currentQuestions, List.mem_cons, List.not_mem_nil, or_false] at hq
    obtain rfl | rfl | rfl | rfl := hq
    · exact within_builds hbase huser hbuilds hw
    · rw [← Guard.config_eq] at hconfig
      refine within_of_request hbase (hobject rfl) hconfig ?_ hw
      exact hnone
    · cases hw
      exact .core _ _ rfl
    · cases hw
      exact .core _ _ rfl
  have hscale {params : Option Labels} {call : Call} (hparams : params.getD [] = [])
      (hpath : Guard.paths.config ns name ++ "/scale" ∈ g.paths s.config.userNamespace ns name)
      (h : (Question.path ⟨(scalePath ns name).text, params, call⟩).request s = .ok w) :
      w.Within g s.config.userNamespace ns name := by
    rw [← Guard.scale_eq] at hpath
    exact within_of_request hbase (hobject (by decide +kernel)) hpath (by rw [hparams]; exact hnone) h
  cases g with
  | deployment =>
      obtain hq | hq := List.mem_append.mp hq
      · exact hcurrent (.head _) (.tail _ (.head _)) hq
      · simp only [List.mem_cons, List.not_mem_nil, or_false] at hq
        obtain rfl | rfl := hq
        · cases hw
          exact .core _ _ rfl
        · refine within_of_request hbase ⟨hns, ApiPath.isPlain_collection (by decide +kernel)⟩ ?_
            ?_ hw
          · rw [Guard.routes_eq]
            exact .tail _ (.tail _ (.head _))
          · exact hnone
  | scale count =>
      obtain rfl | rfl | ⟨body, rfl⟩ := hq
      · exact within_builds hbase huser (.head _) hw
      · exact hscale rfl (.tail _ (.head _)) hw
      · exact hscale rfl (.tail _ (.head _)) hw
  | usage start => exact hcurrent (.head _) (.tail _ (.head _)) hq
  | usageSeries start finish limit => exact hcurrent (.head _) (.tail _ (.head _)) hq

end

/-! ## operations within bounds -/

variable [Cluster σ]

/-- From one state to another, all requests stay within the bounds of an operation. -/
def Guard.StaysWithin (g : Guard) (user ns name : String) (r r' : Run σ) : Prop :=
  ∃ requests, r'.sent = r.sent ++ requests ∧ ∀ w ∈ requests, w.Within g user ns name

/-- Where the builds give a plain name, an operation stays within its bounds. -/
theorem Guard.staysWithin (g : Guard) {space app environment ns name : String} {r : Run σ}
    (hbase : IsOrigin r.session.config.provider.apiBase)
    (huser : isPlainSegment r.session.config.userNamespace = true)
    (hplain : isPlainSegment ns = true)
    (hns : r.session.environments.lookup environment = some ns)
    (hname : NamesConfig ns app space r name) (hsegment : isPlainSegment name = true) :
    g.StaysWithin r.session.config.userNamespace ns name r
      ((g.operation space app environment).perform.eval r).2 := by
  obtain ⟨requests, hsent, hput⟩ := g.sendsAsked hns hname
  refine ⟨requests, hsent, fun w hw => ?_⟩
  obtain ⟨hqueries, v, signal, rfl, hcall⟩ | ⟨q, hq, hrequest⟩ := hput w hw
  · exact .query v signal hqueries hcall
  · exact within_of_asks hbase huser hplain hsegment hq hrequest

/-! ## operations on a detour -/

/-- Showing a deployment looks up the deployment config of the name that the builds give. -/
theorem sentMore_getDeployment {space app environment ns name : String} {r r₁ : Run σ}
    (hns : r.session.environments.lookup environment = some ns)
    (hname : (configNameIn ns app space).eval r = (.ok name, r₁)) :
    SentMore ((deploymentConfig? ns name).eval r₁).2
      ((getDeployment space app environment).eval r).2 := by
  have hgoes : GoesOn (Guard.deployment.operation space app environment).perform r r₁
      (configAsk ns name) := (Guard.goesOnByName .deployment space app environment).named hns hname
  have hafter := (asksOnly_deploymentConfig? ns name r₁).after
  rw [← eval_wrap _ Answered.deployment]
  cases hrequest : (configAsk ns name).request r₁.session with
  | ok w =>
      rw [hafter, hrequest]
      exact hgoes.sent hrequest
  | error e =>
      have hended : (Guard.deployment.operation space app environment).perform.eval r =
        (.error e, r₁) := hgoes.unmade hrequest
      rw [hafter, hrequest]
      exact ⟨[], by rw [List.append_nil]; exact congrArg (·.2.sent) hended⟩

/-- The builds give a name that is a detour.  The deployment config that is looked up is an object of
another namespace; and scaling reads the scale of this object, and stores it with the number of pods
that is asked for, if that can be written. -/
structure Strays (space app environment ns other collection object : String) (count : Int)
    (r r₁ : Run σ) : Prop where
  shown {w : WebRequest} :
    (configAsk ns (detour other collection object)).request r.session = .ok w →
    w.target.decodedPath = (ApiPath.mk other collection (some object) none).text ∧
    ∃ v later, ((getDeployment space app environment).eval r).2.sent =
      r.sent ++ .web v :: .web w :: later
  scaled {d spec : Document} {replicas : Option Int} {r₂ : Run σ} :
    (scaleDocument ns (detour other collection object)).eval r₁ = (.ok d, r₂) →
    d.get? "spec" = some spec → spec.isMap = true → replicasOf? spec = some replicas →
    ∃ changed v w, d.set? "spec" "replicas" (.int count) = some changed ∧ w.call = .get ∧
      w.target.decodedPath = (ApiPath.mk other collection (some object) (some "scale")).text ∧
      (changed.inKeyOrder.fault? = none → ∃ w', w'.call = .put changed.inKeyOrder ∧
        w'.target.decodedPath = (ApiPath.mk other collection (some object) (some "scale")).text ∧
        ((scaleDeployment space app environment count).eval r).2.sent =
          r.sent ++ [.web v, .web w, .web w']) ∧
      ∀ e, changed.inKeyOrder.fault? = some e →
        ((scaleDeployment space app environment count).eval r).1 = .error e ∧
        ((scaleDeployment space app environment count).eval r).2.sent = r.sent ++ [.web v, .web w]

/-- Where the builds give a name that leads out of the namespace, showing and scaling an application
reach the object that it leads to. -/
theorem strays_of_detour {space app environment ns other collection object : String} (count : Int)
    {r r₁ : Run σ} (hbase : IsOrigin r.session.config.provider.apiBase)
    (hplain : isPlainSegment ns = true) (hother : isPlainSegment other = true)
    (hcollection : isPlainSegment collection = true) (hobject : isPlainSegment object = true)
    (hns : r.session.environments.lookup environment = some ns)
    (hname : (configNameIn ns app space).eval r = (.ok (detour other collection object), r₁)) :
    Strays space app environment ns other collection object count r r₁ := by
  have hleads {part : Option String} (hpart : part.all isPlainSegment = true) :
      (ApiPath.mk other collection (some object) part).Leads :=
    ⟨hother, ApiPath.isPlain_object hcollection hobject hpart⟩
  have haddressed {part : Option String} (hpart : part.all isPlainSegment = true)
      {params : Option Labels} {call : Call} {w : WebRequest}
      (h : (Ask.mk (ApiPath.mk ns "deploymentconfigs" (some (detour other collection object))
        part).text params call).request r.session = .ok w) :
      w.target.decodedPath = (ApiPath.mk other collection (some object) part).text := by
    obtain ⟨plain, hplainTarget, hpath, -⟩ := exists_of_request h
    exact hpath.trans (addressed_of_detour hplain (hleads hpart) hbase hplainTarget).1
  obtain ⟨v, hv, rfl⟩ := (asksOnly_configNameIn ns app space r).of_ok hname
  constructor
  case shown =>
    intro w hw
    have hsent := (asksOnly_deploymentConfig? ns (detour other collection object)
      (r.afterWeb v)).after
    obtain ⟨later, hlater⟩ := sentMore_getDeployment hns hname
    rw [Run.session_afterWeb, hw] at hsent
    refine ⟨haddressed rfl hw, v, later, ?_⟩
    rw [hlater, hsent]
    simp [Run.afterWeb]
  case scaled =>
    intro d spec replicas r₂ hread hspec hmap hreplicas
    obtain ⟨changed, v', w, hset, hstores⟩ :=
      scaleDeployment_stores hns hname hread hspec hmap hreplicas
    refine ⟨changed, v', w, hset, call_of_prepared hstores.read,
      haddressed (by decide +kernel) hstores.read, fun hfits => ?_, fun e he => hstores.unwritten he⟩
    obtain ⟨w', hw', hsent⟩ := hstores.stored hfits
    exact ⟨w', call_of_prepared hw', haddressed (by decide +kernel) hw', hsent⟩

/-! ## what is addressed -/

/-- Which resources the operations on an application in an environment address.  That depends on the
name that the builds give to the deployment config. -/
structure Addressing (space app environment ns : String) (r : Run σ) : Prop where
  within {name : String} : NamesConfig ns app space r name → isPlainSegment name = true →
    ∀ g : Guard, g.StaysWithin r.session.config.userNamespace ns name r
      ((g.operation space app environment).perform.eval r).2
  strays {other collection object : String} {r₁ : Run σ} :
    isPlainSegment other = true → isPlainSegment collection = true →
    isPlainSegment object = true →
    (configNameIn ns app space).eval r = (.ok (detour other collection object), r₁) →
    ∀ count, Strays space app environment ns other collection object count r r₁

/-- Operations stay within their namespaces as long as the builds give plain names.  Other names lead
them to any object of any namespace. -/
theorem addressing_of_origin {space app environment ns : String} {r : Run σ}
    (hbase : IsOrigin r.session.config.provider.apiBase)
    (huser : isPlainSegment r.session.config.userNamespace = true)
    (hplain : isPlainSegment ns = true)
    (hns : r.session.environments.lookup environment = some ns) :
    Addressing space app environment ns r where
  within hname hsegment g := g.staysWithin hbase huser hplain hns hname hsegment
  strays hother hcollection hobject hname count :=
    strays_of_detour count hbase hplain hother hcollection hobject hns hname

/-- A client of a cluster whose latest build names a deployment config of another namespace. -/
def detoured : Run Recorded where
  session := ⟨⟨.cluster "https://api.a.b" "t" "https://api.a.b" "t", "my", none, true, 1⟩, ⟨0, some 0⟩,
    [("run", "my-run")], [], [], false⟩
  cluster := ⟨[], [
    ("GET /oapi/v1/namespaces/my/builds",
      .answer 200 (.document (.object [("kind", .text "BuildList"), ("items", .list [.object [
        ("metadata", .object [("annotations", .object [
          ("environment.services.fabric8.io/my-run",
            .text "deploymentVersions:\n  ../../other/deploymentconfigs/victim: '1'\n")])]),
        ("status", .object [("phase", .text "Complete"),
          ("completionTimestamp", .text "2018-01-01T00:00:00Z")])]])]))),
    ("GET /oapi/v1/namespaces/other/deploymentconfigs/victim/scale",
      .answer 200 (.document (.object [("spec", .object [("replicas", .int 2)])])))]⟩

/-- The method of a request to a URL, and the path that it addresses. -/
def addressed? : Request → Option (String × String)
  | .web w => some (w.call.method, w.target.decodedPath)
  | _ => none

/-- The scale that is read and stored is one of the other namespace. -/
theorem detoured_addressing :
    IsOrigin detoured.session.config.provider.apiBase ∧ isPlainSegment "my" = true ∧
      isPlainSegment "my-run" = true ∧
      detoured.session.environments.lookup "run" = some "my-run" ∧
      Addressing "space" "app" "run" "my-run" detoured ∧
      detour "other" "deploymentconfigs" "victim" = "../../other/deploymentconfigs/victim" ∧
      ∃ r₁, Strays "space" "app" "run" "my-run" "other" "deploymentconfigs" "victim" 0 detoured r₁ := by
  have hbase : IsOrigin detoured.session.config.provider.apiBase :=
    isOrigin_https "api.a.b" (by decide +kernel) (by decide +kernel)
  have hname : ((configNameIn "my-run" "app" "space").eval detoured).1.toOption =
      some (detour "other" "deploymentconfigs" "victim") := by decide +kernel
  have haddressing : Addressing "space" "app" "run" "my-run" detoured :=
    addressing_of_origin hbase (by decide +kernel) (by decide +kernel) rfl
  exact ⟨hbase, by decide +kernel, by decide +kernel, rfl, haddressing, by decide +kernel, _,
    haddressing.strays (by decide +kernel) (by decide +kernel) (by decide +kernel)
      (Prod.ext (Outcome.eq_ok_of_toOption hname) rfl) 0⟩

/-- Scaling stores a document in a namespace that no operation is to address, whatever the name of the
deployment config. -/
theorem detoured_leaves :
    ((scaleDeployment "space" "app" "run" 0).eval detoured).1.toOption = some 2 ∧
      ((scaleDeployment "space" "app" "run" 0).eval detoured).2.sent.filterMap addressed? =
        [("GET", "/oapi/v1/namespaces/my/builds"),
          ("GET", "/oapi/v1/namespaces/other/deploymentconfigs/victim/scale"),
          ("PUT", "/oapi/v1/namespaces/other/deploymentconfigs/victim/scale")] ∧
      ∀ (g : Guard) (name : String),
        "/oapi/v1/namespaces/other/deploymentconfigs/victim/scale" ∉ g.paths "my" "my-run" name := by
  refine ⟨by decide +kernel, by decide +kernel, fun g name hmem => ?_⟩
  have hother : ∀ place ∈ ["my", "my-run"], ¬ ("/oapi/v1/namespaces/" ++ place).toList <+:
      "/oapi/v1/namespaces/other/deploymentconfigs/victim/scale".toList := by decide +kernel
  obtain ⟨place, hplace, hprefix⟩ := Guard.isPrefix_of_mem_paths hmem
  exact hother place hplace hprefix

end Rollout
