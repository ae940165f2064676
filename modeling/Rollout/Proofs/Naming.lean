import Mathlib.Data.List.Induction
import Rollout.Proofs.Exposure
import Rollout.Proofs.Hosting

/-!
# Rollout.Proofs.Naming

How routes are associated with the services that they name.

* `Precedes`, `pairwise_targets` — the services in question, in the order in which they come first;
* `Route.IsFaulty`, `Route.Fault` — a route that cannot be associated, and what is wrong with it;
* `fault_of_addRoute` — why one more route may not be added; `exists_fault` — why all of them may not;
* `Associated`, `Association`, `association_of_comparable` — what the association comes to;
* `candidates_association` — the association in a cluster.
-/

namespace Rollout

/-! ## the services in question -/

/-- A service of one name comes before all those of another one, among the services that send traffic
to pods with the given labels. -/
def Precedes (services : List Service) (labels : Labels) (s t : String) : Prop :=
  ∃ before after, services = before ++ after ∧ s ∈ targets before labels ∧
    t ∉ targets before labels

theorem Precedes.ne {services : List Service} {labels : Labels} {s t : String}
    (h : Precedes services labels s t) : s ≠ t := by
  obtain ⟨before, after, -, hs, ht⟩ := h
  rintro rfl
  exact ht hs

/-- What comes before another name does so when more services follow. -/
theorem Precedes.snoc {services : List Service} {labels : Labels} {s t : String}
    (h : Precedes services labels s t) (service : Service) :
    Precedes (services ++ [service]) labels s t := by
  obtain ⟨before, after, rfl, hs, ht⟩ := h
  exact ⟨before, after ++ [service], List.append_assoc .., hs, ht⟩

/-- One more service adds its name, or nothing. -/
theorem servicesFor_snoc (services : List Service) (service : Service) (labels : Labels) :
    servicesFor (services ++ [service]) labels = servicesFor services labels ∨
      ∃ s, servicesFor (services ++ [service]) labels = servicesFor services labels ++ [s] := by
  have happend : servicesFor (services ++ [service]) labels =
      servicesFor services labels ++ servicesFor [service] labels := List.filterMap_append
  rw [happend]
  cases hname : (nonEmpty? service.metadata.name).filter fun _ => service.selects labels with
  | none => exact .inl (by simp [servicesFor, hname])
  | some s => exact .inr ⟨s, by simp [servicesFor, hname]⟩

/-- One more service adds its name, if that is a new one, behind the other names. -/
theorem targets_snoc (services : List Service) (service : Service) (labels : Labels) :
    targets (services ++ [service]) labels = targets services labels ∨
      ∃ s, s ∉ targets services labels ∧
        targets (services ++ [service]) labels = targets services labels ++ [s] := by
  unfold targets
  obtain h | ⟨s, h⟩ := servicesFor_snoc services service labels
  · exact .inl (by rw [h])
  · rw [h, List.eraseDups_append]
    by_cases hs : s ∈ servicesFor services labels
    · exact .inl (by simp [List.removeAll, hs])
    · exact .inr ⟨s, mt List.mem_eraseDups.mp hs, by simp [List.removeAll, hs, List.eraseDups_cons]⟩

/-- The services come in the order of the first service of each name. -/
theorem pairwise_targets (services : List Service) (labels : Labels) :
    (targets services labels).Pairwise (Precedes services labels) := by
  induction services using List.reverseRecOn with
  | nil => exact .nil
  | append_singleton services service ih =>
      have hold := ih.imp fun h => h.snoc service
      obtain h | ⟨t, ht, h⟩ := targets_snoc services service labels
      · rw [h]
        exact hold
      · rw [h]
        refine List.pairwise_append.mpr ⟨hold, List.pairwise_singleton .., fun s hs t' ht' => ?_⟩
        rw [List.mem_singleton.mp ht']
        exact ⟨services, [service], rfl, hs, ht⟩

/-! ## faulty routes -/

namespace Route

/-- A route cannot be associated: it has no destination, or it names one of some services and its host
cannot be told. -/
def IsFaulty (names : List String) (r : Route) : Prop :=
  ¬ r.HasDestination ∨ (∃ s ∈ names, r.Names s) ∧
    ((∃ i ∈ r.status.ingress, i.LacksTime) ∨
      ∃ i, FirstAdmitted r.status.ingress i ∧ i.host = none)

/-- What is wrong with a route that cannot be associated. -/
inductive Fault (names : List String) (r : Route) : Malformed → Prop where
  | destination : ¬ r.HasDestination → Fault names r (.noServiceName r.metadata.name)
  | time : r.HasDestination → (∃ s ∈ names, r.Names s) → (∃ i ∈ r.status.ingress, i.LacksTime) →
    Fault names r .noTransitionTime
  | host {i : Ingress} : r.HasDestination → (∃ s ∈ names, r.Names s) →
    (∀ j ∈ r.status.ingress, ¬ j.LacksTime) → FirstAdmitted r.status.ingress i → i.host = none →
    Fault names r (.noIngressHost r.metadata.name)

/-- If a route names one of some services, the times of its admissions can be compared. -/
def IsComparable (names : List String) (r : Route) : Prop :=
  (∃ s ∈ names, r.Names s) → ¬ DateTime.Mixed (admissionTimes r.status.ingress)

variable {names : List String} {r : Route}

/-- A route with a fault is faulty. -/
theorem Fault.isFaulty {cause : Malformed} (h : r.Fault names cause) : r.IsFaulty names := by
  cases h with
  | destination hnone => exact .inl hnone
  | time _ hrelated hlacking => exact .inr ⟨hrelated, .inl hlacking⟩
  | host _ hrelated _ hfirst hhost => exact .inr ⟨hrelated, .inr ⟨_, hfirst, hhost⟩⟩

/-- A route that says what it must is not faulty. -/
theorem Sound.not_isFaulty (h : r.Sound names) (hcomparable : r.IsComparable names) :
    ¬ r.IsFaulty names := by
  rintro (hnone | ⟨hrelated, hfaulty⟩)
  · exact hnone h.destination
  · have hfails {e : Failure} (he : RouteCandidate.ofRoute r = .error e) : False := by
      rw [h.candidate hrelated] at he
      cases he
    have hfails_iff {e : Failure} := ofRoute_fails_iff (hcomparable hrelated) (e := e)
    by_cases hlacking : ∃ i ∈ r.status.ingress, i.LacksTime
    · exact hfails (hfails_iff.mpr (.inl ⟨rfl, hlacking⟩))
    · have hdated : ∀ i ∈ r.status.ingress, ¬ i.LacksTime := fun i hi hi' => hlacking ⟨i, hi, hi'⟩
      exact hfails (hfails_iff.mpr (.inr ⟨rfl, hdated, hfaulty.resolve_left hlacking⟩))

/-- A route with a destination whose host cannot be told. -/
theorem fault_of_ofRoute {e : Failure} (hdestination : r.HasDestination)
    (hrelated : ∃ s ∈ names, r.Names s) (hcomparable : r.IsComparable names)
    (h : RouteCandidate.ofRoute r = .error e) :
    ∃ cause, e = .malformed cause ∧ r.Fault names cause := by
  obtain ⟨rfl, hlacking⟩ | ⟨rfl, hdated, i, hfirst, hhost⟩ :=
    (ofRoute_fails_iff (hcomparable hrelated)).mp h
  · exact ⟨_, rfl, .time hdestination hrelated hlacking⟩
  · exact ⟨_, rfl, .host hdestination hrelated hdated hfirst hhost⟩

/-- Listing the services of a route fails only for a missing name. -/
theorem serviceNames_eq_error {e : Failure} (h : r.serviceNames = .error e) :
    e = .malformed (.noServiceName r.metadata.name) := by
  unfold serviceNames at h
  split at h
  · exact (Except.error.inj h).symm
  · cases h

end Route

/-! ## adding routes -/

/-- A route is not added to services if it has no destination, or if it names one of them and it
cannot be told what counts about it. -/
theorem addRoute_eq_error {names : List String} (hnames : "" ∉ names)
    {entries : String → List RouteCandidate} {r : Route} {e : Failure}
    (h : addRoute (tableOf names entries) r = .error e) :
    ¬ r.HasDestination ∧ e = .malformed (.noServiceName r.metadata.name) ∨
      r.HasDestination ∧ (∃ s ∈ names, r.Names s) ∧ RouteCandidate.ofRoute r = .error e := by
  unfold addRoute at h
  cases hservices : r.serviceNames with
  | error e' =>
      rw [hservices] at h
      cases h
      have hnone : ¬ r.HasDestination := by simp [Route.hasDestination_iff, hservices]
      exact .inl ⟨hnone, Route.serviceNames_eq_error hservices⟩
  | ok listed =>
      have hdestination : r.HasDestination := Route.hasDestination_iff.mpr ⟨listed, hservices⟩
      have hunrelated := named_eq_nil_iff hnames entries hservices
      rw [hservices] at h
      simp only [bind, Except.bind] at h
      split at h
      · cases h
      · next hne =>
          have hrelated : ∃ s ∈ names, r.Names s := Classical.not_not.mp fun hnone =>
            hne (List.isEmpty_iff.mpr (hunrelated.mpr hnone))
          refine .inr ⟨hdestination, hrelated, ?_⟩
          cases hcandidate : RouteCandidate.ofRoute r with
          | error e' =>
              rw [hcandidate] at h
              cases h
              rfl
          | ok c =>
              rw [hcandidate] at h
              cases h

/-- A route is not added to services if it is faulty. -/
theorem fault_of_addRoute {names : List String} (hnames : "" ∉ names)
    {entries : String → List RouteCandidate} {r : Route} {e : Failure}
    (hcomparable : r.IsComparable names) (h : addRoute (tableOf names entries) r = .error e) :
    ∃ cause, e = .malformed cause ∧ r.Fault names cause := by
  obtain ⟨hnone, rfl⟩ | ⟨hdestination, hrelated, hfails⟩ := addRoute_eq_error hnames h
  · exact ⟨_, rfl, .destination hnone⟩
  · exact Route.fault_of_ofRoute hdestination hrelated hcomparable hfails

/-! ## the association -/

/-- A table associates the services that send traffic to pods with the given labels with the routes
that name them: each service, in the order in which they come first, has the candidates of the routes,
in their order and as often as a route names it. -/
structure Associated (services : List Service) (routes : List Route) (labels : Labels)
    (table : List (String × List RouteCandidate)) : Prop where
  mem_keys {s : String} : s ∈ table.map (·.1) ↔
    ∃ service ∈ services, service.Selects labels ∧ service.metadata.name = some s ∧ s ≠ ""
  nodup : (table.map (·.1)).Nodup
  ordered : (table.map (·.1)).Pairwise (Precedes services labels)
  entries {s : String} {cs : List RouteCandidate} : (s, cs) ∈ table →
    cs = routes.flatMap fun r => List.replicate (r.namings s) r.candidate
  candidate {r : Route} : r ∈ routes → (∃ s ∈ table.map (·.1), r.Names s) →
    RouteCandidate.ofRoute r = .ok r.candidate

/-- What the association of routes with services comes to. -/
structure Association (services : List Service) (routes : List Route) (labels : Labels)
    (result : Outcome (List (String × List RouteCandidate))) : Prop where
  malformed : (∃ cause, result = .error (.malformed cause)) ↔
    ∃ r ∈ routes, r.IsFaulty (targets services labels)
  fails {e : Failure} : result = .error e →
    ∃ before r after cause, routes = before ++ r :: after ∧
      (∀ earlier ∈ before, ¬ earlier.IsFaulty (targets services labels)) ∧
      e = .malformed cause ∧ r.Fault (targets services labels) cause
  associated {table : List (String × List RouteCandidate)} : result = .ok table →
    Associated services routes labels table

variable {services : List Service} {routes : List Route} {labels : Labels}

theorem map_fst_tableOf (names : List String) (entries : String → List RouteCandidate) :
    (tableOf names entries).map (·.1) = names := by
  rw [tableOf, List.map_map]
  exact List.map_id names

/-- Where all routes are sound, each service is associated with its candidates. -/
theorem associated_of_sound (hsound : ∀ r ∈ routes, r.Sound (targets services labels)) :
    Associated services routes labels
      (tableOf (targets services labels) (candidatesOf routes)) where
  mem_keys := by
    intro s
    rw [map_fst_tableOf, mem_targets_iff]
  nodup := by
    rw [map_fst_tableOf]
    exact (pairwise_targets services labels).imp Precedes.ne
  ordered := by
    rw [map_fst_tableOf]
    exact pairwise_targets services labels
  entries := by
    intro s cs hmem
    obtain ⟨t, -, h⟩ := List.mem_map.mp hmem
    cases h
    rfl
  candidate := by
    intro r hr hrelated
    rw [map_fst_tableOf] at hrelated
    exact (hsound r hr).candidate hrelated

/-- Routes are not associated if one is faulty; the first such one is reported. -/
theorem exists_fault
    (hcomparable : ∀ r ∈ routes, r.IsComparable (targets services labels)) {e : Failure}
    (h : candidatesByService services routes labels = .error e) :
    ∃ before r after cause, routes = before ++ r :: after ∧
      (∀ earlier ∈ before, ¬ earlier.IsFaulty (targets services labels)) ∧
      e = .malformed cause ∧ r.Fault (targets services labels) cause := by
  have hnames : "" ∉ targets services labels := fun h => ne_empty_of_mem_targets h rfl
  obtain ⟨before, r, after, table, rfl, hbefore, hfails⟩ := Outcome.exists_of_foldlM_eq_error h
  obtain ⟨hsound, rfl⟩ := (foldlM_addRoute_eq_ok_iff hnames).mp hbefore
  obtain ⟨cause, he, hfault⟩ := fault_of_addRoute hnames (hcomparable r (by simp)) hfails
  refine ⟨before, r, after, cause, rfl, fun earlier hearlier => ?_, he, hfault⟩
  exact (hsound earlier hearlier).not_isFaulty (hcomparable earlier (by simp [hearlier]))

/-- If times of admissions can be compared, then routes are associated with the services that they
name, unless one of them is faulty. -/
theorem association_of_comparable
    (hcomparable : ∀ r ∈ routes, r.IsComparable (targets services labels)) :
    Association services routes labels (candidatesByService services routes labels) where
  malformed := by
    constructor
    · rintro ⟨cause, hfails⟩
      obtain ⟨before, r, after, cause, rfl, -, -, hfault⟩ := exists_fault hcomparable hfails
      exact ⟨r, by simp, hfault.isFaulty⟩
    · rintro ⟨r, hr, hfaulty⟩
      cases hresult : candidatesByService services routes labels with
      | error e =>
          obtain ⟨_, _, _, cause, -, -, rfl, -⟩ := exists_fault hcomparable hresult
          exact ⟨cause, rfl⟩
      | ok table =>
          obtain ⟨hsound, -⟩ := candidatesByService_eq_ok_iff.mp hresult
          exact absurd hfaulty ((hsound r hr).not_isFaulty (hcomparable r hr))
  fails := exists_fault hcomparable
  associated := by
    intro table htable
    obtain ⟨hsound, rfl⟩ := candidatesByService_eq_ok_iff.mp htable
    exact associated_of_sound hsound

/-! ## the association in a cluster -/

open Client

/-- The routes of a namespace are associated with its services for a deployment that has a template for
its pods; otherwise nothing is asked. -/
theorem candidates_association {σ : Type} [Cluster σ] (ns : String) (d : Deployment) (r : Run σ) :
    (d.current.bind (·.spec.template) = none →
      (candidates ns d).eval r = (.error (.malformed (.noTemplate ns)), r)) ∧
    ∀ {template : PodTemplate} {serviceList : ServiceList} {routeList : RouteList} {r₁ r₂ : Run σ},
      d.current.bind (·.spec.template) = some template →
      (Client.services ns).eval r = (.ok serviceList, r₁) →
      (Client.routes ns none).eval r₁ = (.ok routeList, r₂) →
      (∀ route ∈ routeList.items,
        route.IsComparable (targets serviceList.items template.metadata.labels)) →
      ∃ result, (candidates ns d).eval r = (result, r₂) ∧
        Association serviceList.items routeList.items template.metadata.labels result := by
  unfold candidates
  constructor
  · intro hnone
    rw [hnone]
    rfl
  · intro template serviceList routeList r₁ r₂ htemplate hservices hroutes hcomparable
    refine ⟨_, ?_, association_of_comparable hcomparable⟩
    simp only [htemplate]
    rw [eval_bind, hservices]
    simp only
    rw [eval_bind, hroutes]
    exact eval_outcome _ _

theorem exists_eval_eq_ok {σ α : Type} {m : Client σ α} {r : Run σ}
    (h : (m.eval r).1.toOption.isSome = true) : ∃ a, m.eval r = (.ok a, (m.eval r).2) := by
  obtain ⟨a, ha⟩ := Option.isSome_iff_exists.mp h
  exact ⟨a, Prod.ext (Outcome.eq_ok_of_toOption ha) rfl⟩

/-- The labels of the pods of the deployment. -/
def exposedLabels : Labels := [("app", "app"), ("deploymentconfig", "app")]

/-- The service that selects the pods has the candidate of the route that leads to it, and twice that
of the route which has it as an alternate backend twice. -/
theorem exposed_association :
    ∃ (serviceList : ServiceList) (routeList : RouteList) (r₁ r₂ : Run Recorded)
      (result : Outcome (List (String × List RouteCandidate))),
      (Client.services "my-run").eval exposed = (.ok serviceList, r₁) ∧
      (Client.routes "my-run" none).eval r₁ = (.ok routeList, r₂) ∧
      (∀ route ∈ routeList.items, route.IsComparable (targets serviceList.items exposedLabels)) ∧
      (candidates "my-run" exposedDeployment).eval exposed = (result, r₂) ∧
      result.toOption.map (fun table => table.map fun (s, cs) => (s, cs.map (·.host))) =
        some [("app", ["plain.a.b", "router.a.b", "router.a.b"])] ∧
      Association serviceList.items routeList.items exposedLabels result := by
  obtain ⟨serviceList, hservices⟩ := exists_eval_eq_ok (r := exposed)
    (m := Client.services "my-run") (by decide +kernel)
  obtain ⟨routeList, hroutes⟩ := exists_eval_eq_ok
    (r := ((Client.services "my-run").eval exposed).2) (m := Client.routes "my-run" none)
    (by decide +kernel)
  have htimes : (((Client.routes "my-run" none).eval
      ((Client.services "my-run").eval exposed).2).1.toOption.map fun (l : RouteList) =>
        l.items.flatMap fun route => admissionTimes route.status.ingress) =
      some [⟨DateTime.epoch + 18262 * DateTime.day, some 0⟩] := by
    decide +kernel
  rw [hroutes] at htimes
  have hunmixed : ¬ DateTime.Mixed (routeList.items.flatMap fun route =>
      admissionTimes route.status.ingress) := by
    have hsingle := Option.some.inj htimes
    simp only at hsingle
    rw [hsingle]
    exact DateTime.not_mixed_singleton _
  have hcomparable : ∀ route ∈ routeList.items,
      route.IsComparable (targets serviceList.items exposedLabels) := by
    intro route hroute _ hmixed
    exact hunmixed (hmixed.of_subset fun t ht => List.mem_flatMap.mpr ⟨route, hroute, ht⟩)
  obtain ⟨result, hresult, hassociation⟩ :=
    (candidates_association "my-run" exposedDeployment exposed).2 rfl hservices hroutes hcomparable
  have htable : ((candidates "my-run" exposedDeployment).eval exposed).1.toOption.map
      (fun table => table.map fun (s, cs) => (s, cs.map (·.host))) =
        some [("app", ["plain.a.b", "router.a.b", "router.a.b"])] := by
    decide +kernel
  rw [hresult] at htable
  exact ⟨serviceList, routeList, _, _, result, hservices, hroutes, hcomparable, hresult, htable,
    hassociation⟩

end Rollout
