import Rollout.Cluster.Recorded
import Rollout.Proofs.Activity
import Rollout.Proofs.Association
import Rollout.Proofs.Ranking

/-!
# Rollout.Proofs.Exposure

The URL of a deployment.

* `exposedUrl` — the URL that services and routes make for pods with the given labels;
  `exposedUrl_eq_ok_iff` — it is that of the best of all candidates, service by service;
* `Route.NamesFirst`, `IsBest` — the route that is chosen, and what it is chosen for;
* `Immaterial` — services and routes that make no difference;
* `Exposure`, `applicationUrl_exposure` — the URL of a deployment in a cluster.
-/

namespace Rollout

/-! ## the URL that services and routes make -/

/-- The URL that services and routes make for pods with the given labels. -/
def exposedUrl (services : List Service) (routes : List Route) (labels : Labels) :
    Outcome (Option String) :=
  bestUrl <$> candidatesByService services routes labels

variable {services : List Service} {routes routes' : List Route} {labels : Labels}
  {result : Option String}

/-- It is that of the best one of all candidates, service by service. -/
theorem exposedUrl_eq_ok_iff :
    exposedUrl services routes labels = .ok result ↔
      (∀ r ∈ routes, r.Sound (targets services labels)) ∧
        result = (RouteCandidate.best
          ((targets services labels).flatMap (candidatesOf routes))).map (·.url) := by
  simp only [exposedUrl, Outcome.map_eq_ok_iff, candidatesByService_eq_ok_iff]
  constructor
  · rintro ⟨_, ⟨hsound, rfl⟩, rfl⟩
    exact ⟨hsound, by rw [bestUrl, List.flatMap_map]⟩
  · rintro ⟨hsound, rfl⟩
    exact ⟨_, ⟨hsound, rfl⟩, by rw [bestUrl, List.flatMap_map]⟩

/-- The candidates of a service are those of the routes that name it. -/
theorem mem_candidatesOf_iff {s : String} {c : RouteCandidate} :
    c ∈ candidatesOf routes s ↔ ∃ r ∈ routes, r.Names s ∧ r.candidate = c := by
  simp only [candidatesOf, List.mem_flatMap, List.mem_replicate, ← Nat.pos_iff_ne_zero,
    Route.namings_pos_iff, eq_comm]

/-! ## the route that is chosen -/

/-- The earliest of some services that a route names stands at a position. -/
def Route.NamesFirst (r : Route) (names : List String) (p : Nat) : Prop :=
  (∃ s, names[p]? = some s ∧ r.Names s) ∧ ∀ q < p, ∀ s, names[q]? = some s → ¬ r.Names s

/-- The route at a position is the best one of those that name one of some services: none outranks it,
and of the routes with its rank it is the first one, by the earliest service that it names and then by
its own position. -/
structure IsBest (names : List String) (routes : List Route) (i : Nat) (route : Route) : Prop where
  listed : routes[i]? = some route
  highest : ∃ p, route.NamesFirst names p ∧
    ∀ {j q : Nat} {other : Route}, routes[j]? = some other → other.NamesFirst names q →
      outranks other.rank route.rank = false ∧ (other.rank = route.rank → p < q ∨ p = q ∧ i ≤ j)

/-- A candidate ranks as its route does. -/
theorem rank_candidate {names : List String} {r : Route} (hsound : r.Sound names)
    (hnames : ∃ s ∈ names, r.Names s) : r.candidate.rank = r.rank :=
  (leadsTo_of_ofRoute (hsound.candidate hnames)).1

/-- The route of the best candidate, with the services before the one it has been found for and the
routes before it. -/
structure Found (names : List String) (routes : List Route) (earlier : List String) (s : String)
    (before : List Route) (route : Route) : Prop where
  named : route.Names s
  highest : ∀ other ∈ routes, ∀ t ∈ names, other.Names t → outranks other.rank route.rank = false
  outranksEarlier : ∀ other ∈ routes, ∀ t ∈ earlier, other.Names t → other.rank ≠ route.rank
  outranksBefore : ∀ other ∈ before, other.Names s → other.rank ≠ route.rank

/-- The best candidate, service by service, is that of a route. -/
theorem exists_found {names : List String} {c : RouteCandidate}
    (hsound : ∀ r ∈ routes, r.Sound names)
    (h : FirstMax RouteCandidate.score (names.flatMap (candidatesOf routes)) c) :
    ∃ earlier s later before route after, names = earlier ++ s :: later ∧
      routes = before ++ route :: after ∧ c = route.candidate ∧
      Found names routes earlier s before route := by
  obtain ⟨earlier, s, later, hnames, hs, hearlier, -⟩ := h.exists_of_flatMap
  obtain ⟨before, route, after, hroutes, hroute, hbefore, -⟩ := hs.exists_of_flatMap
  obtain ⟨hnamed, rfl⟩ := List.mem_replicate.mp hroute.mem
  have hnames_s : route.Names s := Route.namings_pos_iff.mp (Nat.pos_of_ne_zero hnamed)
  -- routes compare by their candidates
  have hrank {other : Route} {t : String} (hother : other ∈ routes) (ht : t ∈ names)
      (hnames_t : other.Names t) : other.candidate.rank = other.rank :=
    rank_candidate (hsound other hother) ⟨t, ht, hnames_t⟩
  have hcandidate {other : Route} {t : String} (hother : other ∈ routes)
      (hnames_t : other.Names t) : other.candidate ∈ candidatesOf routes t :=
    mem_candidatesOf_iff.mpr ⟨other, hother, hnames_t, rfl⟩
  have hs_mem : s ∈ names := by simp [hnames]
  have hroute_rank := hrank (by simp [hroutes]) hs_mem hnames_s
  have hless {other : Route} {t : String} (hother : other ∈ routes) (ht : t ∈ names)
      (hnames_t : other.Names t) (hlt : other.candidate.score < route.candidate.score) :
      other.rank ≠ route.rank := by
    rw [← hroute_rank, ← hrank hother ht hnames_t]
    exact RouteCandidate.rank_ne_of_score_lt hlt
  refine ⟨earlier, s, later, before, route, after, hnames, hroutes, rfl, hnames_s, ?_, ?_, ?_⟩
  · intro other hother t ht hnames_t
    rw [← hroute_rank, ← hrank hother ht hnames_t, Bool.eq_false_iff, ne_eq,
      ← RouteCandidate.score_lt_iff, Nat.not_lt]
    exact h.le (List.mem_flatMap.mpr ⟨t, ht, hcandidate hother hnames_t⟩)
  · intro other hother t ht hnames_t
    have hlt := hearlier t ht _ (hcandidate hother hnames_t)
    exact hless hother (by simp [hnames, ht]) hnames_t hlt
  · intro other hother hnames_s'
    have hnamed' := Nat.ne_of_gt (Route.namings_pos_iff.mpr hnames_s')
    have hlt := hbefore other hother _ (List.mem_replicate.mpr ⟨hnamed', rfl⟩)
    exact hless (by simp [hroutes, hother]) hs_mem hnames_s' hlt

/-- What stands in front of a position is in the part in front of it. -/
theorem mem_of_getElem?_append {α : Type} {before after : List α} {a : α} {i : Nat}
    (h : (before ++ after)[i]? = some a) (hi : i < before.length) : a ∈ before := by
  rw [List.getElem?_append_left hi] at h
  exact List.mem_of_getElem? h

/-- The best candidate, service by service, is that of the best route. -/
theorem Found.isBest {earlier later : List String} {s : String} {before after : List Route}
    {route : Route}
    (h : Found (earlier ++ s :: later) (before ++ route :: after) earlier s before route) :
    IsBest (earlier ++ s :: later) (before ++ route :: after) before.length route where
  listed := by simp
  highest := by
    refine ⟨earlier.length, ⟨⟨s, by simp, h.named⟩, ?_⟩, ?_⟩
    · intro q hq t ht hnames_t
      exact h.outranksEarlier route (by simp) t (mem_of_getElem?_append ht hq) hnames_t rfl
    · rintro j q other hj ⟨⟨t, ht, hnames_t⟩, -⟩
      have hother := List.mem_of_getElem? hj
      refine ⟨h.highest other hother t (List.mem_of_getElem? ht) hnames_t, fun heq => ?_⟩
      -- a route of the same rank can stand neither before the service nor before the route
      obtain hlt | rfl | hgt := Nat.lt_trichotomy earlier.length q
      · exact .inl hlt
      · obtain rfl : s = t := by simpa using ht
        refine .inr ⟨rfl, Nat.le_of_not_lt fun hlt => ?_⟩
        exact h.outranksBefore other (mem_of_getElem?_append hj hlt) hnames_t heq
      · exact absurd heq (h.outranksEarlier other hother t (mem_of_getElem?_append ht hgt) hnames_t)

/-- The first candidate with the greatest score comes from a best route. -/
theorem isBest_of_firstMax {names : List String} {c : RouteCandidate}
    (hsound : ∀ r ∈ routes, r.Sound names)
    (h : FirstMax RouteCandidate.score (names.flatMap (candidatesOf routes)) c) :
    ∃ i route, IsBest names routes i route ∧ route.LeadsTo c.url := by
  obtain ⟨earlier, s, later, before, route, after, rfl, rfl, rfl, hfound⟩ := exists_found hsound h
  have hcandidate := (hsound route (by simp)).candidate ⟨s, by simp, hfound.named⟩
  exact ⟨before.length, route, hfound.isBest, (leadsTo_of_ofRoute hcandidate).2⟩

/-! ## what makes no difference -/

theorem candidatesOf_append (xs ys : List Route) (s : String) :
    candidatesOf (xs ++ ys) s = candidatesOf xs s ++ candidatesOf ys s := List.flatMap_append

/-- A route adds its candidate as often as it names the service. -/
theorem candidatesOf_cons (r : Route) (routes : List Route) (s : String) :
    candidatesOf (r :: routes) s =
      List.replicate (r.namings s) r.candidate ++ candidatesOf routes s := List.flatMap_cons

/-- Routes that say what they must, and from which each service keeps the same candidate. -/
theorem exposedUrl_congr {names : List String} (hnames : names = targets services labels)
    (hsound : (∀ r ∈ routes, r.Sound names) ↔ ∀ r ∈ routes', r.Sound names)
    (hsame : ∀ s ∈ names,
      SameChoice RouteCandidate.score (candidatesOf routes s) (candidatesOf routes' s)) :
    exposedUrl services routes labels = .ok result ↔
      exposedUrl services routes' labels = .ok result := by
  subst hnames
  have hbest := (SameChoice.flatMap hsame).chosen (RouteCandidate.chosen_best _)
  rw [exposedUrl_eq_ok_iff, exposedUrl_eq_ok_iff, hsound,
    hbest.unique (RouteCandidate.chosen_best _)]

/-- A route with other alternate backends. -/
def Route.withAlternates (r : Route) (alternates : List Backend) : Route :=
  { r with spec := { r.spec with alternates } }

/-- A change to services and routes that makes no difference: a route is added that names none of the
services, or one that comes before, a route has its alternate backends in another order or more than
once, or a service is added that does not select the pods or has the name of one that comes
before. -/
inductive Immaterial (labels : Labels) :
    List Service → List Route → List Service → List Route → Prop where
  | foreign {services : List Service} {before after : List Route} {route : Route} :
      route.HasDestination → (∀ s ∈ targets services labels, ¬ route.Names s) →
      Immaterial labels services (before ++ after) services (before ++ route :: after)
  | again {services : List Service} {before after : List Route} {route : Route} : route ∈ before →
      Immaterial labels services (before ++ after) services (before ++ route :: after)
  | alternates {services : List Service} {before after : List Route} {route : Route}
      {alternates : List Backend} : (∀ b, b ∈ alternates ↔ b ∈ route.spec.alternates) →
      Immaterial labels services (before ++ route :: after) services
        (before ++ route.withAlternates alternates :: after)
  | service {routes : List Route} {before after : List Service} {service : Service} :
      (∀ name, service.metadata.name = some name → name ≠ "" → service.Selects labels →
        name ∈ targets before labels) →
      Immaterial labels (before ++ after) routes (before ++ service :: after) routes

/-- A route that is added makes no difference if it says what it must and what it adds for a service
comes again. -/
theorem exposedUrl_insert {before after : List Route} {route : Route}
    (hsound : (∀ r ∈ before, r.Sound (targets services labels)) →
      route.Sound (targets services labels))
    (hagain : ∀ s ∈ targets services labels,
      List.replicate (route.namings s) route.candidate ⊆ candidatesOf before s) :
    exposedUrl services (before ++ after) labels = .ok result ↔
      exposedUrl services (before ++ route :: after) labels = .ok result := by
  refine exposedUrl_congr rfl ?_ fun s hs => ?_
  · simp only [List.forall_mem_append, List.forall_mem_cons]
    exact and_congr_right fun hbefore => (and_iff_right (hsound hbefore)).symm
  · rw [candidatesOf_append, candidatesOf_append, candidatesOf_cons, ← List.append_assoc]
    exact (SameChoice.append_of_subset (hagain s hs)).symm.append (.refl _)

namespace Route

variable {r : Route} {alternates : List Backend}

/-- A route names the same services when alternates are listed in another order, or repeated. -/
theorem withAlternates_names (h : ∀ b, b ∈ alternates ↔ b ∈ r.spec.alternates) (s : String) :
    (r.withAlternates alternates).Names s ↔ r.Names s := by
  simp only [Names, withAlternates, h]

/-- Its candidate is the same, too. -/
theorem ofRoute_withAlternates (h : ∀ b, b ∈ alternates ↔ b ∈ r.spec.alternates) :
    RouteCandidate.ofRoute (r.withAlternates alternates) = RouteCandidate.ofRoute r := by
  have hempty : alternates.isEmpty = r.spec.alternates.isEmpty := by
    rw [Bool.eq_iff_iff, List.isEmpty_iff, List.isEmpty_iff, List.eq_nil_iff_forall_not_mem,
      List.eq_nil_iff_forall_not_mem]
    simp only [h]
  unfold RouteCandidate.ofRoute
  simp only [withAlternates, hempty]
  rfl

theorem withAlternates_sound (h : ∀ b, b ∈ alternates ↔ b ∈ r.spec.alternates)
    (names : List String) : (r.withAlternates alternates).Sound names ↔ r.Sound names := by
  have hcandidate : (r.withAlternates alternates).candidate = r.candidate := by
    rw [candidate, candidate, ofRoute_withAlternates h]
  constructor
  · rintro ⟨hdestination, hsound⟩
    rw [ofRoute_withAlternates h, hcandidate] at hsound
    simp only [withAlternates_names h] at hsound
    exact ⟨hdestination, hsound⟩
  · rintro ⟨hdestination, hsound⟩
    refine ⟨hdestination, ?_⟩
    rw [ofRoute_withAlternates h, hcandidate]
    simp only [withAlternates_names h]
    exact hsound

/-- A route with the same alternate backends gives each service the same candidate, if not as
often. -/
theorem sameChoice_withAlternates (h : ∀ b, b ∈ alternates ↔ b ∈ r.spec.alternates) (s : String) :
    SameChoice RouteCandidate.score (List.replicate (r.namings s) r.candidate)
      (List.replicate ((r.withAlternates alternates).namings s)
        (r.withAlternates alternates).candidate) := by
  have hcandidate : (r.withAlternates alternates).candidate = r.candidate := by
    rw [candidate, candidate, ofRoute_withAlternates h]
  have hnamings := (namings_pos_iff.trans (withAlternates_names h s)).trans namings_pos_iff.symm
  rw [hcandidate]
  cases hn : r.namings s with
  | zero =>
      obtain hzero : (r.withAlternates alternates).namings s = 0 := by omega
      rw [hzero]
      exact .refl _
  | succ n =>
      obtain ⟨m, hm⟩ := Nat.exists_eq_succ_of_ne_zero
        (show (r.withAlternates alternates).namings s ≠ 0 by omega)
      rw [hm]
      exact .replicate n m _

end Route

/-- So the URL that is shown does not depend on the order of alternates. -/
theorem exposedUrl_withAlternates {before after : List Route} {route : Route}
    {alternates : List Backend} (h : ∀ b, b ∈ alternates ↔ b ∈ route.spec.alternates) :
    exposedUrl services (before ++ route :: after) labels = .ok result ↔
      exposedUrl services (before ++ route.withAlternates alternates :: after) labels =
        .ok result := by
  refine exposedUrl_congr rfl ?_ fun s _ => ?_
  · simp only [List.forall_mem_append, List.forall_mem_cons, Route.withAlternates_sound h]
  · rw [candidatesOf_append, candidatesOf_append, candidatesOf_cons, candidatesOf_cons]
    exact (SameChoice.refl _).append ((Route.sameChoice_withAlternates h s).append (.refl _))

/-- Something that comes again is erased. -/
theorem eraseDups_insert {α : Type} [DecidableEq α] {before after : List α} {a : α}
    (h : a ∈ before) : (before ++ a :: after).eraseDups = (before ++ after).eraseDups := by
  rw [List.eraseDups_append, List.eraseDups_append, List.removeAll, List.removeAll,
    List.filter_cons_of_neg (by simpa using h)]

/-- A service that does not select the pods, or whose name comes before, is no further target. -/
theorem targets_insert {before after : List Service} {service : Service}
    (h : ∀ name, service.metadata.name = some name → name ≠ "" → service.Selects labels →
      name ∈ targets before labels) :
    targets (before ++ service :: after) labels = targets (before ++ after) labels := by
  unfold targets servicesFor
  rw [List.filterMap_append, List.filterMap_append, List.filterMap_cons]
  cases hname : (nonEmpty? service.metadata.name).filter fun _ => service.selects labels with
  | none => rfl
  | some name =>
      obtain ⟨hname, hselects⟩ := Option.filter_eq_some_iff.mp hname
      obtain ⟨hname, hne⟩ := nonEmpty?_eq_some_iff.mp hname
      have hmem := h name hname hne (Service.selects_iff.mp hselects)
      exact eraseDups_insert (List.mem_eraseDups.mp hmem)

/-- A change that makes no difference does not change the URL. -/
theorem Immaterial.exposedUrl_eq_ok_iff {services' : List Service}
    (h : Immaterial labels services routes services' routes') :
    exposedUrl services routes labels = .ok result ↔
      exposedUrl services' routes' labels = .ok result := by
  cases h with
  | @foreign _ before after route hdestination hforeign =>
      refine exposedUrl_insert (fun _ => ⟨hdestination, fun ⟨s, hs, hnames⟩ =>
        absurd hnames (hforeign s hs)⟩) fun s hs => ?_
      have hzero : route.namings s = 0 := by
        have hforeign_s := mt Route.namings_pos_iff.mp (hforeign s hs)
        omega
      simp [hzero]
  | @again _ before after route hmem =>
      refine exposedUrl_insert (fun hsound => hsound route hmem) fun s _ c hc => ?_
      exact List.mem_flatMap.mpr ⟨route, hmem, hc⟩
  | alternates hmem => exact exposedUrl_withAlternates hmem
  | service hservice =>
      simp only [exposedUrl_eq_ok_iff, targets_insert hservice]

/-! ## the URL of a deployment -/

/-- What services and routes make the URL of pods with the given labels.  There is none exactly if no
route names a service that selects the pods; otherwise it is the URL of the best of the routes that
do.  Changes that make no difference leave it as it is. -/
structure Exposure (services : List Service) (routes : List Route) (labels : Labels)
    (result : Option String) : Prop where
  made : exposedUrl services routes labels = .ok result
  nothing : result = none ↔ ∀ route ∈ routes, ∀ s ∈ targets services labels, ¬ route.Names s
  best {url : String} : result = some url →
    ∃ i route, IsBest (targets services labels) routes i route ∧ route.LeadsTo url
  unaffected {services' : List Service} {routes' : List Route} :
    Immaterial labels services routes services' routes' ∨
      Immaterial labels services' routes' services routes →
    exposedUrl services' routes' labels = .ok result

/-- There is no candidate exactly if no route names a service. -/
theorem flatMap_candidatesOf_eq_nil_iff {names : List String} :
    names.flatMap (candidatesOf routes) = [] ↔ ∀ route ∈ routes, ∀ s ∈ names, ¬ route.Names s := by
  simp only [List.eq_nil_iff_forall_not_mem, List.mem_flatMap, mem_candidatesOf_iff, not_exists,
    not_and]
  constructor
  · intro h route hroute s hs hnames
    exact h _ s hs route hroute hnames rfl
  · intro h c s hs route hroute hnames _
    exact h route hroute s hs hnames

/-- What the URL of an application says of its routes. -/
theorem exposure_of_exposedUrl (h : exposedUrl services routes labels = .ok result) :
    Exposure services routes labels result where
  made := h
  nothing := by
    obtain ⟨-, rfl⟩ := exposedUrl_eq_ok_iff.mp h
    rw [Option.map_eq_none_iff, (RouteCandidate.chosen_best _).eq_none_iff,
      flatMap_candidatesOf_eq_nil_iff]
  best := by
    rintro url rfl
    obtain ⟨hsound, hurl⟩ := exposedUrl_eq_ok_iff.mp h
    obtain ⟨c, hc, rfl⟩ := Option.map_eq_some_iff.mp hurl.symm
    have hbest := RouteCandidate.chosen_best
      ((targets services labels).flatMap (candidatesOf routes))
    rw [hc] at hbest
    exact isBest_of_firstMax hsound hbest
  unaffected := by
    rintro services' routes' (hchange | hchange)
    · exact hchange.exposedUrl_eq_ok_iff.mp h
    · exact hchange.exposedUrl_eq_ok_iff.mpr h

open Client in
/-- The URL of a deployment is made by the services and the routes of its namespace. -/
theorem applicationUrl_exposure {σ : Type} [Cluster σ] {ns : String} {d : Deployment}
    {r r' : Run σ} (h : (applicationUrl ns d).eval r = (.ok result, r')) :
    ∃ (template : PodTemplate) (serviceList : ServiceList) (routeList : RouteList) (r₁ : Run σ),
      d.current.bind (·.spec.template) = some template ∧
        (Client.services ns).eval r = (.ok serviceList, r₁) ∧
        (Client.routes ns none).eval r₁ = (.ok routeList, r') ∧
        Exposure serviceList.items routeList.items template.metadata.labels result := by
  unfold applicationUrl candidates at h
  obtain ⟨table, r₂, htable, h⟩ := eval_bind_eq_ok_iff.mp h
  cases h
  cases htemplate : d.current.bind (·.spec.template) with
  | none =>
      simp only [htemplate] at htable
      cases htable
  | some template =>
      simp only [htemplate] at htable
      obtain ⟨serviceList, r₁, hservices, htable⟩ := eval_bind_eq_ok_iff.mp htable
      obtain ⟨routeList, r₃, hroutes, htable⟩ := eval_bind_eq_ok_iff.mp htable
      obtain ⟨hcandidates, rfl⟩ := eval_outcome_eq_iff.mp htable
      have hmade : exposedUrl serviceList.items routeList.items template.metadata.labels =
          .ok (bestUrl table) := Outcome.map_eq_ok_iff.mpr ⟨table, hcandidates, rfl⟩
      exact ⟨template, serviceList, routeList, r₁, rfl, hservices, hroutes,
        exposure_of_exposedUrl hmade⟩

/-- A namespace with two services.  One route leads to the first of them, and another one, which is
admitted, to the second one and to an alternate backend twice. -/
def exposed : Run Recorded where
  session := ⟨⟨.cluster "https://api.a.b" "t" "https://api.a.b" "t", "my", none, true, 1⟩,
    ⟨0, some 0⟩, [("run", "my-run")], [], [], false⟩
  cluster := ⟨[
    ("services my-run", .document (.object [("items", .list [
      service "app" "app", service "other" "other"])]))], [
    ("GET /oapi/v1/namespaces/my-run/routes", .answer 200 (.document (.object [
      ("kind", .text "RouteList"), ("items", .list [
        route "app" [("host", .text "plain.a.b")] [],
        route "other" [("host", .text "split.a.b"), ("path", .text "app"),
          ("alternateBackends", .list [backend "app", backend "app"])]
          [.object [("host", .text "router.a.b"), ("conditions", .list [.object [
            ("type", .text "Admitted"), ("status", .text "True"),
            ("lastTransitionTime", .text "2020-01-01T00:00:00Z")]])]]])])))]⟩
where
  service (name app : String) : Document :=
    .object [("metadata", .object [("name", .text name)]),
      ("spec", .object [("selector", .object [("deploymentconfig", .text app)])])]
  backend (name : String) : Document := .object [("kind", .text "Service"), ("name", .text name)]
  route (destination : String) (spec : List (String × Document)) (ingress : List Document) :
      Document :=
    .object [("spec", .object (("to", backend destination) :: spec)),
      ("status", .object [("ingress", .list ingress)])]

/-- A deployment whose pods the service `app` selects. -/
def exposedDeployment : Deployment where
  config := "app"
  uid := "dc"
  version := "1.0"
  current := some { metadata := {}, spec := { template := some {
    metadata := { labels := [("app", "app"), ("deploymentconfig", "app")] } } } }

open Client in
/-- The admitted route is chosen, under the host that it is admitted with. -/
theorem exposed_exposure :
    ∃ (r' : Run Recorded) (serviceList : ServiceList) (routeList : RouteList),
      (applicationUrl "my-run" exposedDeployment).eval exposed =
        (.ok (some "http://router.a.b/app"), r') ∧
      targets serviceList.items [("app", "app"), ("deploymentconfig", "app")] = ["app"] ∧
      Exposure serviceList.items routeList.items [("app", "app"), ("deploymentconfig", "app")]
        (some "http://router.a.b/app") := by
  have hurl : ((applicationUrl "my-run" exposedDeployment).eval exposed).1.toOption =
      some (some "http://router.a.b/app") := by
    decide +kernel
  obtain ⟨r', heval⟩ : ∃ r', (applicationUrl "my-run" exposedDeployment).eval exposed =
      (.ok (some "http://router.a.b/app"), r') := ⟨_, Prod.ext (Outcome.eq_ok_of_toOption hurl) rfl⟩
  obtain ⟨template, serviceList, routeList, r₁, htemplate, hservices, hroutes, hexposure⟩ :=
    applicationUrl_exposure heval
  obtain rfl := Option.some.inj htemplate
  refine ⟨r', serviceList, routeList, heval, ?_, hexposure⟩
  have htargets : ((Client.services "my-run").eval exposed).1.toOption.map (fun l =>
      targets l.items [("app", "app"), ("deploymentconfig", "app")]) = some ["app"] := by
    decide +kernel
  rw [hservices] at htargets
  exact Option.some.inj htargets

end Rollout
