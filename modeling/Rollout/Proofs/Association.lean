import Rollout.Deployment.Exposure
import Rollout.Proofs.Outcomes
import Rollout.Proofs.Ownership

/-!
# Rollout.Proofs.Association

Which routes lead to which services.

* `targets` — the services that send traffic to pods with the given labels; `mem_targets_iff`;
* `Route.Names`, `Route.namings` — whether a route names a service, and how often;
* `Route.Sound` — what a route must say;
* `addRoute_eq_ok_iff` — one more route; `candidatesByService_eq_ok_iff` — all routes: each service
  has the candidates of the routes that name it, as often as they name it.
-/

namespace Rollout

/-! ## services -/

/-- A service sends traffic to pods with the given labels: it asks for some labels, and all of them
are among these. -/
def Service.Selects (s : Service) (labels : Labels) : Prop :=
  s.spec.selector ≠ [] ∧ ∀ label ∈ s.spec.selector, labels.lookup label.1 = some label.2

/-- Whether a service selects labels can be decided. -/
theorem Service.selects_iff {s : Service} {labels : Labels} :
    s.selects labels = true ↔ s.Selects labels := by
  simp [selects, Rollout.selects, Selects]

/-- The names of the services that send traffic to pods with the given labels, without repetition. -/
def targets (services : List Service) (labels : Labels) : List String :=
  (servicesFor services labels).eraseDups

/-- The targets are the names of the services that select the labels. -/
theorem mem_targets_iff {services : List Service} {labels : Labels} {name : String} :
    name ∈ targets services labels ↔
      ∃ s ∈ services, s.Selects labels ∧ s.metadata.name = some name ∧ name ≠ "" := by
  simp only [targets, List.mem_eraseDups, servicesFor, List.mem_filterMap,
    Option.filter_eq_some_iff, nonEmpty?_eq_some_iff, Service.selects_iff]
  exact exists_congr fun s => and_congr_right fun _ => and_comm

theorem ne_empty_of_mem_targets {services : List Service} {labels : Labels} {name : String}
    (h : name ∈ targets services labels) : name ≠ "" := by
  obtain ⟨s, -, -, -, hne⟩ := mem_targets_iff.mp h
  exact hne

/-! ## what routes name -/

namespace Route

/-- A route has a destination with a name. -/
def HasDestination (r : Route) : Prop := ∃ name, r.spec.destination.name = some name ∧ name ≠ ""

/-- A route names a service as its destination, or as an alternate backend that is a service. -/
def Names (r : Route) (s : String) : Prop :=
  r.spec.destination.name = some s ∨
    ∃ b ∈ r.spec.alternates, b.kind = some "Service" ∧ b.name = some s

/-- How often a route names a service: once as its destination, and once for each alternate
backend. -/
def namings (r : Route) (s : String) : Nat :=
  (if r.spec.destination.name = some s then 1 else 0) +
    r.spec.alternates.countP fun b => b.kind = some "Service" ∧ b.name = some s

/-- A route names a service if it names it at least once. -/
theorem namings_pos_iff {r : Route} {s : String} : 0 < r.namings s ↔ r.Names s := by
  have halternate :
      0 < (r.spec.alternates.countP fun b => b.kind = some "Service" ∧ b.name = some s) ↔
        ∃ b ∈ r.spec.alternates, b.kind = some "Service" ∧ b.name = some s := by
    simp [List.countP_pos_iff]
  rw [namings, Names, ← halternate]
  by_cases h : r.spec.destination.name = some s
  · rw [if_pos h]
    exact iff_of_true (Nat.add_pos_left Nat.one_pos _) (.inl h)
  · simp [h]

/-- A route has a destination if its services can be listed. -/
theorem hasDestination_iff {r : Route} :
    r.HasDestination ↔ ∃ names, r.serviceNames = .ok names := by
  unfold HasDestination serviceNames
  simp only [← nonEmpty?_eq_some_iff]
  cases nonEmpty? r.spec.destination.name <;> simp

/-- The services of a route are listed as often as it names them. -/
theorem count_serviceNames {r : Route} {names : List String} (h : r.serviceNames = .ok names)
    {s : String} (hs : s ≠ "") : names.count s = r.namings s := by
  have halternates : (fun b : Backend =>
      (if b.kind = some "Service" then nonEmpty? b.name else none) == some s) =
        fun b => decide (b.kind = some "Service" ∧ b.name = some s) := by
    funext b
    rw [Bool.eq_iff_iff, beq_iff_eq, decide_eq_true_iff]
    by_cases hkind : b.kind = some "Service"
    · simp [hkind, nonEmpty?_eq_some_iff, hs]
    · simp [hkind]
  unfold serviceNames at h
  cases hname : nonEmpty? r.spec.destination.name with
  | none => simp [hname] at h
  | some name =>
      simp only [hname] at h
      cases h
      rw [List.count_cons, List.count_filterMap, namings, (nonEmpty?_eq_some_iff.mp hname).1,
        Nat.add_comm, halternates]
      simp only [beq_iff_eq, Option.some.injEq]

/-- What counts about a route, where that can be told. -/
def candidate (r : Route) : RouteCandidate := (RouteCandidate.ofRoute r).toOption.getD {}

/-- A route says what it must: it has a destination, and it can be told what counts about it if it
names one of the services. -/
structure Sound (services : List String) (r : Route) : Prop where
  destination : r.HasDestination
  candidate : (∃ s ∈ services, r.Names s) → RouteCandidate.ofRoute r = .ok r.candidate

end Route

/-! ## the table of candidates -/

/-- A table with an entry for each of some services. -/
abbrev tableOf (services : List String) (entries : String → List RouteCandidate) :
    List (String × List RouteCandidate) :=
  services.map fun s => (s, entries s)

theorem tableOf_congr {services : List String} {entries entries' : String → List RouteCandidate}
    (h : ∀ s ∈ services, entries s = entries' s) :
    tableOf services entries = tableOf services entries' :=
  List.map_congr_left fun s hs => by rw [h s hs]

/-- A table has an entry for each of its services, and for no other name. -/
theorem lookup_tableOf {services : List String} {entries : String → List RouteCandidate}
    {s : String} : ((tableOf services entries).lookup s).isSome = true ↔ s ∈ services := by
  induction services with
  | nil => simp
  | cons t rest ih =>
      rw [tableOf, List.map_cons, List.lookup_cons, List.mem_cons]
      by_cases h : s = t
      · simp [h]
      · rw [beq_false_of_ne h]
        exact ih.trans (or_iff_right h).symm

/-- Adding a candidate to several services adds it to each as often as it is among them. -/
theorem foldl_addCandidate (services names : List String) (c : RouteCandidate)
    (entries : String → List RouteCandidate) :
    names.foldl (fun table name => addCandidate table name c) (tableOf services entries) =
      tableOf services fun s => entries s ++ List.replicate (names.count s) c := by
  induction names generalizing entries with
  | nil => simp
  | cons name names ih =>
      have hadd : addCandidate (tableOf services entries) name c =
          tableOf services fun s => entries s ++ List.replicate (if name = s then 1 else 0) c := by
        rw [addCandidate, List.map_map]
        refine List.map_congr_left fun s _ => ?_
        by_cases h : s = name
        · simp [h]
        · simp [h, Ne.symm h]
      rw [List.foldl_cons, hadd, ih]
      refine tableOf_congr fun s _ => ?_
      simp only [List.append_assoc, List.replicate_append_replicate, List.count_cons, beq_iff_eq,
        Nat.add_comm]

/-- Of the names of a route, those that stand in the table are the services that it names. -/
theorem count_named {services : List String} (hservices : "" ∉ services)
    (entries : String → List RouteCandidate) {r : Route} {names : List String}
    (h : r.serviceNames = .ok names) {s : String} (hs : s ∈ services) :
    (names.filter fun name => ((tableOf services entries).lookup name).isSome).count s =
      r.namings s := by
  have hkept := List.count_filter (p := fun name => ((tableOf services entries).lookup name).isSome)
    (l := names) (lookup_tableOf.mpr hs)
  rw [hkept]
  exact Route.count_serviceNames h fun hempty => hservices (hempty ▸ hs)

/-- A route names nothing in a table if it names none of its services. -/
theorem named_eq_nil_iff {services : List String} (hservices : "" ∉ services)
    (entries : String → List RouteCandidate) {r : Route} {names : List String}
    (h : r.serviceNames = .ok names) :
    (names.filter fun name => ((tableOf services entries).lookup name).isSome) = [] ↔
      ¬ ∃ s ∈ services, r.Names s := by
  constructor
  · rintro hnil ⟨s, hs, hnames⟩
    have hcount := count_named hservices entries h hs
    rw [hnil, List.count_nil] at hcount
    exact absurd (Route.namings_pos_iff.mpr hnames) (by omega)
  · intro hnone
    refine List.eq_nil_iff_forall_not_mem.mpr fun s hs => hnone ⟨s, ?_⟩
    have hmem := lookup_tableOf.mp (List.mem_filter.mp hs).2
    refine ⟨hmem, Route.namings_pos_iff.mp ?_⟩
    rw [← count_named hservices entries h hmem]
    exact List.count_pos_iff.mpr hs

/-- The candidate of a route is the one that is made of it. -/
theorem candidate_of_ofRoute {r : Route} {c : RouteCandidate}
    (h : RouteCandidate.ofRoute r = .ok c) : r.candidate = c := by
  rw [Route.candidate, h]
  rfl

/-- One more route is added to the services that it names, if it says what it must. -/
theorem addRoute_eq_ok_iff {services : List String} (hservices : "" ∉ services)
    {entries : String → List RouteCandidate} {r : Route}
    {table : List (String × List RouteCandidate)} :
    addRoute (tableOf services entries) r = .ok table ↔ r.Sound services ∧
      table = tableOf services fun s => entries s ++ List.replicate (r.namings s) r.candidate := by
  cases hnames : r.serviceNames with
  | error e =>
      have hdestination : ¬ r.HasDestination := by simp [Route.hasDestination_iff, hnames]
      have hunsound : ¬ r.Sound services := fun h => hdestination h.destination
      simp [addRoute, hnames, hunsound, bind, Except.bind]
  | ok names =>
      have hdestination : r.HasDestination := Route.hasDestination_iff.mpr ⟨names, hnames⟩
      have hnone := named_eq_nil_iff hservices entries hnames
      have hcount {s : String} := count_named (s := s) hservices entries hnames
      unfold addRoute
      rw [hnames]
      simp only [bind, Except.bind]
      generalize (names.filter fun name => ((tableOf services entries).lookup name).isSome) = named
        at hnone hcount ⊢
      have hadded (c : RouteCandidate) :
          named.foldl (fun table name => addCandidate table name c) (tableOf services entries) =
            tableOf services fun s => entries s ++ List.replicate (r.namings s) c := by
        rw [foldl_addCandidate]
        exact tableOf_congr fun s hs => by rw [hcount hs]
      -- the candidate of a route is made only if the route names one of the services
      by_cases hrelated : ∃ s ∈ services, r.Names s
      · have hne : named ≠ [] := fun h => hnone.mp h hrelated
        rw [if_neg (by simpa using hne)]
        simp only [hadded]
        cases hcandidate : RouteCandidate.ofRoute r with
        | error e =>
            have hunsound : ¬ r.Sound services := fun h => by
              rw [h.candidate hrelated] at hcandidate
              cases hcandidate
            simp [hunsound]
        | ok c =>
            obtain rfl := candidate_of_ofRoute hcandidate
            have hsound : r.Sound services := ⟨hdestination, fun _ => hcandidate⟩
            simp [hsound, pure, Except.pure, eq_comm]
      · obtain rfl : named = [] := hnone.mpr hrelated
        have hsound : r.Sound services := ⟨hdestination, fun h => absurd h hrelated⟩
        simp [hsound, pure, Except.pure, ← hadded, eq_comm]

/-- The candidates of a service: those of the routes that name it, as often as they name it. -/
def candidatesOf (routes : List Route) (s : String) : List RouteCandidate :=
  routes.flatMap fun r => List.replicate (r.namings s) r.candidate

/-- Adding routes to a table succeeds if all of them are sound, and appends the candidates of each
service in the order of the routes. -/
theorem foldlM_addRoute_eq_ok_iff {services : List String} (hservices : "" ∉ services)
    {entries : String → List RouteCandidate} {routes : List Route}
    {table : List (String × List RouteCandidate)} :
    routes.foldlM addRoute (tableOf services entries) = .ok table ↔
      (∀ r ∈ routes, r.Sound services) ∧
        table = tableOf services fun s => entries s ++ candidatesOf routes s := by
  induction routes generalizing entries with
  | nil => simp [candidatesOf, pure, Except.pure, eq_comm]
  | cons r routes ih =>
      simp only [Outcome.foldlM_cons_eq_ok_iff, addRoute_eq_ok_iff hservices]
      constructor
      · rintro ⟨_, ⟨hr, rfl⟩, hrest⟩
        obtain ⟨hroutes, rfl⟩ := ih.mp hrest
        exact ⟨List.forall_mem_cons.mpr ⟨hr, hroutes⟩, by simp [candidatesOf]⟩
      · rintro ⟨hroutes, rfl⟩
        obtain ⟨hr, hrest⟩ := List.forall_mem_cons.mp hroutes
        exact ⟨_, ⟨hr, rfl⟩, ih.mpr ⟨hrest, by simp [candidatesOf]⟩⟩

/-- Each service has the candidates of the routes that name it, if all routes say what they must. -/
theorem candidatesByService_eq_ok_iff {services : List Service} {routes : List Route}
    {labels : Labels} {table : List (String × List RouteCandidate)} :
    candidatesByService services routes labels = .ok table ↔
      (∀ r ∈ routes, r.Sound (targets services labels)) ∧
        table = tableOf (targets services labels) (candidatesOf routes) := by
  have hservices : "" ∉ targets services labels := fun h => ne_empty_of_mem_targets h rfl
  exact foldlM_addRoute_eq_ok_iff hservices

end Rollout
