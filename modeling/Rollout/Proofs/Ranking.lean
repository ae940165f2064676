import Rollout.Proofs.Admission
import Rollout.Proofs.Ownership

/-!
# Rollout.Proofs.Ranking

What counts about a route, and which of several candidates is the best one.

* `Route.rank` — whether a route is admitted, has alternate backends, has a host of its own and has
  TLS; `RouteCandidate.score_lt_iff` — scores compare as ranks do, in lexicographic order;
* `chosen_best` — the best candidate is the first one with the highest score;
* `Route.LeadsTo` — the URL of a route; `leadsTo_of_ofRoute` — a candidate has the rank and the URL
  of its route.
-/

namespace Rollout

/-! ## ranks -/

/-- Whether the encryption of a route ends somewhere. -/
def Route.Encrypted (r : Route) : Prop :=
  ∃ termination, r.spec.tls.bind (·.termination) = some termination ∧ termination ≠ ""

/-- A route is encrypted if it says where encryption ends. -/
theorem Route.encrypted_iff {r : Route} :
    (nonEmpty? (r.spec.tls.bind (·.termination))).isSome = true ↔ r.Encrypted := by
  simp only [Option.isSome_iff_exists, nonEmpty?_eq_some_iff, Encrypted]

instance (r : Route) : Decidable r.Encrypted := decidable_of_iff _ Route.encrypted_iff

/-- The order of ranks: of the first properties in which they differ, the higher one has it. -/
def outranks : List Bool → List Bool → Bool
  | a :: as, b :: bs => if a = b then outranks as bs else a
  | _, _ => false

/-- Whether a route is admitted, has alternate backends, has a host of its own and has TLS. -/
def Route.rank (r : Route) : List Bool :=
  [decide (∃ report ∈ reports r.status.ingress, report.2.isAdmission = true),
    decide (r.spec.alternates ≠ []),
    decide (r.metadata.annotations.lookup RouteCandidate.generatedAnnotation ≠ some "true"),
    decide r.Encrypted]

namespace RouteCandidate

/-- Whether a candidate is admitted, has alternate backends, has a host of its own and has TLS. -/
def rank (c : RouteCandidate) : List Bool := [c.admitted, c.alternates, c.customHost, c.tls]

/-- Each property weighs more than all properties after it. -/
theorem points_lt_iff : ∀ a b c d a' b' c' d' : Bool,
    points a 11 + points b 5 + points c 3 + points d 1 <
        points a' 11 + points b' 5 + points c' 3 + points d' 1 ↔
      outranks [a', b', c', d'] [a, b, c, d] = true := by
  decide

/-- A greater score is a higher rank. -/
theorem score_lt_iff {c c' : RouteCandidate} :
    c.score < c'.score ↔ outranks c'.rank c.rank = true :=
  points_lt_iff ..

theorem rank_ne_of_score_lt {c c' : RouteCandidate} (h : c.score < c'.score) :
    c.rank ≠ c'.rank := by
  intro heq
  have hlt := score_lt_iff.mp h
  rw [heq] at hlt
  exact Nat.lt_irrefl _ (score_lt_iff.mpr hlt)

/-- The best candidate is the first one with the highest score. -/
theorem chosen_best (cs : List RouteCandidate) : Chosen score cs (best cs) := by
  cases cs with
  | nil => rfl
  | cons c rest => exact (firstMax_singleton c).foldl rest

end RouteCandidate

/-! ## URLs -/

/-- The host of a route: that of the ingress which admitted it first, if one did, and otherwise the
one that the route asks for. -/
inductive Route.HasHost (r : Route) : String → Prop where
  | admitted {i : Ingress} {t : DateTime} {host : String} :
      OldestOf (reports r.status.ingress) (some (i, t)) → i.host = some host → HasHost r host
  | asked : OldestOf (reports r.status.ingress) none → HasHost r (r.spec.host.getD "")

/-- The URL of a route: `https` if its encryption ends somewhere, its host, and its path, if it has
one, with a slash in front. -/
def Route.LeadsTo (r : Route) (url : String) : Prop :=
  ∃ host, r.HasHost host ∧
    url = (if r.Encrypted then "https" else "http") ++ "://" ++ host ++
      String.ofList (Url.slashed (r.spec.path.getD "").toList)

/-- A route has a candidate if its admissions have times and the ingress that admitted it first, if
one did, has a host. -/
theorem ofRoute_eq_ok_iff {r : Route} {c : RouteCandidate} :
    RouteCandidate.ofRoute r = .ok c ↔
      ∃ ingress, oldestAdmitted r.status.ingress = .ok ingress ∧
        ∃ host, ingress.elim (some (r.spec.host.getD "")) Ingress.host = some host ∧ c = {
          host
          path := r.spec.path.getD ""
          tls := decide r.Encrypted
          admitted := ingress.isSome
          alternates := decide (r.spec.alternates ≠ [])
          customHost := r.metadata.annotations.lookup RouteCandidate.generatedAnnotation
            ≠ some "true" } := by
  have htls : (nonEmpty? (r.spec.tls.bind (·.termination))).isSome = decide r.Encrypted := by
    rw [Bool.eq_iff_iff, decide_eq_true_iff, Route.encrypted_iff]
  have halternates : (!r.spec.alternates.isEmpty) = decide (r.spec.alternates ≠ []) := by
    cases r.spec.alternates <;> simp
  unfold RouteCandidate.ofRoute
  rw [Outcome.bind_eq_ok_iff, htls, halternates]
  refine exists_congr fun ingress => and_congr_right fun _ => ?_
  cases ingress with
  | none => simp [bind, Except.bind, pure, Except.pure, eq_comm]
  | some i => cases hhost : i.host <;> simp [bind, Except.bind, pure, Except.pure, hhost, eq_comm]

/-- A candidate has the rank and the URL of its route. -/
theorem leadsTo_of_ofRoute {r : Route} {c : RouteCandidate} (h : RouteCandidate.ofRoute r = .ok c) :
    c.rank = r.rank ∧ r.LeadsTo c.url := by
  obtain ⟨ingress, hingress, host, hhost, rfl⟩ := ofRoute_eq_ok_iff.mp h
  obtain ⟨oldest, holdest, rfl⟩ := oldestAdmitted_eq_ok hingress
  refine ⟨?_, host, ?_, ?_⟩
  · have hadmitted : oldest.isSome =
        decide (∃ report ∈ reports r.status.ingress, report.2.isAdmission = true) := by
      rw [Bool.eq_iff_iff, decide_eq_true_iff, holdest.isSome_iff]
    simp only [RouteCandidate.rank, Route.rank, Option.isSome_map, hadmitted]
  · cases oldest with
    | none => 
        cases hhost
        exact .asked holdest
    | some a => exact .admitted holdest hhost
  · simp [RouteCandidate.url]

end Rollout
