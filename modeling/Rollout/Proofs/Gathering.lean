import Mathlib.Data.List.Forall2
import Rollout.Proofs.DeploymentView
import Rollout.Proofs.Steady

/-!
# Rollout.Proofs.Gathering

Views of several things are made of the views of each one.

* `Interleaved` — an activity comes to an outcome while others ask the cluster, too, between any two
  of its steps;
* `Interleaved.certain` — where nothing is stored, that is the outcome that it has alone, at any later
  time: `Lasts`;
* `Gathers` — several outcomes make up one: the results are put together in their order, or the first
  failure is the failure of the whole;
* `CarriedOut`, `GatheredFrom` — calls that are carried out at once, any number of them under way at a
  time, and what is gathered from them;
* `GatheredFrom.of_carriedOut` — whatever way they are carried out, they make up the same whole;
* `getApplication_eq_of_carriedOut` — so asking for the deployments in all environments at once, in
  any order, gives the view of the application;
* `aggregates_of_steady` — the view of an application is gathered from those of its deployments, the
  view of a space from those of its applications, and the list of environments from their quotas.
-/

namespace Rollout

open Client

variable {σ α β γ : Type} [Cluster σ]

/-! ## activities among others -/

/-- An activity that fetches documents comes to an outcome, while others ask the cluster, too.  They
store nothing, but their requests may be answered before, between and after those of the activity. -/
inductive Interleaved : {α : Type} → Client σ α → Run σ → Outcome α → Run σ → Prop where
  | pure {α : Type} (a : α) (r : Run σ) : Interleaved (pure a : Client σ α) r (.ok a) r
  | throw {α : Type} (f : Failure) (r : Run σ) :
    Interleaved (throw f : Client σ α) r (.error f) r
  | session {α : Type} {k : Session → Client σ α} {r r' : Run σ} {x : Outcome α} :
    (∀ s, k s.bare = k s) → Interleaved (k r.session) r x r' →
    Interleaved (session >>= k) r x r'
  | bind {α β : Type} {m : Client σ α} {f : α → Client σ β} {r r₁ r' : Run σ} {a : α}
      {x : Outcome β} :
    Interleaved m r (.ok a) r₁ → Interleaved (f a) r₁ x r' → Interleaved (m >>= f) r x r'
  | fail {α β : Type} {m : Client σ α} {f : α → Client σ β} {r r' : Run σ} {e : Failure} :
    Interleaved m r (.error e) r' → Interleaved (m >>= f) r (.error e) r'
  | attempt {α : Type} {m : Client σ α} {r r' : Run σ} {x : Outcome α} :
    Interleaved m r x r' → Interleaved (attempt m) r (.ok x) r'
  | step {α : Type} {m : Client σ α} (r : Run σ) : FetchStep α m →
    Interleaved m r (m.eval r).1 (m.eval r).2
  | meanwhile {α : Type} {m : Client σ α} {r r₁ r' : Run σ} {x : Outcome α} :
    Later r r₁ → Interleaved m r₁ x r' → Interleaved m r x r'

/-- Being left alone is one way to be carried out. -/
theorem interleaved_eval {m : Client σ α} (h : Uses FetchStep m) (r : Run σ) :
    Interleaved m r (m.eval r).1 (m.eval r).2 := by
  induction h generalizing r with
  | pure a => exact .pure a r
  | throw f => exact .throw f r
  | session hbare _ ih => exact .session hbare (ih r.session r)
  | step hstep => exact .step r hstep
  | @bind _ _ m f _ _ ihm ihf =>
      have hfirst := ihm r
      rw [eval_bind]
      rcases heval : m.eval r with ⟨x, r₁⟩
      rw [heval] at hfirst
      cases x with
      | ok a => exact .bind hfirst (ihf a r₁)
      | error e => exact .fail hfirst
  | attempt _ ih => exact .attempt (ih r)

/-- A step of fetching documents comes to the same at any later time. -/
theorem Client.FetchStep.certain {fresh : Run σ} (hsteady : Steady fresh.cluster) {m : Client σ α}
    (h : FetchStep α m) :
    ∃ x, ∀ r, Later fresh r → (m.eval r).1 = x ∧ Later fresh (m.eval r).2 := by
  cases h with
  | core q =>
      refine ⟨coreResult fresh.session.bare q (Cluster.core q fresh.cluster).1, fun r h => ?_⟩
      rw [h.eval_readCore hsteady q]
      exact ⟨rfl, h.bare, .core q h.cluster⟩
  | path path allowMissing params =>
      let a : Ask := ⟨path, some params, .get⟩
      let f (s : Session) (w : WebRequest) (reply : WebReply) :=
        (webResult s path w allowMissing reply).bind yamlOf
      refine ⟨(a.request fresh.session.bare).bind fun w =>
        f fresh.session.bare w (Cluster.web w fresh.cluster).1, fun r h => ?_⟩
      have heval : (getResource? path allowMissing params).eval r =
          sending r (f r.session) (a.request r.session) := eval_getResource? _ _ _ r
      rw [heval, h.sending_eq hsteady a rfl fun _ => rfl]
      cases hp : a.request fresh.session.bare with
      | error e => exact ⟨rfl, h⟩
      | ok w =>
          have hw : w.call.stores = false := by rw [call_of_prepared hp]; rfl
          exact ⟨rfl, h.bare, .web w hw h.cluster⟩

/-- Whatever others ask meanwhile, an activity comes to what it comes to alone, at any time. -/
theorem Interleaved.certain {fresh : Run σ} (hsteady : Steady fresh.cluster) {m : Client σ α}
    {r r' : Run σ} {x : Outcome α} (h : Interleaved m r x r') (hr : Later fresh r) :
    Later fresh r' ∧ ∀ s, Later fresh s → (m.eval s).1 = x ∧ Later fresh (m.eval s).2 := by
  induction h with
  | pure a r => exact ⟨hr, fun s hs => ⟨rfl, hs⟩⟩
  | throw f r => exact ⟨hr, fun s hs => ⟨rfl, hs⟩⟩
  | @session _ k r r' x hbare _ ih =>
      obtain ⟨hend, hall⟩ := ih hr
      refine ⟨hend, fun s hs => ?_⟩
      have hk : k s.session = k r.session := by rw [← hbare s.session, ← hbare r.session, hs.bare, hr.bare]
      rw [eval_bind, eval_session]
      simp only [hk]
      exact hall s hs
  | bind _ _ ihm ihf =>
      obtain ⟨hmiddle, hfirst⟩ := ihm hr
      obtain ⟨hend, hrest⟩ := ihf hmiddle
      refine ⟨hend, fun s hs => ?_⟩
      obtain ⟨heq, hafter⟩ := hfirst s hs
      rw [eval_bind_of_ok (Prod.ext heq rfl)]
      exact hrest _ hafter
  | fail _ ih =>
      obtain ⟨hend, hall⟩ := ih hr
      refine ⟨hend, fun s hs => ?_⟩
      obtain ⟨heq, hafter⟩ := hall s hs
      rw [eval_bind_of_error (Prod.ext heq rfl)]
      exact ⟨rfl, hafter⟩
  | attempt _ ih =>
      obtain ⟨hend, hall⟩ := ih hr
      refine ⟨hend, fun s hs => ?_⟩
      obtain ⟨heq, hafter⟩ := hall s hs
      rw [eval_attempt, heq]
      exact ⟨rfl, hafter⟩
  | step r hstep =>
      obtain ⟨x, hx⟩ := hstep.certain hsteady
      obtain ⟨heq, hafter⟩ := hx r hr
      rw [heq]
      exact ⟨hafter, hx⟩
  | meanwhile hlater _ ih => exact ih (hr.trans hlater)

/-- An activity comes to the same at any later time. -/
def Lasts (fresh : Run σ) (m : Client σ α) : Prop :=
  ∀ r, Later fresh r → (m.eval r).1 = (m.eval fresh).1 ∧ Later fresh (m.eval r).2

/-- So does everything that fetches documents, where nothing is stored. -/
theorem lasts_of_uses {fresh : Run σ} (hsteady : Steady fresh.cluster) {m : Client σ α}
    (h : Uses FetchStep m) : Lasts fresh m :=
  ((interleaved_eval h fresh).certain hsteady (.refl fresh)).2

/-! ## several outcomes -/

/-- Several outcomes make up one.  If all of them are results, these are put together; otherwise the
first failure is that of the whole. -/
structure Gathers (outcomes : List (Outcome α)) (make : List α → β) (whole : Outcome β) : Prop where
  result {b : β} : whole = .ok b ↔ ∃ parts, outcomes = parts.map .ok ∧ b = make parts
  failure {e : Failure} :
    whole = .error e ↔ ∃ (parts : List α) (later : List (Outcome α)),
      outcomes = parts.map .ok ++ .error e :: later

/-- No outcomes make up a result. -/
theorem gathers_nil (make : List α → β) : Gathers [] make (.ok (make [])) := by
  refine ⟨fun {b} => ?_, fun {e} => ?_⟩
  · constructor
    · intro h
      cases h
      exact ⟨[], rfl, rfl⟩
    · rintro ⟨parts, h, rfl⟩
      rw [List.map_eq_nil_iff.mp h.symm]
  · constructor
    · intro h
      cases h
    · rintro ⟨parts, later, h⟩
      simp at h

/-- If the first outcome is a failure, it is that of the whole. -/
theorem gathers_error (e : Failure) (outcomes : List (Outcome α)) (make : List α → β) :
    Gathers (.error e :: outcomes) make (.error e) := by
  refine ⟨fun {b} => ?_, fun {e'} => ?_⟩
  · constructor
    · intro h
      cases h
    · rintro ⟨parts, h, -⟩
      cases parts <;> simp at h
  · constructor
    · intro h
      cases h
      exact ⟨[], outcomes, rfl⟩
    · rintro ⟨parts, later, h⟩
      cases parts with
      | nil =>
          cases (List.cons.inj h).1
          rfl
      | cons part parts => cases (List.cons.inj h).1

/-- If it is a result, the others make up the rest. -/
theorem Gathers.cons {outcomes : List (Outcome α)} {make : List α → β} {whole : Outcome β} {a : α}
    (h : Gathers outcomes (fun parts => make (a :: parts)) whole) :
    Gathers (.ok a :: outcomes) make whole := by
  refine ⟨fun {b} => h.result.trans ?_, fun {e} => h.failure.trans ?_⟩
  · constructor
    · rintro ⟨parts, rfl, rfl⟩
      exact ⟨a :: parts, rfl, rfl⟩
    · rintro ⟨parts, hparts, rfl⟩
      cases parts with
      | nil => cases hparts
      | cons part parts =>
          obtain ⟨hpart, hrest⟩ := List.cons.inj hparts
          cases hpart
          exact ⟨parts, hrest, rfl⟩
  · constructor
    · rintro ⟨parts, later, rfl⟩
      exact ⟨a :: parts, later, rfl⟩
    · rintro ⟨parts, later, hparts⟩
      cases parts with
      | nil => cases (List.cons.inj hparts).1
      | cons part parts => exact ⟨parts, later, (List.cons.inj hparts).2⟩

/-- Several outcomes make up no two different ones. -/
theorem Gathers.unique {outcomes : List (Outcome α)} {make : List α → β} {whole other : Outcome β}
    (h : Gathers outcomes make whole) (hother : Gathers outcomes make other) : whole = other := by
  cases hother' : other with
  | ok b => exact h.result.mpr (hother.result.mp hother')
  | error e => exact h.failure.mpr (hother.failure.mp hother')

/-- Going through the outcomes in their order comes to the one that they make up. -/
theorem gathers_collect (outcomes : List (Outcome α)) (make : List α → β) :
    Gathers outcomes make ((outcomes.mapM id).map make) := by
  induction outcomes generalizing make with
  | nil => exact gathers_nil make
  | cons x outcomes ih =>
      cases x with
      | error e => exact gathers_error e outcomes make
      | ok a =>
          have hrest := ih fun parts => make (a :: parts)
          rw [List.mapM_cons]
          cases hparts : outcomes.mapM id with
          | error e =>
              rw [hparts] at hrest
              exact hrest.cons
          | ok parts =>
              rw [hparts] at hrest
              exact hrest.cons

/-- Calls that come to the same at any later time, carried out one after the other up to the first
failure. -/
theorem gathers_mapM {fresh : Run σ} {f : α → Client σ β} {items : List α}
    (hf : ∀ a, Lasts fresh (f a))
    {k : List β → Client σ γ} {make : List β → γ} (hk : ∀ parts, k parts = pure (make parts))
    {r : Run σ} (hr : Later fresh r) :
    Gathers (items.map fun a => ((f a).eval fresh).1) make ((items.mapM f >>= k).eval r).1 := by
  induction items generalizing k make r with
  | nil =>
      rw [List.mapM_nil, pure_bind, hk]
      exact gathers_nil make
  | cons a items ih =>
      obtain ⟨hfirst, hafter⟩ := hf a r hr
      rw [List.mapM_cons, bind_assoc, List.map_cons]
      cases hx : ((f a).eval fresh).1 with
      | error e =>
          rw [hx] at hfirst
          rw [eval_bind_of_error (Prod.ext hfirst rfl)]
          exact gathers_error e _ make
      | ok b =>
          rw [hx] at hfirst
          rw [eval_bind_of_ok (Prod.ext hfirst rfl), bind_assoc]
          refine Gathers.cons (ih (fun parts => ?_) hafter)
          rw [pure_bind, hk]

/-- Calls that come to the same at any later time, all of them carried out. -/
theorem eval_mapM_attempt {fresh : Run σ} (f : α → Client σ β) (items : List α)
    (hf : ∀ a, Lasts fresh (f a)) {r : Run σ} (hr : Later fresh r) :
    ∃ r', (items.mapM fun a => attempt (f a)).eval r =
      (.ok (items.map fun a => ((f a).eval fresh).1), r') := by
  induction items generalizing r with
  | nil => exact ⟨r, rfl⟩
  | cons a items ih =>
      obtain ⟨hfirst, hafter⟩ := hf a r hr
      obtain ⟨r', hrest⟩ := ih hafter
      refine ⟨r', ?_⟩
      rw [List.mapM_cons, eval_bind_of_ok (eval_attempt (f a) r), eval_bind_of_ok hrest, hfirst]
      rfl

/-! ## calls at once -/

/-- Calls are carried out, each among others, and come to outcomes.  How many of them are under way at
a time, and in which order, does not matter. -/
def CarriedOut (r : Run σ) (calls : List (Client σ α)) (outcomes : List (Outcome α)) : Prop :=
  List.Forall₂ (fun m x => ∃ r', Interleaved m r x r') calls outcomes

/-- Something is gathered from calls: however these are carried out, their outcomes are those that each
call has alone, and these make up the whole. -/
structure GatheredFrom (r : Run σ) (calls : List (Client σ α)) (make : List α → β)
    (whole : Outcome β) : Prop where
  outcomes {xs : List (Outcome α)} :
    CarriedOut r calls xs ↔ xs = calls.map fun m => (m.eval r).1
  gathers : Gathers (calls.map fun m => (m.eval r).1) make whole

/-- However the calls are carried out, their outcomes make up the same whole. -/
theorem GatheredFrom.of_carriedOut {r : Run σ} {calls : List (Client σ α)} {make : List α → β}
    {whole : Outcome β} (h : GatheredFrom r calls make whole) {xs : List (Outcome α)}
    (hxs : CarriedOut r calls xs) : Gathers xs make whole := by
  rw [h.outcomes.mp hxs]
  exact h.gathers

/-- Calls that fetch documents come to what each of them comes to alone. -/
theorem carriedOut_iff {r : Run σ} (hsteady : Steady r.cluster) {f : α → Client σ β}
    (hf : ∀ a, Uses FetchStep (f a)) (items : List α) {xs : List (Outcome β)} :
    CarriedOut r (items.map f) xs ↔ xs = (items.map f).map fun m => (m.eval r).1 := by
  constructor
  · intro h
    induction items generalizing xs with
    | nil =>
        cases h
        rfl
    | cons a items ih =>
        obtain _ | ⟨⟨r', hinterleaved⟩, hrest⟩ := h
        obtain ⟨-, hall⟩ := hinterleaved.certain hsteady (.refl r)
        rw [List.map_cons, List.map_cons, (hall r (.refl r)).1, ← ih hrest]
  · rintro rfl
    induction items with
    | nil => exact .nil
    | cons a items ih => exact .cons ⟨_, interleaved_eval (hf a) r⟩ ih

/-- What carries out calls that fetch documents, one after the other, is gathered from them. -/
theorem gatheredFrom_mapM {fresh r : Run σ} (hsteady : Steady fresh.cluster) {f : α → Client σ β}
    (hf : ∀ a, Uses FetchStep (f a)) (make : List β → γ) (items : List α) (hr : Later fresh r) :
    GatheredFrom fresh (items.map f) make
      ((items.mapM f >>= fun parts => pure (make parts)).eval r).1 := by
  refine ⟨carriedOut_iff hsteady hf items, ?_⟩
  rw [List.map_map]
  exact gathers_mapM (fun a => lasts_of_uses hsteady (hf a)) (fun _ => rfl) hr

/-! ## views -/

/-- The view of an application is gathered from those of its deployments. -/
theorem gatheredFrom_getDeployment {r : Run σ} (hsteady : Steady r.cluster) (space app : String) :
    GatheredFrom r (r.session.environments.map fun e => getDeployment space app e.1)
      (fun views => (⟨app, views.filterMap id⟩ : ApplicationView))
      ((getApplication space app).eval r).1 := by
  have hlasts (environment : String) :=
    lasts_of_uses hsteady (uses_getDeployment space app environment)
  obtain ⟨r', hnames⟩ := eval_mapM_attempt (getDeployment space app)
    (r.session.environments.map (·.1)) hlasts (.refl r)
  have heval : ((getApplication space app).eval r).1 =
      (((r.session.environments.map (·.1)).map
        fun environment => ((getDeployment space app environment).eval r).1).mapM id).map
          fun views => ⟨app, views.filterMap id⟩ := by
    unfold getApplication
    rw [eval_bind, eval_session]
    simp only
    rw [eval_bind_of_ok hnames, eval_outcome_pure]
  refine ⟨carriedOut_iff hsteady (fun e : String × String => uses_getDeployment space app e.1) _, ?_⟩
  rw [heval, List.map_map, List.map_map]
  exact gathers_collect _ _

/-- Whoever asks for the deployments in all environments at once, in any order and with any number of
them under way at a time, has the view of the application in hand. -/
theorem getApplication_eq_of_carriedOut {r : Run σ} (hsteady : Steady r.cluster) {space app : String}
    {outcomes : List (Outcome (Option DeploymentView))}
    (houtcomes : CarriedOut r
      (r.session.environments.map fun e => getDeployment space app e.1) outcomes) :
    ((getApplication space app).eval r).1 =
      (outcomes.mapM id).map fun views => ⟨app, views.filterMap id⟩ :=
  ((gatheredFrom_getDeployment hsteady space app).of_carriedOut houtcomes).unique
    (gathers_collect outcomes _)

/-- The view of the application that a build config builds. -/
def applicationOf (space : String) (c : BuildConfig) : Client σ ApplicationView :=
  match nonEmpty? c.metadata.name with
  | none => throw (.malformed .noBuildName)
  | some name => getApplication space name

theorem uses_applicationOf (space : String) (c : BuildConfig) :
    Uses FetchStep (applicationOf space c : Client σ _) := by
  unfold applicationOf
  cases nonEmpty? c.metadata.name with
  | none => exact .throw _
  | some name => exact uses_getApplication space name

/-- The views of several things are gathered from those of each one, all of them as the client would
see it by itself. -/
structure Aggregates (r : Run σ) : Prop where
  application (space app : String) :
    GatheredFrom r (r.session.environments.map fun e => getDeployment space app e.1)
      (fun views => (⟨app, views.filterMap id⟩ : ApplicationView))
      ((getApplication space app).eval r).1
  space {space : String} {list : BuildConfigList} {r₁ : Run σ} :
    (buildConfigs r.session.config.userNamespace ("space=" ++ space)).eval r = (.ok list, r₁) →
    GatheredFrom r (list.items.map (applicationOf space))
      (fun views => (⟨space, views⟩ : SpaceView)) ((getSpace space).eval r).1
  environments :
    GatheredFrom r (r.session.environments.map fun e => getEnvironment e.1) id
      ((getEnvironments).eval r).1

/-- On a cluster that nothing is stored in, views are made of the views of each thing. -/
theorem aggregates_of_steady {r : Run σ} (hsteady : Steady r.cluster) : Aggregates r where
  application := gatheredFrom_getDeployment hsteady
  space := by
    intro space list r₁ hlist
    have hafter : Later r r₁ := by
      have hlater := (lasts_of_uses hsteady (uses_buildConfigs r.session.config.userNamespace
        ("space=" ++ space)) r (.refl r)).2
      rw [hlist] at hlater
      exact hlater
    have hspace : (getSpace space).eval r =
        (list.items.mapM (applicationOf space) >>= fun views =>
          (pure ⟨space, views⟩ : Client σ SpaceView)).eval r₁ := by
      unfold getSpace
      rw [eval_bind, eval_config]
      simp only
      rw [eval_bind_of_ok hlist]
      rfl
    rw [hspace]
    exact gatheredFrom_mapM hsteady (uses_applicationOf space) _ list.items hafter
  environments := by
    have hwhole := gatheredFrom_mapM hsteady (fun e : String × String =>
      uses_getEnvironment (σ := σ) e.1) id r.session.environments (.refl r)
    rw [show (fun parts => (pure (id parts) : Client σ (List EnvironmentView))) = pure from rfl,
      bind_pure] at hwhole
    exact hwhole

/-- A client of a cluster with two environments, of which one has a deployment, and with a build config
that is listed twice. -/
def twice : Run Recorded where
  session := { rolledOut.session with environments := [("test", "my-test"), ("run", "my-run")] }
  cluster := { rolledOut.cluster with
    http := ("GET /oapi/v1/namespaces/my/buildconfigs",
      .answer 200 (.document (.object [("kind", .text "BuildConfigList"),
        ("items", .list [buildConfig, buildConfig])]))) :: rolledOut.cluster.http }
where
  buildConfig : Document := .object [("metadata", .object [("name", .text "app")])]

/-- The application is shown with one deployment, and twice in its space.  For another space, the first
environment has nothing to show, and the second one fails. -/
theorem twice_aggregates :
    Steady twice.cluster ∧ Aggregates twice ∧
      ((getApplication "space" "app").eval twice).1.toOption.map
        (fun a => a.deployments.map (·.environment)) = some ["run"] ∧
      ((getSpace "space").eval twice).1.toOption.map
        (fun s => s.applications.map fun a => (a.name, a.deployments.length)) =
          some [("app", 1), ("app", 1)] ∧
      ((getDeployment "other" "app" "test").eval twice).1.toOption = some none ∧
      ((getApplication "other" "app").eval twice).1.toOption = none := by
  refine ⟨steady_recorded _, aggregates_of_steady (steady_recorded _), ?_⟩
  decide +kernel

end Rollout
