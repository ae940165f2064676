import Rollout.Proofs.Remembered

/-!
# Rollout.Proofs.Steady

Reading operations do not disturb each other.

* `Visited`, `Steady` — what becomes of a cluster by requests that store nothing; a steady one goes on
  to answer as it does now;
* `Later` — a client after such requests; `Later.eval_readCore`, `Later.sending_eq` — single requests
  come to what they came to before;
* `lookUp` — looking something up in what is remembered, or finding it out;
* `Settled` — what a client remembers is what a new client would find out;
* `Certain` — an activity has one outcome on all settled clients, and leaves them settled;
* `certain_lookUp` — so does looking up, if finding out does; `Uses.certain` — and everything
  that is made of such steps, such as all operations that read;
* `later_perform` — these store nothing;
* `results_of_steady` — whatever a client has been asked before, it answers like a new one.
-/

namespace Rollout

open Client

variable {σ α β : Type}

/-! ## clusters that nothing is stored in -/

/-- A request that changes what a cluster keeps. -/
def Call.stores : Call → Bool
  | .put _ => true
  | .get | .post _ | .metrics _ _ => false

section

variable [Cluster σ]

/-- What becomes of a cluster by requests that store nothing. -/
inductive Visited (c : σ) : σ → Prop where
  | unasked : Visited c c
  | core {c' : σ} (q : CoreQuery) : Visited c c' → Visited c (Cluster.core q c').2
  | web {c' : σ} (w : WebRequest) : w.call.stores = false → Visited c c' →
    Visited c (Cluster.web w c').2

/-- A cluster goes on to answer as it does now, as long as nothing is stored in it. -/
structure Steady (c : σ) : Prop where
  core {c' : σ} (q : CoreQuery) : Visited c c' → (Cluster.core q c').1 = (Cluster.core q c).1
  web {c' : σ} {w : WebRequest} : w.call.stores = false → Visited c c' →
    (Cluster.web w c').1 = (Cluster.web w c).1

end

/-- A record stays as it is. -/
theorem eq_of_visited {c c' : Recorded} (h : Visited c c') : c' = c := by
  induction h with
  | unasked => rfl
  | core q _ ih => exact ih
  | web w hw _ ih =>
      refine Eq.trans ?_ ih
      simp only [Cluster.web, Recorded.web]
      cases (Recorded.keys w).findSome? fun key => _ with
      | some reply => rfl
      | none =>
          simp only [Recorded.missingWeb]
          cases hcall : w.call with
          | put body =>
              rw [hcall] at hw
              cases hw
          | get => rfl
          | post body => rfl
          | metrics tenant signal => rfl

/-- Questions leave a record as it is. -/
theorem steady_recorded (c : Recorded) : Steady c where
  core _ h := by rw [eq_of_visited h]
  web _ h := by rw [eq_of_visited h]

variable [Cluster σ]

/-! ## clients on such clusters -/

/-- A client when the cluster has been asked more, but nothing has been stored in it.  Whatever the
client has looked up meanwhile does not matter. -/
structure Later (fresh r : Run σ) : Prop where
  bare : r.session.bare = fresh.session.bare
  cluster : Visited fresh.cluster r.cluster

/-- After questions, others may follow. -/
theorem Visited.trans {c c' c'' : σ} (h : Visited c c') (h' : Visited c' c'') : Visited c c'' := by
  induction h' with
  | unasked => exact h
  | core q _ ih => exact .core q ih
  | web w hw _ ih => exact .web w hw ih

theorem Later.refl (r : Run σ) : Later r r := ⟨rfl, .unasked⟩

/-- Later than a later state is later. -/
theorem Later.trans {r r₁ r₂ : Run σ} (h : Later r r₁) (h' : Later r₁ r₂) : Later r r₂ :=
  ⟨h'.bare.trans h.bare, h.cluster.trans h'.cluster⟩

/-- A request that stores nothing leads to a later state. -/
theorem Later.afterWeb {fresh r : Run σ} (h : Later fresh r) {w : WebRequest}
    (hw : w.call.stores = false) : Later fresh (r.afterWeb w) := ⟨h.bare, .web w hw h.cluster⟩

omit [Cluster σ] in
/-- What has been looked up makes no difference to a request. -/
theorem request_bare (a : Ask) (s : Session) : a.request s.bare = a.request s := by
  simp only [Ask.request, prepared, Session.bare]

omit [Cluster σ] in
/-- Clients with the same setup make the same request. -/
theorem request_congr {s s' : Session} (h : s'.bare = s.bare) (a : Ask) :
    a.request s' = a.request s := by
  rw [← request_bare a s', h, request_bare]

omit [Cluster σ] in
/-- A request stores something if that is what is asked for. -/
theorem stores_of_request {a : Ask} {s : Session} {w : WebRequest} (h : a.request s = .ok w) :
    w.call.stores = a.call.stores := by
  rw [call_of_prepared h]

/-- On a cluster that nothing is stored in, questions have the same answer at any later time. -/
theorem Later.eval_readCore [Resource α] {fresh r : Run σ} (hsteady : Steady fresh.cluster)
    (h : Later fresh r) (q : CoreQuery) :
    (readCore q : Client σ α).eval r =
      (coreResult fresh.session.bare q (Cluster.core q fresh.cluster).1, r.afterCore q) := by
  rw [Client.eval_readCore, hsteady.core q h.cluster, ← h.bare]
  rfl

/-- A request that stores nothing is sent and answered as before, if it can be sent. -/
theorem Later.sending_eq {fresh r : Run σ} (hsteady : Steady fresh.cluster) (h : Later fresh r)
    (a : Ask) (ha : a.call.stores = false) {f : Session → WebRequest → WebReply → Outcome α}
    (hbare : ∀ s, f s.bare = f s) :
    sending r (f r.session) (a.request r.session) =
      ((a.request fresh.session.bare).bind fun w =>
        f fresh.session.bare w (Cluster.web w fresh.cluster).1,
        r.afterTrying (a.request fresh.session.bare)) := by
  rw [← hbare, ← request_bare, h.bare]
  cases hp : a.request fresh.session.bare with
  | error e => rfl
  | ok w =>
      have hw : w.call.stores = false := by rw [call_of_prepared hp, ha]
      simp only [sending, hsteady.web hw h.cluster]
      rfl

/-! ## what is remembered -/

/-- Takes something from what is remembered; otherwise it is found out, and noted. -/
def lookUp (known : Session → Option α) (find : Client σ α) (note : α → Session → Session) :
    Client σ α := do
  match known (← session) with
  | some a => return a
  | none =>
    let a ← find
    remember (note a)
    return a

omit [Cluster σ] in
/-- What is found in a table was there before, or has just been added. -/
theorem eq_of_lookup_append {entries : List (String × β)} {name other : String} {a b : β}
    (h : (entries ++ [(name, a)]).lookup other = some b) :
    entries.lookup other = some b ∨ other = name ∧ a = b := by
  rw [lookup_append_single] at h
  cases hlookup : entries.lookup other with
  | some known =>
      rw [hlookup] at h
      exact .inl h
  | none =>
      rw [hlookup, Option.none_or] at h
      split at h
      case isTrue heq => exact .inr ⟨heq, Option.some.inj h⟩
      case isFalse => cases h

/-- Finds out what the user may do in a namespace. -/
def findGrants (ns : String) : Client σ Grants := return Grants.ofReview (← rulesReview ns)

/-- Makes up access to the metrics of a namespace. -/
def findMetrics (ns : String) : Client σ MetricsAccess := do
  let c ← config
  return ⟨Text.trimRight '/' (← outcome (c.provider.metricsUrl ns)), c.provider.metricsToken⟩

/-- A session that knows the grants of one more namespace. -/
def Session.noteGrants (ns : String) (found : Grants) (s : Session) : Session :=
  { s with grants := s.grants ++ [(ns, found)] }

/-- A session with access to the metrics of one more namespace. -/
def Session.noteMetrics (ns : String) (access : MetricsAccess) (s : Session) : Session :=
  { s with metrics := s.metrics ++ [(ns, access)] }

/-- Finding the grants in a namespace is looking them up. -/
theorem eval_grantsIn (ns : String) (r : Run σ) :
    (grantsIn ns).eval r =
      (lookUp (·.grants.lookup ns) (findGrants ns) (Session.noteGrants ns)).eval r := by
  unfold grantsIn lookUp findGrants
  rw [eval_bind, eval_bind, eval_session]
  simp only
  cases r.session.grants.lookup ns with
  | some found => rfl
  | none =>
      simp only [bind_assoc, pure_bind]
      rfl

omit [Cluster σ] in
/-- Access to metrics is looked up in the same way. -/
theorem eval_metricsAccess (ns : String) (r : Run σ) :
    (metricsAccess ns).eval r =
      (lookUp (·.metrics.lookup ns) (findMetrics ns) (Session.noteMetrics ns)).eval r := by
  unfold metricsAccess lookUp findMetrics
  rw [eval_bind, eval_bind, eval_session]
  simp only
  cases r.session.metrics.lookup ns with
  | some access => rfl
  | none =>
      simp only [bind_assoc, pure_bind]
      rfl

/-! ## clients that remember what they would find out -/

/-- A client is like a new one but for what it remembers, and that is what the new one would find
out. -/
structure Settled (fresh r : Run σ) : Prop where
  bare : r.session.bare = fresh.session.bare
  cluster : Visited fresh.cluster r.cluster
  grants {ns : String} {found : Grants} :
    r.session.grants.lookup ns = some found → ((findGrants ns).eval fresh).1 = .ok found
  metrics {ns : String} {access : MetricsAccess} :
    r.session.metrics.lookup ns = some access → ((findMetrics ns).eval fresh).1 = .ok access

namespace Settled

variable {fresh r : Run σ}

/-- A settled client is a later one. -/
theorem later (h : Settled fresh r) : Later fresh r := ⟨h.bare, h.cluster⟩

theorem afterCore (h : Settled fresh r) (q : CoreQuery) : Settled fresh (r.afterCore q) :=
  ⟨h.bare, .core q h.cluster, h.grants, h.metrics⟩

theorem afterWeb (h : Settled fresh r) {w : WebRequest} (hw : w.call.stores = false) :
    Settled fresh (r.afterWeb w) :=
  ⟨h.bare, .web w hw h.cluster, h.grants, h.metrics⟩

/-- A client that has not looked up anything is settled. -/
theorem of_new (hbare : r.session = fresh.session.bare) (hcluster : Visited fresh.cluster r.cluster) :
    Settled fresh r := by
  refine ⟨by rw [hbare]; rfl, hcluster, fun h => ?_, fun h => ?_⟩
  · rw [hbare] at h
    cases h
  · rw [hbare] at h
    cases h

/-- Grants that have been found leave a client settled when they are remembered. -/
theorem noteGrants (h : Settled fresh r) {ns : String} {found : Grants}
    (hfound : ((findGrants ns).eval fresh).1 = .ok found) :
    Settled fresh { r with session := r.session.noteGrants ns found } := by
  refine ⟨h.bare, h.cluster, fun hlookup => ?_, h.metrics⟩
  obtain hknown | ⟨rfl, rfl⟩ := eq_of_lookup_append hlookup
  · exact h.grants hknown
  · exact hfound

/-- So does access to metrics. -/
theorem noteMetrics (h : Settled fresh r) {ns : String} {access : MetricsAccess}
    (hfound : ((findMetrics ns).eval fresh).1 = .ok access) :
    Settled fresh { r with session := r.session.noteMetrics ns access } := by
  refine ⟨h.bare, h.cluster, h.grants, fun hlookup => ?_⟩
  obtain hknown | ⟨rfl, rfl⟩ := eq_of_lookup_append hlookup
  · exact h.metrics hknown
  · exact hfound

end Settled

/-- An activity has one outcome on all settled clients, and leaves them settled. -/
def Certain (fresh : Run σ) (m : Client σ α) : Prop :=
  ∃ a, ∀ r, Settled fresh r → (m.eval r).1 = a ∧ Settled fresh (m.eval r).2

namespace Certain

variable {fresh : Run σ}

theorem congr {m n : Client σ α} (heval : ∀ r, m.eval r = n.eval r) (h : Certain fresh n) :
    Certain fresh m := by
  obtain ⟨a, ha⟩ := h
  refine ⟨a, fun r hr => ?_⟩
  rw [heval]
  exact ha r hr

theorem pure (a : α) : Certain fresh (pure a : Client σ α) := ⟨.ok a, fun _ h => ⟨rfl, h⟩⟩

theorem throw (f : Failure) : Certain fresh (throw f : Client σ α) := ⟨.error f, fun _ h => ⟨rfl, h⟩⟩

/-- What goes on with the setup of the client is certain. -/
theorem session {k : Session → Client σ α} (hbare : ∀ s, k s.bare = k s)
    (hk : ∀ s, Certain fresh (k s)) : Certain fresh (session >>= k) := by
  obtain ⟨a, ha⟩ := hk fresh.session.bare
  refine ⟨a, fun r h => ?_⟩
  rw [eval_bind, eval_session]
  simp only
  rw [← hbare, h.bare]
  exact ha r h

/-- Two activities in a row are certain. -/
theorem bind {m : Client σ α} {f : α → Client σ β} (hm : Certain fresh m)
    (hf : ∀ a, Certain fresh (f a)) : Certain fresh (m >>= f) := by
  obtain ⟨first, hfirst⟩ := hm
  cases first with
  | error e =>
      refine ⟨.error e, fun r h => ?_⟩
      obtain ⟨heq, hsettled⟩ := hfirst r h
      rw [eval_bind_of_error (Prod.ext heq rfl)]
      exact ⟨rfl, hsettled⟩
  | ok a =>
      obtain ⟨b, hb⟩ := hf a
      refine ⟨b, fun r h => ?_⟩
      obtain ⟨heq, hsettled⟩ := hfirst r h
      rw [eval_bind_of_ok (Prod.ext heq rfl)]
      exact hb _ hsettled

/-- What is attempted is certain, and so is its outcome. -/
theorem attempt {m : Client σ α} (hm : Certain fresh m) : Certain fresh (attempt m) := by
  obtain ⟨x, hx⟩ := hm
  refine ⟨.ok x, fun r h => ?_⟩
  obtain ⟨heq, hsettled⟩ := hx r h
  rw [eval_attempt, heq]
  exact ⟨rfl, hsettled⟩

end Certain

/-- What is certain of every step is certain of the whole activity. -/
theorem Client.Uses.certain {fresh : Run σ} {Allowed : (α : Type) → Client σ α → Prop}
    (hstep : ∀ α m, Allowed α m → Certain fresh m) {m : Client σ α} (h : Uses Allowed m) :
    Certain fresh m := by
  induction h with
  | pure a => exact .pure a
  | throw f => exact .throw f
  | session hbare _ ih => exact .session hbare ih
  | bind _ _ ihm ihf => exact .bind ihm ihf
  | attempt _ ih => exact .attempt ih
  | step h => exact hstep _ _ h

/-! ## steps -/

section

variable {fresh : Run σ} (hsteady : Steady fresh.cluster)

include hsteady

/-- Questions about core resources are certain. -/
theorem certain_readCore [Resource α] (q : CoreQuery) :
    Certain fresh (readCore q : Client σ α) := by
  refine ⟨coreResult fresh.session.bare q (Cluster.core q fresh.cluster).1, fun r h => ?_⟩
  rw [h.later.eval_readCore hsteady q]
  exact ⟨rfl, h.afterCore q⟩

/-- A request that is sent if it can be has one outcome where it stores nothing. -/
theorem certain_of_sending (a : Ask) (ha : a.call.stores = false)
    {f : Session → WebRequest → WebReply → Outcome α} (hbare : ∀ s, f s.bare = f s)
    {m : Client σ α} (heval : ∀ r, m.eval r = sending r (f r.session) (a.request r.session)) :
    Certain fresh m := by
  refine ⟨(a.request fresh.session.bare).bind fun w =>
    f fresh.session.bare w (Cluster.web w fresh.cluster).1, fun r h => ?_⟩
  rw [heval, h.later.sending_eq hsteady a ha hbare]
  cases hp : a.request fresh.session.bare with
  | error e => exact ⟨rfl, h⟩
  | ok w => exact ⟨rfl, h.afterWeb (by rw [call_of_prepared hp, ha])⟩

/-- Fetching a document is certain. -/
theorem certain_getResource? (path : String) (allowMissing : Bool) (params : Labels) :
    Certain fresh (getResource? path allowMissing params) :=
  certain_of_sending hsteady ⟨path, some params, .get⟩ rfl
    (f := fun s w reply => (webResult s path w allowMissing reply).bind yamlOf) (fun _ => rfl)
    (eval_getResource? path allowMissing params)

/-- So is asking for the rules in a namespace. -/
theorem certain_rulesReview (ns : String) :
    Certain fresh (rulesReview ns : Client σ RulesReview) :=
  certain_of_sending hsteady ⟨reviewPath ns, none, .post reviewRequest⟩ rfl
    (f := fun s w reply => (webResult s (reviewPath ns) w false reply).bind (reviewOf ns))
    (fun _ => rfl) fun r => (Consultation.mk ns [] r).eval_rulesReview

/-- So is every request that stores nothing. -/
theorem certain_askWeb {w : WebRequest} (hw : w.call.stores = false) :
    Certain fresh (askWeb w) := by
  refine ⟨.ok (Cluster.web w fresh.cluster).1, fun r h => ?_⟩
  rw [eval_askWeb, hsteady.web hw h.cluster]
  exact ⟨rfl, h.afterWeb hw⟩

end

section

variable {fresh : Run σ} (hself : Settled fresh fresh)

include hself

/-- What is looked up in what is remembered has one outcome if it has one when it is found out. -/
theorem certain_lookUp {known : Session → Option α} {find : Client σ α}
    {note : α → Session → Session} (hfind : Certain fresh find)
    (hknown : ∀ r a, Settled fresh r → known r.session = some a → (find.eval fresh).1 = .ok a)
    (hnote : ∀ r a, Settled fresh r → (find.eval fresh).1 = .ok a →
      Settled fresh { r with session := note a r.session }) :
    Certain fresh (lookUp known find note) := by
  obtain ⟨found, hfound⟩ := hfind
  have hfresh := (hfound fresh hself).1
  refine ⟨found, fun r h => ?_⟩
  unfold lookUp
  rw [eval_bind, eval_session]
  simp only
  cases hlookup : known r.session with
  | some a => exact ⟨(hknown r a h hlookup).symm.trans hfresh, h⟩
  | none =>
      obtain ⟨hnow, hafter⟩ := hfound r h
      rcases hrun : find.eval r with ⟨result, r'⟩
      rw [hrun] at hnow hafter
      obtain rfl : result = found := hnow
      simp only
      cases result with
      | error e =>
          rw [eval_bind_of_error hrun]
          exact ⟨rfl, hafter⟩
      | ok a =>
          rw [eval_bind_of_ok hrun]
          exact ⟨rfl, hnote r' a hafter hfresh⟩

/-- Access to metrics is certain, looked up or made up. -/
theorem certain_metricsAccess (ns : String) :
    Certain fresh (metricsAccess ns : Client σ MetricsAccess) := by
  have hfind : Uses (fun _ _ => False) (findMetrics ns : Client σ MetricsAccess) :=
    .bind .config fun _ => .bind (.outcome _) fun _ => .pure _
  exact .congr (eval_metricsAccess ns) (certain_lookUp hself (hfind.certain fun _ _ => False.elim)
    (fun r access h => h.metrics) fun r access h => h.noteMetrics)

/-- Grants are certain, looked up or asked for. -/
theorem certain_grantsIn (hsteady : Steady fresh.cluster) (ns : String) :
    Certain fresh (grantsIn ns : Client σ Grants) := by
  have hfind : Certain fresh (findGrants ns) :=
    (certain_rulesReview hsteady ns).bind fun _ => .pure _
  exact .congr (eval_grantsIn ns) (certain_lookUp hself hfind (fun r found h => h.grants)
    fun r found h => h.noteGrants)

end

/-! ## operations -/

/-- The steps of activities that look things up: they read, or ask for rules. -/
inductive LookupStep : (α : Type) → Client σ α → Prop where
  | reading {α : Type} {m : Client σ α} : ReadingStep α m → LookupStep α m
  | grants (ns : String) : LookupStep Grants (grantsIn ns)

/-- Each step of a lookup is certain. -/
theorem LookupStep.certain {fresh : Run σ} (hsteady : Steady fresh.cluster)
    (hself : Settled fresh fresh) {m : Client σ α} (h : LookupStep α m) : Certain fresh m := by
  cases h with
  | grants ns => exact certain_grantsIn hself hsteady ns
  | reading h =>
      cases h with
      | core q => exact certain_readCore hsteady q
      | path path allowMissing params => exact certain_getResource? hsteady path allowMissing params
      | usage h =>
          cases h with
          | query w hw =>
              obtain ⟨signal, -, -, hcall, -⟩ := hw
              refine certain_askWeb hsteady ?_
              rw [hcall]
              rfl
          | access ns => exact certain_metricsAccess hself ns

/-- A check looks up grants, and nothing else. -/
theorem uses_canPerform (environment : String) (required : List Requirement) :
    Uses LookupStep (canPerform environment required : Client σ Bool) := by
  have hns : Uses LookupStep (accessNamespace environment : Client σ String) :=
    .ite (.bind .config fun _ => .pure _) (uses_environmentNamespace environment)
  exact .bind hns fun ns => .bind (.step (.grants ns)) fun _ => .pure _

/-- What goes on after a requirement is met, and ends otherwise. -/
theorem uses_ifCanPerform (environment : String) (required : List Requirement)
    {m : Client σ Bool} (hm : Uses LookupStep m) :
    Uses LookupStep
      (do if ← canPerform environment required then m else return false : Client σ Bool) :=
  .bind (uses_canPerform environment required) fun _ => .ite hm (.pure false)

theorem uses_canPerformEverywhere (required : List Requirement) :
    Uses LookupStep (canPerformEverywhere required : Client σ Bool) := by
  have hall (names : List String) : Uses LookupStep (canPerformIn required names : Client σ Bool) := by
    induction names with
    | nil => exact .pure true
    | cons name rest ih => exact .ite ih (uses_ifCanPerform name required ih)
  exact .session (fun _ => rfl) fun s => hall _

theorem uses_canPerformWithBuilds (environment : String) (required : List Requirement) :
    Uses LookupStep (canPerformWithBuilds environment required : Client σ Bool) :=
  uses_ifCanPerform _ _ (uses_canPerform environment required)

/-- Checks look up rules, and do nothing else. -/
theorem uses_ask (c : Check) : Uses LookupStep (c.ask (σ := σ)) := by
  cases c with
  | space => exact uses_ifCanPerform _ _ (uses_canPerformEverywhere _)
  | application => exact uses_ifCanPerform _ _ (uses_canPerformEverywhere _)
  | deployment e => exact uses_canPerformWithBuilds e _
  | scale e => exact uses_canPerformWithBuilds e _
  | usage e => exact uses_canPerformWithBuilds e _
  | usageSeries e => exact uses_canPerformWithBuilds e _
  | environments => exact uses_canPerformEverywhere _
  | environment e => exact uses_canPerform e _
  | perform e required => exact uses_canPerform e required

/-- Operations that read look things up, and do nothing else. -/
theorem uses_perform_of_onlyReads {o : Operation} (h : o.onlyReads = true) :
    Uses LookupStep (o.perform (σ := σ)) := by
  by_cases hrules : o.asksForRules = false
  · exact (uses_perform hrules h).mono fun _ _ => .reading
  · cases o <;> simp [Operation.asksForRules] at hrules
    case check c => exact .bind (uses_ask c) fun _ => .pure _
    case grants ns => exact .bind (.step (.grants ns)) fun _ => .pure _

theorem reading_later : Reading (σ := σ) Later where
  here := .refl
  onward := .trans
  core _ q := ⟨rfl, .core q .unasked⟩
  web r w hw := by
    refine ⟨rfl, .web w ?_ .unasked⟩
    cases hcall : w.call with
    | get | metrics => rfl
    | put | post => rw [hcall] at hw; cases hw
  metrics _ _ := ⟨rfl, .unasked⟩

/-- Asking what the user may do stores nothing either. -/
theorem later_grantsIn (ns : String) : Along Later (grantsIn ns : Client σ Grants) := by
  intro r
  let q := Consultation.mk ns [] r
  have hasked {w : WebRequest} (hw : q.request = .ok w) : Later r (r.afterWeb w) :=
    (Later.refl r).afterWeb (by rw [call_of_prepared hw]; rfl)
  change Later r q.after
  obtain h | ⟨w, hw, h⟩ | ⟨w, review, hw, -, -, h⟩ := q.after_eq
  · rw [h]
    exact .refl r
  · rw [h]
    exact hasked hw
  · rw [h]
    exact ⟨(hasked hw).bare, (hasked hw).cluster⟩

/-- Operations that read store nothing. -/
theorem later_perform {o : Operation} (ho : o.onlyReads = true) (r : Run σ) :
    Later r (o.perform.eval r).2 := by
  refine (uses_perform_of_onlyReads ho).along reading_later.toPath (fun _ _ hstep => ?_) r
  cases hstep with
  | reading h => exact reading_later.step h
  | grants ns => exact later_grantsIn ns

/-! ## runs -/

/-- The results of operations that are carried out one after the other. -/
def results : List Operation → Run σ → List (Outcome Answered)
  | [], _ => []
  | o :: rest, r => (o.perform.eval r).1 :: results rest (o.perform.eval r).2

/-- Operations that read have one list of results on all settled clients. -/
theorem results_of_settled {fresh : Run σ} (hsteady : Steady fresh.cluster)
    (hself : Settled fresh fresh) {operations : List Operation}
    (hreads : ∀ o ∈ operations, o.onlyReads = true) {r r' : Run σ} (h : Settled fresh r)
    (h' : Settled fresh r') :
    results operations r = operations.map fun o => (o.perform.eval r').1 := by
  induction operations generalizing r with
  | nil => rfl
  | cons o rest ih =>
      obtain ⟨a, ha⟩ := (uses_perform_of_onlyReads (hreads o (.head _))).certain
        fun _ _ hstep => LookupStep.certain hsteady hself hstep
      obtain ⟨hresult, hafter⟩ := ha r h
      rw [results, List.map_cons, hresult, (ha r' h').1]
      exact congrArg _ (ih (fun o ho => hreads o (.tail _ ho)) hafter)

/-! ## opening -/

/-- The environments that a cluster lists for a user. -/
def listedEnvironments (config : ClientConfig) (now : DateTime) (c : σ) : Outcome Labels := do
  let q := CoreQuery.configMap config.userNamespace environmentsName
  environments (← coreResult { config, now } q (Cluster.core q c).1) config.userNamespace

/-- A client is opened with the environments that a cluster lists for its user. -/
theorem openOn_eq (config : ClientConfig) (now : DateTime) (c : σ) :
    openOn config now c = (listedEnvironments config now c).map fun found =>
      { ({ session := { config, now }, cluster := c } : Run σ).afterCore
          (.configMap config.userNamespace environmentsName) with
        session := { config, now, environments := found } } := by
  have heval : readEnvironments.run.run ({ session := { config, now }, cluster := c } : Run σ) =
      readEnvironments.eval { session := { config, now }, cluster := c } := rfl
  unfold openOn
  rw [heval]
  unfold readEnvironments environmentsMap listedEnvironments
  rw [eval_bind, eval_config]
  simp only [eval_bind, eval_readCore, eval_outcome]
  cases (coreResult { config, now } _ (Cluster.core _ c).1 : Outcome ConfigMap) with
  | error e => rfl
  | ok m =>
      simp only [bind, Except.bind]
      cases environments m config.userNamespace <;> rfl

/-- A client can be opened where a cluster lists the environments of its user. -/
theorem openOn_eq_ok_iff {config : ClientConfig} {now : DateTime} {c : σ} {r : Run σ} :
    openOn config now c = .ok r ↔
      ∃ found, listedEnvironments config now c = .ok found ∧
        r = { ({ session := { config, now }, cluster := c } : Run σ).afterCore
            (.configMap config.userNamespace environmentsName) with
          session := { config, now, environments := found } } := by
  rw [openOn_eq]
  cases listedEnvironments config now c <;> simp [Except.map, eq_comm]

/-- A client that has just been opened is settled, whenever that was. -/
theorem settled_of_openOn {config : ClientConfig} {now : DateTime} {fresh r : Run σ} {c : σ}
    {found : Labels} (hfresh : fresh.session = { config, now, environments := found })
    (hlisted : listedEnvironments config now c = .ok found) (hc : Visited fresh.cluster c)
    (hopen : openOn config now c = .ok r) : Settled fresh r := by
  obtain ⟨found', hlisted', rfl⟩ := openOn_eq_ok_iff.mp hopen
  obtain rfl : found = found' := Except.ok.inj (hlisted.symm.trans hlisted')
  exact .of_new (by rw [hfresh]; rfl) (.core _ hc)

/-- On a cluster that nothing is stored in, a client answers like a new one, whatever it has been
asked before, and whatever the cluster has been asked before the new one was opened. -/
theorem results_of_steady {config : ClientConfig} {now : DateTime} {cluster : σ} {r : Run σ}
    (hsteady : Steady cluster) (hopen : openOn config now cluster = .ok r)
    {operations : List Operation} (hreads : ∀ o ∈ operations, o.onlyReads = true) {c : σ}
    (hc : Visited cluster c) :
    ∃ r', openOn config now c = .ok r' ∧
      results operations r = operations.map fun o => (o.perform.eval r').1 := by
  obtain ⟨found, hlisted, -⟩ := openOn_eq_ok_iff.mp hopen
  have hlisted' : listedEnvironments config now c = .ok found := by
    rw [listedEnvironments, hsteady.core _ hc]
    exact hlisted
  have hopen' := openOn_eq_ok_iff.mpr ⟨found, hlisted', rfl⟩
  -- Both clients are compared with one that has not asked anything, not even for its environments.
  let fresh : Run σ := ⟨{ config, now, environments := found }, cluster, []⟩
  have hfresh : Steady fresh.cluster := hsteady
  exact ⟨_, hopen', results_of_settled hfresh (.of_new rfl .unasked) hreads
    (settled_of_openOn rfl hlisted .unasked hopen) (settled_of_openOn rfl hlisted' hc hopen')⟩

/-! ## a client that is asked twice -/

/-- Checks that are made twice, beside failures. -/
def repeated : List Operation :=
  [.environment "run", .check (.environment "run"), .check (.environment "other"),
    .metrics "my-run", .check (.environment "run"), .metrics "my-run"]

/-- What the client remembers makes no difference, though it saves requests. -/
theorem results_repeated :
    ∃ r r', openOn sampleConfig ⟨0, none⟩ (clusterWithRules quotaRules) = .ok r ∧
      openOn sampleConfig ⟨0, none⟩ (clusterWithRules quotaRules) = .ok r' ∧
      results repeated r = repeated.map (fun o => (o.perform.eval r').1) ∧
      (results repeated r).map Except.isOk = [false, true, false, true, true, true] ∧
      (after (repeated.map .call) r).posts.length = 1 := by
  have hrun : (openOn sampleConfig ⟨0, none⟩ (clusterWithRules quotaRules)).toOption.map
      (fun r => ((results repeated r).map Except.isOk,
        (after (repeated.map .call) r).posts.length)) =
      some ([false, true, false, true, true, true], 1) := by decide +kernel
  obtain ⟨r, hopen, hcourse⟩ := exists_openOn hrun
  obtain ⟨hoks, hposts⟩ := Prod.mk.inj hcourse
  have hreads : ∀ o ∈ repeated, o.onlyReads = true := by decide
  obtain ⟨r', hopen', hresults⟩ := results_of_steady (steady_recorded _) hopen hreads .unasked
  exact ⟨r, r', hopen, hopen', hresults, hoks, hposts⟩

end Rollout
