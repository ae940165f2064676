import Mathlib.Data.List.Forall2
import Rollout.Proofs.DeploymentView
import Rollout.Proofs.Percent

/-!
# Rollout.Proofs.Usage

The usage of a deployment is asked for where the deployment is shown, and for its pods.

* `usageQuery`, `bucketsOf` — the query of one signal of pods, and what is made of its answer;
  `WebRequest.AsksUsage` — what such a query says;
* `Inquiry` — a window, and what is made of the buckets of all signals; `showUsage_eq`,
  `showUsageSeries_eq` — views of usage are made by inquiries;
* `Queried` — signals are asked about one after the other, up to the first failure;
* `UsageOfShown`, `usage_of_shown` — an operation on usage goes along with the one that shows the
  deployment up to its pods, and then asks for the usage of these.
-/

namespace Rollout

open Client

variable {σ β γ : Type}

/-! ## queries -/

/-- The signals in the order in which they are asked about. -/
def Signal.all : List Signal := [.cpu, .memory, .sent, .received]

/-- Where usage is asked for. -/
def usageUrl (access : MetricsAccess) : String := access.base ++ "/hawkular/metrics/gauges/stats"

/-- The parameters of a query, for a window in milliseconds. -/
def usageParams (pods : List Pod) (start finish : Int) (division : Division) (signal : Signal) :
    Labels :=
  [("tags", gaugeTags signal pods), ("start", toString start), ("end", toString finish),
    ("stacked", "true"), division.param]

/-- The query of a signal of pods, or why it cannot be made. -/
def usageQuery (access : MetricsAccess) (pods : List Pod) (tenant : String)
    (start finish : DateTime) (division : Division) (signal : Signal) : Outcome WebRequest :=
  (millisOf start).bind fun first => (millisOf finish).bind fun last =>
    (Url.Target.ofText (usageUrl access)).bind fun plain =>
      let params := usageParams pods first last division signal
      let w : WebRequest := ⟨plain.withParams params, access.token, .metrics tenant signal⟩
      if w.isWritable && Url.Target.paramsFit params then .ok w else .error .badHeader

/-- The buckets that an answer holds. -/
def bucketsOf (access : MetricsAccess) : WebReply → Outcome (List Bucket)
  | .broken detail =>
    .error (.transport "could not read metrics" (some detail) (usageUrl access) none)
  | .answer status content =>
    if status < 200 ∨ 300 ≤ status then
      .error (.transport "could not read metrics" none (usageUrl access) (some status))
    else if status = 204 then .ok []
    else
      match content with
      | .text "" => .ok []
      | .text s => Bucket.ofJson s
      | .document d => Bucket.ofJson d.json

/-- A request asks for the usage of pods: for one signal, in a namespace, over a window. -/
structure WebRequest.AsksUsage (w : WebRequest) (tenant : String) (pods : List Pod)
    (start finish : DateTime) (division : Division) (signal : Signal) : Prop where
  call : w.call = .metrics tenant signal
  params : ∃ first last, millisOf start = .ok first ∧ millisOf finish = .ok last ∧
    w.target.params = usageParams pods first last division signal

/-- The query for a signal asks for the usage of the pods in the time between. -/
theorem asksUsage_of_usageQuery {access : MetricsAccess} {pods : List Pod} {tenant : String}
    {start finish : DateTime} {division : Division} {signal : Signal} {w : WebRequest}
    (h : usageQuery access pods tenant start finish division signal = .ok w) :
    w.AsksUsage tenant pods start finish division signal := by
  obtain ⟨first, hfirst, h⟩ := Outcome.bind_eq_ok_iff.mp h
  obtain ⟨last, hlast, h⟩ := Outcome.bind_eq_ok_iff.mp h
  obtain ⟨plain, -, h⟩ := Outcome.bind_eq_ok_iff.mp h
  simp only at h
  split at h
  case isTrue =>
    cases h
    exact ⟨rfl, first, last, hfirst, hlast, Url.Target.params_withParams _ _⟩
  case isFalse => cases h

variable [Cluster σ]

omit [Cluster σ] in
/-- What is made of an answer needs no cluster. -/
theorem eval_bucketsOf (access : MetricsAccess) (reply : WebReply) (r : Run σ) :
    (match reply with
      | .broken detail =>
        throw (.transport "could not read metrics" (some detail) (usageUrl access) none)
      | .answer status content =>
        if status < 200 ∨ 300 ≤ status then
          throw (.transport "could not read metrics" none (usageUrl access) (some status))
        else if status = 204 then return []
        else
          match content with
          | .text "" => return []
          | .text s => outcome (Bucket.ofJson s)
          | .document d => outcome (Bucket.ofJson d.json) : Client σ (List Bucket)).eval r =
      (bucketsOf access reply, r) := by
  cases reply with
  | broken detail => rfl
  | answer status content =>
      simp only [bucketsOf]
      split
      · rfl
      split
      · rfl
      split
      · rfl
      · exact eval_outcome _ r
      · exact eval_outcome _ r

/-- The buckets of pods are asked for by one query, if it can be made. -/
theorem eval_readBuckets {pods : List Pod} (hpods : pods ≠ []) (access : MetricsAccess)
    (tenant : String) (signal : Signal) (start finish : DateTime) (division : Division) (r : Run σ) :
    (readBuckets access pods tenant signal start finish division).eval r =
      sending r (fun _ => bucketsOf access)
        (usageQuery access pods tenant start finish division signal) := by
  have hasked : pods.isEmpty = false := by simpa using hpods
  unfold readBuckets usageQuery usageUrl usageParams
  simp only [hasked, Bool.false_eq_true, if_false, eval_bind, eval_outcome]
  cases millisOf start with
  | error e => rfl
  | ok first =>
    cases millisOf finish with
    | error e => rfl
    | ok last =>
      simp only [Except.bind]
      cases Url.Target.ofText (access.base ++ "/hawkular/metrics/gauges/stats") with
      | error e => rfl
      | ok plain =>
        simp only
        generalize WebRequest.mk (plain.withParams _) access.token (.metrics tenant signal) = w
        cases w.isWritable && Url.Target.paramsFit _ with
        | false => rfl
        | true => exact eval_bucketsOf access _ _

/-! ## inquiries -/

/-- A way to ask for the usage of pods: over which window, what the buckets of a signal come to, and
the view that the signals make up.  A signal without buckets comes to nothing. -/
structure Inquiry (β γ : Type) where
  start : DateTime
  finish : DateTime
  division : Division
  value : Signal → List Bucket → Outcome β
  nothing : β
  value_nil (signal : Signal) : value signal [] = .ok nothing
  make : (Signal → β) → γ

/-- The usage over a minute: of each signal the average. -/
def minuteInquiry (start finish : DateTime) : Inquiry (Option Sample) UsageView where
  start
  finish
  division := .whole
  value signal
    | [] => .ok none
    | bucket :: _ => (Sample.ofBucket signal.scale bucket).map some
  nothing := none
  value_nil _ := rfl
  make of := ⟨of .cpu, of .memory, of .sent, of .received⟩

/-- The usage of the minutes of a window: of each signal the averages. -/
def seriesInquiry (start finish : DateTime) (limit : Int) :
    Inquiry (List Sample) UsageSeriesView where
  start
  finish
  division := .minutes
  value signal buckets := (trim buckets finish limit).bind fun kept =>
    kept.mapM (Sample.ofBucket signal.scale)
  nothing := []
  value_nil _ := rfl
  make of :=
    let (first, last) := endpoints [of .cpu, of .memory]
    ⟨of .cpu, of .memory, of .sent, of .received, first, last⟩

omit [Cluster σ] in
/-- Does the same for every signal. -/
def forSignals (m : Signal → Client σ β) : Client σ (Signal → β) := do
  let cores ← m .cpu
  let memory ← m .memory
  let sent ← m .sent
  let received ← m .received
  return fun
    | .cpu => cores
    | .memory => memory
    | .sent => sent
    | .received => received

namespace Inquiry

/-- Asks about a signal. -/
def ask (q : Inquiry β γ) (access : MetricsAccess) (ns : String) (found : List Pod)
    (signal : Signal) : Client σ β := do
  outcome (q.value signal
    (← readBuckets access found ns signal q.start q.finish q.division))

/-- Asks about all signals of pods. -/
def perform (q : Inquiry β γ) (ns : String) (found : List Pod) : Client σ γ := do
  let access ← metricsAccess ns
  return q.make (← forSignals (q.ask access ns found))

/-- The query of a signal. -/
def query (q : Inquiry β γ) (access : MetricsAccess) (ns : String) (found : List Pod)
    (signal : Signal) : Outcome WebRequest :=
  usageQuery access found ns q.start q.finish q.division signal

/-- What is made of the answer to it. -/
def answer (q : Inquiry β γ) (access : MetricsAccess) (signal : Signal) (reply : WebReply) :
    Outcome β :=
  (bucketsOf access reply).bind (q.value signal)

end Inquiry

/-- The average over a minute is asked for by an inquiry. -/
theorem readSample_eq {start finish : DateTime} (hfinish : minuteAfter start = .ok finish)
    (access : MetricsAccess) (found : List Pod) (ns : String) (signal : Signal) :
    (readSample access found ns signal start : Client σ (Option Sample)) =
      (minuteInquiry start finish).ask access ns found signal := by
  unfold readSample Inquiry.ask
  rw [hfinish]
  refine (pure_bind _ _).trans (bind_congr fun buckets => ?_)
  cases buckets with
  | nil => rfl
  | cons bucket _ =>
      simp only [minuteInquiry]
      cases Sample.ofBucket signal.scale bucket <;> rfl

/-- Showing the usage is an inquiry about a minute. -/
theorem showUsage_eq {start finish : DateTime} (hfinish : minuteAfter start = .ok finish)
    (ns : String) (found : List Pod) :
    (showUsage start ns found : Client σ UsageView) =
      (minuteInquiry start finish).perform ns found := by
  unfold showUsage Inquiry.perform forSignals
  simp only [readSample_eq hfinish, bind_assoc, pure_bind]
  rfl

omit [Cluster σ] in
/-- What needs no cluster for each of several values needs none for all of them. -/
theorem mapM_outcome {α : Type} (f : α → Outcome β) (items : List α) :
    (items.mapM fun a => (outcome (f a) : Client σ β)) = outcome (items.mapM f) := by
  induction items with
  | nil => rfl
  | cons a items ih =>
      rw [List.mapM_cons, List.mapM_cons, ih]
      cases f a with
      | error e => rfl
      | ok b => cases items.mapM f <;> rfl

/-- Showing it as series is one about the whole time. -/
theorem showUsageSeries_eq (start finish : DateTime) (limit : Int) (ns : String)
    (found : List Pod) :
    (showUsageSeries start finish limit ns found : Client σ UsageSeriesView) =
      (seriesInquiry start finish limit).perform ns found := by
  have hask (access : MetricsAccess) (signal : Signal) :
      (readSeries access found ns signal start finish limit : Client σ (List Sample)) =
        (seriesInquiry start finish limit).ask access ns found signal := by
    unfold readSeries Inquiry.ask
    refine bind_congr fun buckets => ?_
    simp only [mapM_outcome, seriesInquiry]
    cases trim buckets finish limit <;> rfl
  unfold showUsageSeries Inquiry.perform forSignals
  simp only [hask, bind_assoc, pure_bind]
  rfl

/-! ## one signal after the other -/

/-- Signals are asked about one after the other, each by its query.  The first one that cannot be
asked about, or whose answer comes to a failure, is the last one. -/
inductive Queried (query : Signal → Outcome WebRequest) (answer : Signal → WebReply → Outcome β) :
    List Signal → Run σ → Outcome (List β) → Run σ → Prop where
  | done (r : Run σ) : Queried query answer [] r (.ok []) r
  | unmade {signal : Signal} {e : Failure} (later : List Signal) (r : Run σ) :
    query signal = .error e → Queried query answer (signal :: later) r (.error e) r
  | failed {signal : Signal} {w : WebRequest} {e : Failure} (later : List Signal) {r : Run σ} :
    query signal = .ok w → answer signal (Cluster.web w r.cluster).1 = .error e →
    Queried query answer (signal :: later) r (.error e) (r.afterWeb w)
  | next {signal : Signal} {w : WebRequest} {b : β} {later : List Signal} {r r' : Run σ}
      {rest : Outcome (List β)} :
    query signal = .ok w → answer signal (Cluster.web w r.cluster).1 = .ok b →
    Queried query answer later (r.afterWeb w) rest r' →
    Queried query answer (signal :: later) r (rest.map (b :: ·)) r'

/-- Signals are queried one after the other, until a query or its answer fails. -/
theorem queried_mapM {m : Signal → Client σ β} {query : Signal → Outcome WebRequest}
    {answer : Signal → WebReply → Outcome β}
    (hm : ∀ signal r, (m signal).eval r = sending r (fun _ => answer signal) (query signal))
    (signals : List Signal) (r : Run σ) :
    Queried query answer signals r ((signals.mapM m).eval r).1 ((signals.mapM m).eval r).2 := by
  induction signals generalizing r with
  | nil => exact .done r
  | cons signal later ih =>
      have heval := hm signal r
      rw [List.mapM_cons]
      cases hquery : query signal with
      | error e =>
          rw [hquery] at heval
          rw [eval_bind_of_error heval]
          exact .unmade later r hquery
      | ok w =>
          rw [hquery, sending] at heval
          cases hanswer : answer signal (Cluster.web w r.cluster).1 with
          | error e =>
              rw [hanswer] at heval
              rw [eval_bind_of_error heval]
              exact .failed later hquery hanswer
          | ok b =>
              rw [hanswer] at heval
              have hrest := ih (r.afterWeb w)
              rw [eval_bind_of_ok heval, eval_bind]
              rcases hlater : (later.mapM m).eval (r.afterWeb w) with ⟨rest, r'⟩
              rw [hlater] at hrest
              have hnext := Queried.next hquery hanswer hrest
              cases rest <;> exact hnext

/-- What is sent are the queries of the first ones of the signals, and of all of them if there is a
result. -/
theorem Queried.sent {query : Signal → Outcome WebRequest}
    {answer : Signal → WebReply → Outcome β} {signals : List Signal} {r r' : Run σ}
    {result : Outcome (List β)} (h : Queried query answer signals r result r') :
    ∃ k ws, (signals.take k).mapM query = .ok ws ∧ r'.sent = r.sent ++ ws.map .web ∧
      ∀ values, result = .ok values → signals.take k = signals := by
  induction h with
  | done r => exact ⟨0, [], rfl, by simp, fun _ _ => rfl⟩
  | unmade later r hquery => exact ⟨0, [], rfl, by simp, fun _ h => nomatch h⟩
  | @failed signal w e later r hquery _ =>
      refine ⟨1, [w], ?_, rfl, fun _ h => nomatch h⟩
      rw [List.take_succ_cons, List.mapM_cons, hquery]
      rfl
  | @next signal w b later r r' rest hquery _ _ ih =>
      obtain ⟨k, ws, hws, hsent, hall⟩ := ih
      refine ⟨k + 1, w :: ws, ?_, ?_, fun values h => ?_⟩
      · rw [List.take_succ_cons, List.mapM_cons, hquery, hws]
        rfl
      · rw [hsent, Run.afterWeb, List.append_assoc]
        rfl
      · cases rest with
        | error e => cases h
        | ok values => rw [List.take_succ_cons, hall values rfl]

namespace Inquiry

/-- An inquiry about a signal sends one query and reads its answer. -/
theorem eval_ask (q : Inquiry β γ) (access : MetricsAccess) (ns : String) {found : List Pod}
    (hfound : found ≠ []) (signal : Signal) (r : Run σ) :
    (q.ask access ns found signal).eval r =
      sending r (fun _ => q.answer access signal) (q.query access ns found signal) := by
  unfold ask query
  rw [eval_bind, eval_readBuckets hfound]
  cases usageQuery access found ns q.start q.finish q.division signal with
  | error e => rfl
  | ok w =>
      simp only [sending, answer]
      cases bucketsOf access (Cluster.web w r.cluster).1 with
      | error e => rfl
      | ok buckets => exact eval_outcome _ _

/-- Without pods, nothing is asked. -/
theorem ask_nil (q : Inquiry β γ) (access : MetricsAccess) (ns : String) (signal : Signal) :
    (q.ask access ns [] signal : Client σ β) = pure q.nothing := by
  unfold ask
  refine (pure_bind _ _).trans ?_
  rw [q.value_nil]
  rfl

end Inquiry

omit [Cluster σ] in
/-- To do the same for every signal is to do it for each one of them in their order. -/
theorem mapM_all (m : Signal → Client σ β) :
    Signal.all.mapM m = forSignals m >>= fun of => pure (Signal.all.map of) := by
  unfold forSignals
  simp only [Signal.all, List.mapM_cons, List.mapM_nil, bind_assoc, pure_bind, List.map_cons,
    List.map_nil]

/-- The results of asking about all signals, in their order. -/
theorem queried_forSignals (q : Inquiry β γ) (access : MetricsAccess) (ns : String)
    {found : List Pod} (hfound : found ≠ []) (r : Run σ) :
    Queried (q.query access ns found) (q.answer access) Signal.all r
      (((forSignals (q.ask access ns found)).eval r).1.map Signal.all.map)
      ((forSignals (q.ask access ns found)).eval r).2 := by
  have hall := queried_mapM (q.eval_ask access ns hfound) Signal.all r
  rw [mapM_all, eval_bind] at hall
  rcases heval : (forSignals (q.ask access ns found)).eval r with ⟨of, r'⟩
  rw [heval] at hall
  cases of <;> exact hall

/-! ## the usage of what is shown -/

/-- An operation on usage asks about the pods of a deployment.  Where there are none, nothing is asked
and the view is blank.  Otherwise the signals are asked about in their order, by queries of these pods
in their namespace, up to the first failure, and the view is made of what the answers come to. -/
structure AsksAbout (q : Inquiry β γ) (blank : γ) (ns : String) (found : List Pod)
    (result : Outcome (Option γ)) (r r' : Run σ) : Prop where
  without : found = [] → result = .ok (some blank) ∧ r'.sent = r.sent
  asked : found ≠ [] → ∃ (access : MetricsAccess) (r₁ : Run σ) (of : Outcome (Signal → β)),
    (metricsAccess ns).eval r = (.ok access, r₁) ∧ r₁.sent = r.sent ∧
    Queried (q.query access ns found) (q.answer access) Signal.all r₁
      (of.map Signal.all.map) r' ∧ result = of.map fun of => some (q.make of)
  sent : found ≠ [] → ∃ (k : Nat) (ws : List WebRequest), r'.sent = r.sent ++ ws.map .web ∧
    List.Forall₂ (fun signal w => w.AsksUsage ns found q.start q.finish q.division signal)
      (Signal.all.take k) ws ∧
    ∀ view, result = .ok view → Signal.all.take k = Signal.all

/-- An operation on usage goes along with showing the deployment up to its pods, and asks about these
afterwards. -/
structure UsageOfShown (space app environment ns : String) (q : Inquiry β γ) (blank : γ)
    (m : Client σ (Option γ)) (r : Run σ) : Prop where
  /-- A failure on the common way is the failure of both. -/
  failed {e : Failure} {r₁ : Run σ} : (currentDeployment space app ns).eval r = (.error e, r₁) →
    (getDeployment space app environment).eval r = (.error e, r₁) ∧ m.eval r = (.error e, r₁)
  nothing {r₁ : Run σ} :
    m.eval r = (.ok none, r₁) ↔ (getDeployment space app environment).eval r = (.ok none, r₁)
  shown {d : Deployment} {rc : ReplicationController} {found : List Pod} {r₁ : Run σ} :
    (currentDeployment space app ns).eval r = (.ok (some (d, rc, found)), r₁) →
      ∃ x : Sources, x.FoundBy space app environment r r₁ ∧ x.BelongTo space ∧ x.Selected ∧
        x.namespace_ = ns ∧ Asked (currentQuestions r.session space app ns x.name) r r₁ ∧
        (∃ later, ((getDeployment space app environment).eval r).2.sent = r₁.sent ++ later) ∧
        AsksAbout q blank ns x.pods (m.eval r).1 r₁ (m.eval r).2

omit [Cluster σ] in
/-- Where the provider has a URL for it, there is access to the metrics of a namespace, and nothing is
sent to get it. -/
theorem eval_metricsAccess_of_url {ns : String} {r : Run σ}
    (hurl : ∃ url, r.session.config.provider.metricsUrl ns = .ok url) :
    ∃ access r₁, (metricsAccess ns).eval r = (.ok access, r₁) ∧ r₁.sent = r.sent := by
  obtain ⟨url, hurl⟩ := hurl
  unfold metricsAccess
  rw [eval_bind, eval_session]
  simp only
  cases r.session.metrics.lookup ns with
  | some access => exact ⟨access, r, rfl, rfl⟩
  | none =>
      rw [hurl]
      exact ⟨_, _, rfl, rfl⟩

/-- Each of several queries is the one of its signal. -/
theorem forall₂_asksUsage {q : Inquiry β γ} {access : MetricsAccess} {ns : String}
    {found : List Pod} {signals : List Signal} {ws : List WebRequest}
    (h : signals.mapM (q.query access ns found) = .ok ws) :
    List.Forall₂ (fun signal w => w.AsksUsage ns found q.start q.finish q.division signal)
      signals ws :=
  (Outcome.mapM_eq_ok_iff_forall₂.mp h).imp fun _ _ => asksUsage_of_usageQuery

/-- An inquiry about pods asks about all four signals in turn. -/
theorem asksAbout_perform (q : Inquiry β γ) {ns : String} (found : List Pod) {r : Run σ}
    (hurl : ∃ url, r.session.config.provider.metricsUrl ns = .ok url) :
    AsksAbout q (q.make fun _ => q.nothing) ns found
      (((q.perform ns found).eval r).1.map some) r ((q.perform ns found).eval r).2 := by
  obtain ⟨access, r₁, haccess, hsent⟩ := eval_metricsAccess_of_url hurl
  have heval : (q.perform ns found).eval r =
      (forSignals (q.ask access ns found) >>= fun of => pure (q.make of)).eval r₁ :=
    eval_bind_of_ok haccess
  rw [heval, eval_bind]
  by_cases hfound : found = []
  · subst hfound
    have hnothing : (forSignals (q.ask access ns []) : Client σ (Signal → β)) =
        pure fun _ => q.nothing := by
      unfold forSignals
      simp only [q.ask_nil, pure_bind]
      congr 1
      funext signal
      cases signal <;> rfl
    rw [hnothing]
    exact ⟨fun _ => ⟨rfl, hsent⟩, fun h => absurd rfl h, fun h => absurd rfl h⟩
  · have hqueried := queried_forSignals q access ns hfound r₁
    obtain ⟨k, ws, hws, hasked, hall⟩ := hqueried.sent
    rcases hof : (forSignals (q.ask access ns found)).eval r₁ with ⟨of, r'⟩
    rw [hof] at hqueried hasked hall
    refine ⟨fun h => absurd h hfound, fun _ => ⟨access, r₁, of, haccess, hsent, ?_⟩, fun _ =>
      ⟨k, ws, ?_, forall₂_asksUsage hws, fun view hview => ?_⟩⟩
    · cases of <;> exact ⟨hqueried, rfl⟩
    · rw [← hsent]
      cases of <;> exact hasked
    · cases of with
      | error e => cases hview
      | ok of => exact hall _ rfl

/-- Going on with a current deployment that has been found. -/
theorem eval_throughCurrent_of_some {α : Type} {space app environment ns : String} {r r₁ : Run σ}
    {d : Deployment} {rc : ReplicationController} {found : List Pod}
    (hns : r.session.environments.lookup environment = some ns)
    (hcurrent : (currentDeployment space app ns).eval r = (.ok (some (d, rc, found)), r₁))
    (k : String → Deployment → ReplicationController → List Pod → Client σ α) :
    (throughCurrent space app environment k).eval r =
      (((k ns d rc found).eval r₁).1.map some, ((k ns d rc found).eval r₁).2) := by
  have hknown := eval_environmentNamespace_eq_ok_iff.mpr ⟨hns, rfl⟩
  unfold throughCurrent
  rw [eval_bind_of_ok hknown, eval_bind_of_ok hcurrent]
  simp only
  rw [eval_bind]
  rcases (k ns d rc found).eval r₁ with ⟨view, r₂⟩
  cases view <;> rfl

/-- What goes on with the current deployment by an inquiry goes along with showing it. -/
theorem usageOfShown_throughCurrent {space app environment ns : String} {r : Run σ}
    (hns : r.session.environments.lookup environment = some ns)
    (hurl : ∃ url, r.session.config.provider.metricsUrl ns = .ok url) (q : Inquiry β γ) :
    UsageOfShown space app environment ns q (q.make fun _ => q.nothing)
      (throughCurrent space app environment fun ns _ _ found => q.perform ns found) r := by
  have hknown := eval_environmentNamespace_eq_ok_iff.mpr ⟨hns, rfl⟩
  constructor
  case failed =>
    intro e r₁ hcurrent
    rw [getDeployment_eq]
    exact ⟨(eval_bind_of_ok hknown).trans (eval_bind_of_error hcurrent),
      (eval_bind_of_ok hknown).trans (eval_bind_of_error hcurrent)⟩
  case nothing =>
    intro r₁
    rw [getDeployment_eq, eval_throughCurrent_eq_none_iff hns, eval_throughCurrent_eq_none_iff hns]
  case shown =>
    intro d rc found r₁ hcurrent
    obtain ⟨x, hfound, hbelong, hselected, rfl, rfl, rfl, rfl⟩ := exists_sources hns hcurrent
    have hname : NamesConfig x.namespace_ app space r x.name := by
      intro name r' h
      obtain ⟨r₂, -, -, hname, -⟩ := hfound.asked
      cases h.symm.trans hname
      rfl
    have hasked := asked_of_currentDeployment hname hcurrent
    rw [← hasked.session] at hurl
    refine ⟨x, hfound, hbelong, hselected, rfl, hasked, ?_, ?_⟩
    · obtain ⟨k, -, later, -, hlater⟩ := asksUpTo_showDeployment environment x.namespace_ x.deployment
        x.controller x.pods r₁
      rw [getDeployment_eq, eval_throughCurrent_of_some hns hcurrent]
      exact ⟨later, hlater⟩
    · rw [eval_throughCurrent_of_some hns hcurrent]
      exact asksAbout_perform q x.pods hurl

/-- The usage of a deployment, over a minute or over a window, is that of the pods that are shown. -/
theorem usage_of_shown {space app environment ns : String} {r : Run σ}
    (hns : r.session.environments.lookup environment = some ns)
    (hurl : ∃ url, r.session.config.provider.metricsUrl ns = .ok url) :
    (∀ start finish, minuteAfter start = .ok finish →
      UsageOfShown space app environment ns (minuteInquiry start finish) ⟨none, none, none, none⟩
        (getUsage space app environment start) r) ∧
    ∀ start finish limit,
      UsageOfShown space app environment ns (seriesInquiry start finish limit)
        ⟨[], [], [], [], none, none⟩ (getUsageSeries space app environment start finish limit) r := by
  refine ⟨fun start finish hfinish => ?_, fun start finish limit => ?_⟩
  · simp only [getUsage_eq, showUsage_eq hfinish]
    exact usageOfShown_throughCurrent hns hurl (minuteInquiry start finish)
  · simp only [getUsageSeries_eq, showUsageSeries_eq]
    exact usageOfShown_throughCurrent hns hurl (seriesInquiry start finish limit)

/-- A client of a cluster whose metrics service knows the use of processors. -/
def measured : Run Recorded where
  session := rolledOut.session
  cluster := { rolledOut.cluster with
    http := ("METRICS my-run cpu/usage_rate", .answer 200 (.text
      "[\x7b\"start\": 60000, \"end\": 120000, \"avg\": 500, \"empty\": false\x7d]")) ::
        rolledOut.cluster.http }

/-- A minute of the year 1970. -/
def sampleMinute : DateTime := ⟨62135596860000000, some 0⟩

/-- The signal of a query of usage, and the tags that it selects by. -/
def queriedTags? : Request → Option (Signal × Option String)
  | .web ⟨target, _, .metrics _ signal⟩ => some (signal, target.params.lookup "tags")
  | _ => none

/-- Half a core is used, and the other signals are not measured.  The pod that has failed is asked
about, too; both pods have no UID. -/
theorem measured_usage :
    measured.session.environments.lookup "run" = some "my-run" ∧
      measured.session.config.provider.metricsUrl "my-run" = .ok "https://metrics.a.b" ∧
      minuteAfter sampleMinute = .ok ⟨62135596920000000, some 0⟩ ∧
      UsageOfShown "space" "app" "run" "my-run"
        (minuteInquiry sampleMinute ⟨62135596920000000, some 0⟩) ⟨none, none, none, none⟩
        (getUsage "space" "app" "run" sampleMinute) measured ∧
      ((getUsage "space" "app" "run" sampleMinute).eval measured).1.toOption.map (·.map fun u =>
        (u.cores.map (·.value), u.memory)) = some (some (some (.ofQuotient false 1 2), none)) ∧
      ((getUsage "space" "app" "run" sampleMinute).eval measured).2.sent.filterMap queriedTags? =
        [(.cpu, some "descriptor_name:cpu/usage_rate,type:pod,pod_id:|"),
          (.memory, some "descriptor_name:memory/usage,type:pod,pod_id:|"),
          (.sent, some "descriptor_name:network/tx_rate,type:pod,pod_id:|"),
          (.received, some "descriptor_name:network/rx_rate,type:pod,pod_id:|")] := by
  have hurl : measured.session.config.provider.metricsUrl "my-run" = .ok "https://metrics.a.b" :=
    Outcome.eq_ok_of_toOption (by decide +kernel)
  have hminute : minuteAfter sampleMinute = .ok ⟨62135596920000000, some 0⟩ :=
    Outcome.eq_ok_of_toOption (by decide +kernel)
  refine ⟨rfl, hurl, hminute, (usage_of_shown rfl ⟨_, hurl⟩).1 _ _ hminute, ?_⟩
  decide +kernel

end Rollout
