import Rollout.Cluster.Recorded
import Rollout.Proofs.Consultation

/-!
# Rollout.Proofs.Remembered

What a client remembers of what its user may do, over runs of any length.

* `Leads` — from one state of a client to another, by questions and by whatever else leaves alone
  what the client remembers;
* `leads_history` — a run leads from its start to its end by the questions of its history;
* `Leads.remembered`, `Leads.not_remembered` — a namespace that is known stays known, and becomes
  known by a question that has an answer only;
* `AsksOnce` — a namespace is asked about until there is a review of it, and never again.
-/

namespace Rollout

open Client

variable {σ : Type} [Cluster σ]

/-! ## requests for rules -/

/-- A request that posts a document, which only the lookup of rules does. -/
def Request.isPost : Request → Bool
  | .web ⟨_, _, .post _⟩ => true
  | _ => false

/-- The requests of a run that post a document. -/
def Run.posts (r : Run σ) : List Request := r.sent.filter Request.isPost

omit [Cluster σ] in
theorem Request.isPost_web (w : WebRequest) :
    (Request.web w).isPost = true ↔ ∃ body, w.call = .post body := by
  obtain ⟨target, token, call⟩ := w
  cases call <;> simp [isPost]

theorem Run.posts_afterCore (r : Run σ) (q : CoreQuery) : (r.afterCore q).posts = r.posts := by
  simp [posts, afterCore, Request.isPost]

/-- Posting is one more request that posts. -/
theorem Run.posts_afterWeb_of_post {r : Run σ} {w : WebRequest} {body : Document}
    (h : w.call = .post body) : (r.afterWeb w).posts = r.posts ++ [.web w] := by
  have hpost : (Request.web w).isPost = true := (Request.isPost_web w).mpr ⟨body, h⟩
  simp [posts, afterWeb, hpost]

theorem Run.posts_afterWeb_of_other {r : Run σ} {w : WebRequest}
    (h : ∀ body, w.call ≠ .post body) : (r.afterWeb w).posts = r.posts := by
  have hpost : ¬ (Request.web w).isPost = true := by
    rw [Request.isPost_web]
    rintro ⟨body, hbody⟩
    exact h body hbody
  simp [posts, afterWeb, hpost]

/-- What a consultation sends is what has been sent since it began. -/
theorem Consultation.sends_of_eq {q : Consultation σ} {more : List Request}
    (h : q.after.sent = q.before.sent ++ more) : q.sends = more := by
  rw [sends, h, List.drop_left]

/-- A consultation that changes nothing sends nothing. -/
theorem Consultation.sends_of_idle {q : Consultation σ} (h : q.after = q.before) : q.sends = [] :=
  sends_of_eq (by rw [h, List.append_nil])

/-- All that a question sends is posted. -/
theorem Consultation.posts_after (q : Consultation σ) :
    q.after.posts = q.before.posts ++ q.sends := by
  have hcall {w : WebRequest} (hw : q.request = .ok w) : w.call = .post reviewRequest :=
    call_of_prepared hw
  obtain h | ⟨w, hw, h⟩ | ⟨w, review, hw, -, -, h⟩ := q.after_eq
  · rw [sends_of_idle h, h, List.append_nil]
  · have hsends : q.sends = [.web w] := sends_of_eq (by rw [h]; rfl)
    rw [hsends, h, Run.posts_afterWeb_of_post (hcall hw)]
  · have hsends : q.sends = [.web w] := sends_of_eq (by rw [h]; rfl)
    rw [hsends, h]
    exact Run.posts_afterWeb_of_post (hcall hw)

/-! ## what leaves alone what is remembered -/

/-- Nothing is learnt, and no rules are asked for. -/
def Quiet (r r' : Run σ) : Prop :=
  r'.session.grants = r.session.grants ∧ r'.posts = r.posts

/-- Reading operations do not post. -/
theorem reading_quiet : Reading (σ := σ) Quiet where
  here _ := ⟨rfl, rfl⟩
  onward h h' := ⟨h'.1.trans h.1, h'.2.trans h.2⟩
  core r q := ⟨rfl, r.posts_afterCore q⟩
  web r w h := by
    refine ⟨rfl, Run.posts_afterWeb_of_other fun body hbody => ?_⟩
    rw [hbody] at h
    contradiction
  metrics _ _ := ⟨rfl, rfl⟩

/-- Operations that do not ask for rules learn nothing. -/
theorem quiet_perform {o : Operation} (ho : o.asksForRules = false) (r : Run σ) :
    Quiet r (o.perform.eval r).2 := by
  refine along_perform reading_quiet (fun r w body hbody => ?_) (fun r => ⟨rfl, rfl⟩) ho r
  refine ⟨rfl, Run.posts_afterWeb_of_other fun other hother => ?_⟩
  rw [hbody] at hother
  contradiction

/-! ## from one state to another -/

/-- From one state to another, by the questions of a list and by what leaves alone what is
remembered. -/
inductive Leads : Run σ → List (Consultation σ) → Run σ → Prop where
  | here (r : Run σ) : Leads r [] r
  | quietly {r r₁ r₂ : Run σ} {log : List (Consultation σ)} :
    Quiet r r₁ → Leads r₁ log r₂ → Leads r log r₂
  | asking (q : Consultation σ) {r' : Run σ} {log : List (Consultation σ)} :
    Leads q.after log r' → Leads q.before (q :: log) r'

namespace Leads

variable {r r₁ r₂ : Run σ} {log log' earlier later : List (Consultation σ)} {ns : String}

/-- Two ways in a row have their logs one after the other. -/
theorem append (h : Leads r log r₁) (h' : Leads r₁ log' r₂) : Leads r (log ++ log') r₂ := by
  induction h with
  | here => exact h'
  | quietly hquiet _ ih => exact quietly hquiet (ih h')
  | asking q _ ih => exact asking q (ih h')

/-- What comes before a question leads to it, and what comes after it leads on. -/
theorem split {q : Consultation σ} (h : Leads r (earlier ++ q :: later) r₁) :
    Leads r earlier q.before ∧ Leads q.after later r₁ := by
  generalize hlog : earlier ++ q :: later = log at h
  induction h generalizing earlier with
  | here => simp at hlog
  | quietly hquiet _ ih =>
      obtain ⟨hto, hfrom⟩ := ih hlog
      exact ⟨quietly hquiet hto, hfrom⟩
  | asking p hrest ih =>
      cases earlier with
      | nil =>
          obtain ⟨rfl, rfl⟩ := List.cons.inj hlog
          exact ⟨here _, hrest⟩
      | cons p' earlier =>
          obtain ⟨rfl, htail⟩ := List.cons.inj hlog
          obtain ⟨hto, hfrom⟩ := ih htail
          exact ⟨asking p' hto, hfrom⟩

/-- The rules that are asked for on the way are those of the questions. -/
theorem posts (h : Leads r log r₁) : r₁.posts = r.posts ++ log.flatMap Consultation.sends := by
  induction h with
  | here => simp
  | quietly hquiet _ ih => rw [ih, hquiet.2]
  | asking q _ ih => rw [ih, q.posts_after, List.flatMap_cons, List.append_assoc]

/-- What is remembered about a namespace stays. -/
theorem remembered {grants : Grants} (h : Leads r log r₁)
    (hlookup : r.session.grants.lookup ns = some grants) :
    r₁.session.grants.lookup ns = some grants := by
  induction h with
  | here => exact hlookup
  | quietly hquiet _ ih => exact ih (by rw [hquiet.1, hlookup])
  | asking q _ ih =>
      refine ih ?_
      obtain h | ⟨w, -, h⟩ | ⟨w, review, -, -, -, h⟩ := q.after_eq
      · rw [h, hlookup]
      · rw [h, Run.session_afterWeb, hlookup]
      · rw [h, Run.lookup_learn, Run.session_afterWeb, hlookup]
        rfl

/-- A namespace about which nothing is remembered stays so while all questions about it fail. -/
theorem not_remembered (h : Leads r log r₁)
    (hfail : ∀ q ∈ log, q.namespace_ = ns → q.Fails)
    (hlookup : r.session.grants.lookup ns = none) :
    r₁.session.grants.lookup ns = none := by
  induction h with
  | here => exact hlookup
  | quietly hquiet _ ih => exact ih hfail (by rw [hquiet.1, hlookup])
  | asking q _ ih =>
      refine ih (fun p hp => hfail p (.tail _ hp)) ?_
      obtain h | ⟨w, -, h⟩ | ⟨w, review, -, hreview, hunknown, h⟩ := q.after_eq
      · rw [h, hlookup]
      · rw [h, Run.session_afterWeb, hlookup]
      · have hother : ns ≠ q.namespace_ := by
          rintro rfl
          obtain ⟨e, he⟩ := hfail q (.head _) rfl
          rw [(Consultation.of_review hunknown hreview).1] at he
          cases he
        rw [h, Run.lookup_learn, Run.session_afterWeb, hlookup, if_neg hother]
        rfl

end Leads

/-! ## runs -/

/-- Demands lead along the log of their consultations. -/
theorem leads_consult (demands : List (String × List Requirement)) (r : Run σ) :
    Leads r (consult demands r).1 (consult demands r).2.2 := by
  induction demands generalizing r with
  | nil => exact .here r
  | cons demand rest ih =>
      obtain ⟨environment, required⟩ := demand
      rw [consult]
      cases r.session.namespaceFor environment with
      | error e => exact .here r
      | ok ns =>
          simp only
          generalize hq : Consultation.mk ns required r = q
          obtain rfl : r = q.before := by rw [← hq]
          rcases q.answer with e | _ | _
          · exact .asking q (.here _)
          · exact .asking q (.here _)
          · exact .asking q (ih q.after)

/-- A step leads on by its questions. -/
theorem leads_step (r : Run σ) (step : Step σ) :
    Leads r (step.consultations r) (step.after r) := by
  cases step with
  | change world now =>
      have hquiet : Quiet r ((Step.change world now).after r) := ⟨rfl, rfl⟩
      exact .quietly hquiet (.here _)
  | call o =>
      by_cases ho : o.asksForRules = false
      · have hnone : (Step.call o : Step σ).consultations r = [] := by
          cases o <;> simp_all [Step.consultations, Operation.asksForRules]
        rw [hnone]
        exact .quietly (quiet_perform ho r) (.here _)
      · cases o <;> simp [Operation.asksForRules] at ho
        case check c =>
          have hask := leads_consult (c.demands r.session) r
          rw [← eval_ask] at hask
          simp only [Step.consultations, Step.after, Operation.perform]
          rw [eval_bind]
          rcases heval : c.ask.eval r with ⟨answer, r'⟩
          rw [heval] at hask
          cases answer <;> exact hask
        case grants ns =>
          have hask : Leads r [⟨ns, [], r⟩] (Consultation.mk ns [] r).after :=
            .asking ⟨ns, [], r⟩ (.here _)
          simp only [Step.consultations, Step.after, Operation.perform]
          rw [eval_bind]
          simp only [Consultation.after] at hask
          rcases heval : (grantsIn ns).eval r with ⟨answer, r'⟩
          rw [heval] at hask
          cases answer <;> exact hask

/-- A run leads from its start to its end by the questions of its history. -/
theorem leads_history (steps : List (Step σ)) (r : Run σ) :
    Leads r (history steps r) (after steps r) := by
  induction steps generalizing r with
  | nil => exact .here r
  | cons step rest ih => exact (leads_step r step).append (ih (step.after r))

/-- A client that has just been opened remembers nothing, and has asked for no rules. -/
theorem openOn_quiet {config : ClientConfig} {now : DateTime} {cluster : σ} {r : Run σ}
    (h : openOn config now cluster = .ok r) : r.session.grants = [] ∧ r.posts = [] := by
  have hquiet := along_readEnvironments (σ := σ) reading_quiet (fun _ _ => ⟨rfl, rfl⟩)
    { session := { config, now }, cluster }
  unfold openOn at h
  unfold Client.eval at hquiet
  rcases heval : readEnvironments.run.run ({ session := { config, now }, cluster } : Run σ)
    with ⟨found, r'⟩
  rw [heval] at h hquiet
  cases found with
  | error e => cases h
  | ok _ =>
      cases h
      exact hquiet

namespace Consultation

/-- A question that learns something remembers it. -/
theorem lookup_after {q : Consultation σ} {review : RulesReview} (hposts : q.Posts)
    (hreview : q.review = .ok review) :
    q.after.session.grants.lookup q.namespace_ = some (Grants.ofReview review) := by
  obtain ⟨w, -, hsends⟩ := hposts
  cases hlookup : q.before.session.grants.lookup q.namespace_ with
  | some grants =>
      rw [sends_of_idle (of_remembered hlookup).2] at hsends
      cases hsends
  | none =>
      obtain ⟨-, w, -, hafter⟩ := of_review hlookup hreview
      rw [hafter, Run.lookup_learn, Run.session_afterWeb, hlookup, if_pos rfl]
      rfl

/-- A question that fails leaves alone what the client remembers. -/
theorem session_after_of_fails {q : Consultation σ} (h : q.Fails) :
    q.after.session = q.before.session := by
  obtain ⟨e, he⟩ := h
  obtain h | ⟨w, -, h⟩ | ⟨w, review, -, hreview, hlookup, h⟩ := q.after_eq
  · rw [h]
  · rw [h, Run.session_afterWeb]
  · rw [(of_review hlookup hreview).1] at he
    cases he

/-- A question about a namespace of which nothing is known sends its request, if it can. -/
theorem sends_of_unknown {q : Consultation σ} {w : WebRequest}
    (h : q.before.session.grants.lookup q.namespace_ = none) (hw : q.request = .ok w) :
    q.sends = [.web w] := by
  refine sends_of_eq ?_
  cases hreview : q.review with
  | ok review =>
      obtain ⟨-, w', hw', hafter⟩ := of_review h hreview
      rw [hw] at hw'
      cases hw'
      rw [hafter]
      rfl
  | error e =>
      rw [(of_no_review h hreview).2, hw]
      rfl

/-- If it cannot, then it fails, and nothing happens. -/
theorem fails_of_unknown {q : Consultation σ} {e : Failure}
    (h : q.before.session.grants.lookup q.namespace_ = none) (he : q.request = .error e) :
    q.answer = .error e ∧ q.after = q.before := by
  have hreview : q.review = .error e := by
    rw [Consultation.review, eval_rulesReview, he]
    rfl
  obtain ⟨hanswer, hafter⟩ := of_no_review h hreview
  rw [he] at hafter
  exact ⟨hanswer, hafter⟩

end Consultation

/-- How a client asks what its user may do: a namespace is asked about until there is a review of
it, and never again. -/
structure AsksOnce (r : Run σ) (steps : List (Step σ)) : Prop where
  /-- A check is its questions: it answers, sends and remembers what they do. -/
  checks (c : Check) (r' : Run σ) : c.ask.eval r' = (consult (c.demands r'.session) r').2
  /-- The rules that are asked for are those of the questions. -/
  posts : (after steps r).posts = (history steps r).flatMap Consultation.sends
  /-- After a review, every question about the namespace is answered by it, and nothing is sent. -/
  remembered {earlier later : List (Consultation σ)} {q : Consultation σ} {review : RulesReview} :
    history steps r = earlier ++ q :: later → q.Posts → q.review = .ok review →
      ∀ p ∈ later, p.namespace_ = q.namespace_ →
        p.answer = .ok ((Grants.ofReview review).permits p.required) ∧ p.sends = [] ∧
          p.after = p.before
  /-- While all questions about a namespace have failed, nothing is remembered about it, and the next
  one sends the request for its rules.  Where no such request can be made it fails. -/
  asked {earlier later : List (Consultation σ)} {q : Consultation σ} :
    history steps r = earlier ++ q :: later →
      (∀ p ∈ earlier, p.namespace_ = q.namespace_ → p.Fails) →
        q.before.session.grants.lookup q.namespace_ = none ∧
          (∀ w, q.request = .ok w → q.sends = [.web w]) ∧
          ∀ e, q.request = .error e → q.answer = .error e ∧ q.after = q.before
  /-- A question that fails leaves alone what the client remembers. -/
  failed {q : Consultation σ} : q ∈ history steps r → q.Fails → q.after.session = q.before.session

/-- Over every run of a client, whatever the cluster becomes meanwhile. -/
theorem asksOnce_of_openOn {config : ClientConfig} {now : DateTime} {cluster : σ} {r : Run σ}
    (hopen : openOn config now cluster = .ok r) (steps : List (Step σ)) : AsksOnce r steps := by
  obtain ⟨hgrants, hposts⟩ := openOn_quiet hopen
  have hleads := leads_history steps r
  refine ⟨eval_ask, ?_, ?_, ?_, fun _ => Consultation.session_after_of_fails⟩
  case refine_1 => rw [hleads.posts, hposts, List.nil_append]
  case refine_2 =>
    intro earlier later q review hhistory hposts hreview p hp hnamespace
    rw [hhistory] at hleads
    obtain ⟨before, after, rfl⟩ := List.append_of_mem hp
    have hknown := hleads.split.2.split.1.remembered (Consultation.lookup_after hposts hreview)
    rw [← hnamespace] at hknown
    obtain ⟨hanswer, hafter⟩ := Consultation.of_remembered hknown
    exact ⟨hanswer, Consultation.sends_of_idle hafter, hafter⟩
  case refine_3 =>
    intro earlier later q hhistory hfail
    rw [hhistory] at hleads
    have hunknown := hleads.split.1.not_remembered hfail (by rw [hgrants]; rfl)
    exact ⟨hunknown, fun _ => Consultation.sends_of_unknown hunknown,
      fun _ => Consultation.fails_of_unknown hunknown⟩

/-! ## a client at work -/

/-- The configuration of a client on one cluster. -/
def sampleConfig : ClientConfig where
  provider := .cluster "https://api.example.com" "t" "https://api.example.com" "t"
  userNamespace := "my"

/-- A cluster with one environment, and its answer to the request for the rules there. -/
def clusterWithRules (rules : WebReply) : Recorded where
  kube := [("configmap my/fabric8-environments", .document (.object [
    ("metadata", .object [("labels", .object [("provider", .text "fabric8")])]),
    ("data", .object [("run", .text "namespace: my-run")])]))]
  http := [("POST /oapi/v1/namespaces/my-run/selfsubjectrulesreviews", rules)]

/-- A review that permits to list quotas. -/
def quotaRules : WebReply := .answer 200 (.document (.object [("status", .object [("rules", .list [
  .object [("apiGroups", .list [.text ""]), ("resources", .list [.text "resourcequotas"]),
    ("verbs", .list [.text "list"])]])])]))

/-- Whether the quota may be looked at. -/
def askForQuota : Step Recorded := .call (.check (.environment "run"))

/-- A question in short: its namespace, how many requests it sends, and its answer. -/
def Consultation.summary (q : Consultation σ) : String × Nat × Option Bool :=
  (q.namespace_, q.sends.length, q.answer.toOption)

theorem exists_openOn {α : Type} {config : ClientConfig} {now : DateTime} {cluster : σ}
    {f : Run σ → α} {a : α} (h : (openOn config now cluster).toOption.map f = some a) :
    ∃ r, openOn config now cluster = .ok r ∧ f r = a := by
  cases hopen : openOn config now cluster with
  | error e =>
      rw [hopen] at h
      cases h
  | ok r =>
      rw [hopen] at h
      exact ⟨r, rfl, Option.some.inj h⟩

/-- A cluster that forgets everything is not asked again. -/
theorem asksOnce_of_forgetting :
    let steps := [askForQuota, .change (fun _ => ⟨[], []⟩) ⟨1, none⟩, askForQuota]
    ∃ r, openOn sampleConfig ⟨0, none⟩ (clusterWithRules quotaRules) = .ok r ∧
      AsksOnce r steps ∧
      (history steps r).map Consultation.summary =
        [("my-run", 1, some true), ("my-run", 0, some true)] := by
  intro steps
  have hrun : (openOn sampleConfig ⟨0, none⟩ (clusterWithRules quotaRules)).toOption.map
      (fun r => (history steps r).map Consultation.summary) =
        some [("my-run", 1, some true), ("my-run", 0, some true)] := by decide +kernel
  obtain ⟨r, hopen, hsummary⟩ := exists_openOn hrun
  exact ⟨r, hopen, asksOnce_of_openOn hopen steps, hsummary⟩

/-- A client that has been closed asks nothing, even if all questions have failed until then. -/
theorem closed_asks_nothing :
    ¬ ∀ (config : ClientConfig) (now : DateTime) (cluster : Recorded) (r : Run Recorded)
      (steps : List (Step Recorded)) (earlier later : List (Consultation Recorded))
      (q : Consultation Recorded), openOn config now cluster = .ok r →
        history steps r = earlier ++ q :: later →
        (∀ p ∈ earlier, p.namespace_ = q.namespace_ → p.Fails) → q.Posts := by
  intro h
  have hrun : (openOn sampleConfig ⟨0, none⟩ (clusterWithRules (.answer 500 (.text "")))).toOption.map
      (fun r => (history [askForQuota, .call .close, askForQuota] r).map Consultation.summary) =
        some [("my-run", 1, none), ("my-run", 0, none)] := by decide +kernel
  obtain ⟨r, hopen, hsummary⟩ := exists_openOn hrun
  obtain ⟨q₁, rest, hhistory, hfirst, hrest⟩ := List.map_eq_cons_iff.mp hsummary
  obtain ⟨q₂, rest, rfl, hsecond, hnone⟩ := List.map_eq_cons_iff.mp hrest
  have hfails : q₁.Fails := by
    have hanswer : q₁.answer.toOption = none := congrArg (·.2.2) hfirst
    cases he : q₁.answer with
    | error e => exact ⟨e, he⟩
    | ok b =>
        rw [he] at hanswer
        cases hanswer
  obtain ⟨w, -, hsends⟩ := h _ _ _ r _ [q₁] rest q₂ hopen hhistory (by simp [hfails])
  have hlength : q₂.sends.length = 0 := congrArg (·.2.1) hsecond
  rw [hsends] at hlength
  cases hlength

end Rollout
