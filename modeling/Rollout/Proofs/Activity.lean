import Rollout.Cluster.Operations

/-!
# Rollout.Proofs.Activity

How activities of a client run, one step after the other.

* `Client.eval` — what an activity comes to from a state: its outcome and the state after it;
* `eval_bind` — one activity after another; a failure ends both;
* `prepared`, `sending`, `eval_send`, `eval_readCore` — the single requests: whether one can be
  sent, and what is made of its answer;
* `eval_getResource?`, `eval_putResource`, `eval_postResource` — the same for documents;
* `AsksOnly` — activities that come to one request.
-/

namespace Rollout

/-- A client after a question about core resources. -/
def Run.afterCore {σ : Type} [Cluster σ] (r : Run σ) (q : CoreQuery) : Run σ :=
  { r with
    cluster := (Cluster.core q r.cluster).2
    sent := r.sent ++ [Request.core q r.session.config.timeout] }

/-- A client after a request to a URL. -/
def Run.afterWeb {σ : Type} [Cluster σ] (r : Run σ) (w : WebRequest) : Run σ :=
  { r with
    cluster := (Cluster.web w r.cluster).2
    sent := r.sent ++ [Request.web w] }

/-- A client after a request that is sent if it can be. -/
def Run.afterTrying {σ : Type} [Cluster σ] (r : Run σ) : Outcome WebRequest → Run σ
  | .error _ => r
  | .ok w => r.afterWeb w

@[simp] theorem Run.afterTrying_error {σ : Type} [Cluster σ] (r : Run σ) (e : Failure) :
    r.afterTrying (.error e) = r := rfl

@[simp] theorem Run.afterTrying_ok {σ : Type} [Cluster σ] (r : Run σ) (w : WebRequest) :
    r.afterTrying (.ok w) = r.afterWeb w := rfl

@[simp] theorem Run.session_afterCore {σ : Type} [Cluster σ] (r : Run σ) (q : CoreQuery) :
    (r.afterCore q).session = r.session := rfl

@[simp] theorem Run.session_afterWeb {σ : Type} [Cluster σ] (r : Run σ) (w : WebRequest) :
    (r.afterWeb w).session = r.session := rfl

namespace Client

variable {σ α β : Type}

/-! ## running activities -/

/-- What an activity comes to: its outcome, and the state after it. -/
def eval (m : Client σ α) (r : Run σ) : Outcome α × Run σ := m.run.run r

@[simp] theorem eval_pure (a : α) (r : Run σ) : (pure a : Client σ α).eval r = (.ok a, r) := rfl

@[simp] theorem eval_throw (f : Failure) (r : Run σ) :
    (throw f : Client σ α).eval r = (.error f, r) := rfl

@[simp] theorem eval_session (r : Run σ) :
    (session : Client σ Session).eval r = (.ok r.session, r) := rfl

@[simp] theorem eval_config (r : Run σ) :
    (config : Client σ ClientConfig).eval r = (.ok r.session.config, r) := rfl

@[simp] theorem eval_remember (change : Session → Session) (r : Run σ) :
    (remember change : Client σ Unit).eval r = (.ok (), { r with session := change r.session }) :=
  rfl

@[simp] theorem eval_outcome (a : Outcome α) (r : Run σ) :
    (outcome a : Client σ α).eval r = (a, r) := by
  cases a <;> rfl

/-- What is made of an outcome that needs no cluster. -/
theorem eval_outcome_pure (a : Outcome α) (f : α → β) (r : Run σ) :
    (outcome a >>= fun x => pure (f x) : Client σ β).eval r = (a.map f, r) := by
  cases a <;> rfl

/-- An attempt does not fail; it comes to the outcome of what is attempted. -/
theorem eval_attempt (m : Client σ α) (r : Run σ) :
    (attempt m).eval r = (.ok (m.eval r).1, (m.eval r).2) := rfl

/-- The second of two activities starts where the first one ended, unless that one failed. -/
theorem eval_bind (m : Client σ α) (f : α → Client σ β) (r : Run σ) :
    (m >>= f).eval r = match m.eval r with
      | (.ok a, r') => (f a).eval r'
      | (.error e, r') => (.error e, r') := by
  unfold eval
  rw [ExceptT.run_bind, StateT.run_bind]
  rcases m.run.run r with ⟨a, s⟩
  cases a <;> rfl

/-- After a result, the second activity goes on with it. -/
theorem eval_bind_of_ok {m : Client σ α} {f : α → Client σ β} {r r' : Run σ} {a : α}
    (h : m.eval r = (.ok a, r')) : (m >>= f).eval r = (f a).eval r' := by
  rw [eval_bind, h]

/-- After a failure, the second activity is not begun. -/
theorem eval_bind_of_error {m : Client σ α} {f : α → Client σ β} {r r' : Run σ} {e : Failure}
    (h : m.eval r = (.error e, r')) : (m >>= f).eval r = (.error e, r') := by
  rw [eval_bind, h]

/-- If two activities give a result, then so does the first one. -/
theorem eval_bind_eq_ok_iff {m : Client σ α} {f : α → Client σ β} {r r' : Run σ} {b : β} :
    (m >>= f).eval r = (.ok b, r') ↔
      ∃ a r₁, m.eval r = (.ok a, r₁) ∧ (f a).eval r₁ = (.ok b, r') := by
  rw [eval_bind]
  rcases m.eval r with ⟨a, r₁⟩
  cases a with
  | ok a =>
      constructor
      · exact fun h => ⟨a, r₁, rfl, h⟩
      · rintro ⟨a', r', h, h'⟩
        cases h
        exact h'
  | error e => simp

/-- An outcome that needs no cluster leaves the client and the cluster as they are. -/
theorem eval_outcome_eq_iff {a b : Outcome α} {r r' : Run σ} :
    (outcome a : Client σ α).eval r = (b, r') ↔ a = b ∧ r = r' := by
  rw [eval_outcome, Prod.mk.injEq]

theorem outcome_after (a : Outcome α) (r : Run σ) : ((outcome a).eval r).2 = r := by
  rw [eval_outcome]

/-- The namespace of an environment is looked up among those that the client knows. -/
theorem eval_environmentNamespace (environment : String) (r : Run σ) :
    (environmentNamespace environment).eval r =
      (match r.session.environments.lookup environment with
        | some ns => .ok ns
        | none => .error (.misconfigured (.unknownEnvironment environment)), r) := by
  unfold environmentNamespace
  rw [eval_bind, eval_session]
  simp only
  cases r.session.environments.lookup environment <;> rfl

/-- The namespace of an environment is the one that the client knows. -/
theorem eval_environmentNamespace_eq_ok_iff {environment ns : String} {r r' : Run σ} :
    (environmentNamespace environment).eval r = (.ok ns, r') ↔
      r.session.environments.lookup environment = some ns ∧ r = r' := by
  rw [eval_environmentNamespace]
  cases r.session.environments.lookup environment <;> simp

variable [Cluster σ]

@[simp] theorem eval_askCore (q : CoreQuery) (r : Run σ) :
    (askCore q).eval r = (.ok (Cluster.core q r.cluster).1, r.afterCore q) := rfl

@[simp] theorem eval_askWeb (w : WebRequest) (r : Run σ) :
    (askWeb w).eval r = (.ok (Cluster.web w r.cluster).1, r.afterWeb w) := rfl

/-! ## single requests -/

/-- What is made of the answer to a question about core resources. -/
def coreResult [Resource α] (s : Session) (q : CoreQuery) : CoreReply → Outcome α
  | .document d => Resource.decode d q.description
  | .status n =>
    if n = 404 then .error (.notFound q.description)
    else .error (.transport ("could not get " ++ q.description) none s.config.provider.apiBase
      (some n))
  | .broken detail => .error (.transport ("could not get " ++ q.description) (some detail)
      s.config.provider.apiBase none)

/-- A question about core resources is always asked. -/
theorem eval_readCore [Resource α] (q : CoreQuery) (r : Run σ) :
    (readCore q : Client σ α).eval r =
      (coreResult r.session q (Cluster.core q r.cluster).1, r.afterCore q) := by
  unfold readCore
  rw [eval_bind, eval_config]
  simp only [eval_bind, eval_askCore]
  cases (Cluster.core q r.cluster).1 with
  | document d => simp [coreResult]
  | status n => by_cases hn : n = 404 <;> simp [coreResult, hn]
  | broken detail => simp [coreResult]

/-- The request for a path, or why none can be sent: its document, its address, a header or a parameter
cannot be written, or the client has been closed. -/
@[irreducible]
def prepared (s : Session) (path : String) (params : Option Labels) (call : Call) :
    Outcome WebRequest :=
  match call.fault? with
  | some e => .error e
  | none =>
    match Url.Target.ofText (s.config.provider.apiBase ++ path) with
    | .error e => .error e
    | .ok plain =>
      let request : WebRequest :=
        ⟨(params.map plain.withParams).getD plain, s.config.provider.apiToken, call⟩
      if (request.isWritable && Url.Target.paramsFit (params.getD [])) = false then .error .badHeader
      else if s.closed = true then .error .closed
      else .ok request

/-- What it takes to send a request for a path: an address, headers, parameters and a document that can
be written, and a client that is open. -/
theorem prepared_eq_ok_iff {s : Session} {path : String} {params : Option Labels} {call : Call}
    {w : WebRequest} :
    prepared s path params call = .ok w ↔
      ∃ plain, Url.Target.ofText (s.config.provider.apiBase ++ path) = .ok plain ∧
        w = ⟨(params.map plain.withParams).getD plain, s.config.provider.apiToken, call⟩ ∧
        w.isWritable = true ∧ s.closed = false ∧ Url.Target.paramsFit (params.getD []) = true ∧
        call.fault? = none := by
  unfold prepared
  cases call.fault? with
  | some e => simp
  | none =>
      cases Url.Target.ofText (s.config.provider.apiBase ++ path) with
      | error e => simp
      | ok plain =>
          simp only [Except.ok.injEq, exists_eq_left', Bool.and_eq_false_iff]
          generalize hw : (WebRequest.mk ((params.map plain.withParams).getD plain)
            s.config.provider.apiToken call) = v
          by_cases hunfit : v.isWritable = false ∨ Url.Target.paramsFit (params.getD []) = false
          · rw [if_pos hunfit]
            constructor
            · intro h
              contradiction
            · rintro ⟨rfl, hwritable, -, hparams, -⟩
              simp [hwritable, hparams] at hunfit
          · rw [if_neg hunfit]
            simp only [not_or, Bool.not_eq_false] at hunfit
            by_cases hclosed : s.closed = true
            · simp [hclosed]
            · rw [if_neg hclosed]
              rw [Bool.not_eq_true] at hclosed
              constructor
              · intro h
                cases h
                exact ⟨rfl, hunfit.1, hclosed, hunfit.2, trivial⟩
              · rintro ⟨rfl, -⟩
                rfl

/-- A document that cannot be written is not sent. -/
theorem prepared_of_fault {s : Session} {path : String} {params : Option Labels} {call : Call}
    {e : Failure} (h : call.fault? = some e) : prepared s path params call = .error e := by
  unfold prepared
  rw [h]

/-- A prepared request does what it was prepared for. -/
theorem call_of_prepared {s : Session} {path : String} {params : Option Labels} {call : Call}
    {w : WebRequest} (h : prepared s path params call = .ok w) : w.call = call := by
  obtain ⟨plain, -, rfl, -⟩ := prepared_eq_ok_iff.mp h
  rfl

/-- What is made of the answer to a request for a path. -/
def webResult (s : Session) (path : String) (w : WebRequest) (allowMissing : Bool) :
    WebReply → Outcome (Option Answer)
  | .broken detail => .error (.transport ("could not " ++ w.call.method ++ " resource")
      (some detail) (s.config.provider.apiBase ++ path) none)
  | .answer status content =>
    if allowMissing = true ∧ status = 404 then .ok none
    else if 200 ≤ status ∧ status < 300 then .ok (some ⟨w.target.text, content⟩)
    else .error (.transport ("could not " ++ w.call.method ++ " resource") none
      (s.config.provider.apiBase ++ path) (some status))

/-- What a request comes to that is sent if it can be: otherwise nothing happens. -/
def sending (r : Run σ) (f : WebRequest → WebReply → Outcome α) :
    Outcome WebRequest → Outcome α × Run σ
  | .error e => (.error e, r)
  | .ok w => (f w (Cluster.web w r.cluster).1, r.afterWeb w)

/-- What the answer is made of does not change what has been sent. -/
theorem sending_snd (r : Run σ) (f : WebRequest → WebReply → Outcome α)
    (request : Outcome WebRequest) : (sending r f request).2 = r.afterTrying request := by
  cases request <;> rfl

/-- Sending comes to what is made of the answer, or to the reason why there is no request. -/
theorem eval_send (path : String) (params : Option Labels) (call : Call) (allowMissing : Bool)
    (r : Run σ) :
    (send path params call allowMissing).eval r =
      sending r (fun w => webResult r.session path w allowMissing)
        (prepared r.session path params call) := by
  unfold send prepared
  cases call.fault? with
  | some e => simp [sending]
  | none =>
      simp only
      rw [eval_bind, eval_session]
      simp only [eval_bind, eval_outcome]
      cases Url.Target.ofText (r.session.config.provider.apiBase ++ path) with
      | error e => rfl
      | ok plain =>
          simp only
          generalize hw : (WebRequest.mk ((params.map plain.withParams).getD plain)
            r.session.config.provider.apiToken call) = w
          have hcall : call = w.call := by rw [← hw]
          have htarget : (params.map plain.withParams).getD plain = w.target := by rw [← hw]
          cases hfit : w.isWritable && Url.Target.paramsFit (params.getD []) with
          | false => simp [sending]
          | true =>
              cases hclosed : r.session.closed with
              | true => simp [sending]
              | false =>
                  simp only [eval_bind, eval_askWeb, Bool.not_true, Bool.false_eq_true,
                    Bool.true_eq_false, if_false, hcall, htarget]
                  cases hreply : (Cluster.web w r.cluster).1 with
                  | broken detail => simp [sending, hreply, webResult]
                  | answer status content =>
                      by_cases hmissing : allowMissing = true ∧ status = 404
                      · simp [sending, hreply, webResult, hmissing]
                      · by_cases hgood : 200 ≤ status ∧ status < 300
                        · simp [sending, hreply, webResult, hmissing, hgood]
                        · simp [sending, hreply, webResult, hmissing, hgood]

/-- A request for a path of whose answer something is made without asking again. -/
theorem eval_send_bind {k : Option Answer → Client σ β} {g : Option Answer → Outcome β}
    (hk : ∀ a r, (k a).eval r = (g a, r)) (path : String) (params : Option Labels) (call : Call)
    (allowMissing : Bool) (r : Run σ) :
    (send path params call allowMissing >>= k).eval r =
      sending r (fun w reply => (webResult r.session path w allowMissing reply).bind g)
        (prepared r.session path params call) := by
  rw [eval_bind, eval_send]
  cases prepared r.session path params call with
  | error e => rfl
  | ok w =>
      simp only [sending]
      cases webResult r.session path w allowMissing (Cluster.web w r.cluster).1 with
      | error e => rfl
      | ok a => exact hk a _

/-- What is made of the answer to a request for a document in YAML. -/
def yamlOf : Option Answer → Outcome (Option Document)
  | none => .ok none
  | some a => a.yaml.map some

/-- What is made of the answer to storing a document. -/
def storedOf : Option Answer → Outcome (Option Document)
  | none => .ok none
  | some a => if a.isEmpty = true then .ok none else a.yaml.map some

/-- What is made of the answer to a request that is sent with a document in JSON. -/
def jsonOf : Option Answer → Outcome Document
  | none => .ok .null
  | some a => a.json

/-- Fetching a document sends one request and reads the answer as YAML. -/
theorem eval_getResource? (path : String) (allowMissing : Bool) (params : Labels) (r : Run σ) :
    (getResource? path allowMissing params).eval r =
      sending r (fun w reply => (webResult r.session path w allowMissing reply).bind yamlOf)
        (prepared r.session path (some params) .get) := by
  refine eval_send_bind (fun answer r => ?_) path (some params) .get allowMissing r
  cases answer with
  | none => rfl
  | some a =>
      rw [eval_bind, eval_outcome, yamlOf]
      cases a.yaml <;> rfl

/-- Storing a document sends it with its keys in order. -/
theorem eval_putResource (path : String) (body : Document) (r : Run σ) :
    (putResource path body).eval r =
      sending r (fun w reply => (webResult r.session path w false reply).bind storedOf)
        (prepared r.session path none (.put body.inKeyOrder)) := by
  refine eval_send_bind (fun answer r => ?_) path none (.put body.inKeyOrder) false r
  cases answer with
  | none => rfl
  | some a =>
      simp only [storedOf]
      by_cases hempty : a.isEmpty = true
      · rw [if_pos hempty, if_pos hempty]
        rfl
      · rw [if_neg hempty, if_neg hempty, eval_bind, eval_outcome]
        cases a.yaml <;> rfl

/-- Posting a document sends it as it is and reads the answer as JSON. -/
theorem eval_postResource (path : String) (body : Document) (r : Run σ) :
    (postResource path body).eval r =
      sending r (fun w reply => (webResult r.session path w false reply).bind jsonOf)
        (prepared r.session path none (.post body)) := by
  refine eval_send_bind (fun answer r => ?_) path none (.post body) false r
  cases answer with
  | none => rfl
  | some a => exact eval_outcome _ _

/-! ## activities of one request -/

/-- A request that is to be made. -/
structure Ask where
  path : String
  params : Option Labels
  call : Call

/-- The request as a client makes it, or why it cannot be made. -/
def Ask.request (a : Ask) (s : Session) : Outcome WebRequest := prepared s a.path a.params a.call

/-- An activity comes to one request.  It has no result where that cannot be made. -/
structure AsksOnly (m : Client σ α) (r : Run σ) (a : Ask) : Prop where
  after : (m.eval r).2 = r.afterTrying (a.request r.session)
  made {x : α} : (m.eval r).1 = .ok x → ∃ w, a.request r.session = .ok w

namespace AsksOnly

variable {m : Client σ α} {r : Run σ} {a : Ask}

/-- What sends one request asks for nothing else. -/
theorem of_sending {f : WebRequest → WebReply → Outcome α}
    (h : m.eval r = sending r f (a.request r.session)) : AsksOnly m r a := by
  refine ⟨by rw [h, sending_snd], fun hok => ?_⟩
  rw [h] at hok
  cases hrequest : a.request r.session with
  | error e =>
      rw [hrequest] at hok
      cases hok
  | ok w => exact ⟨w, rfl⟩

/-- Either nothing happens, or the request is sent. -/
theorem sent_or_not (hm : AsksOnly m r a) :
    (∃ e, m.eval r = (.error e, r)) ∨
      ∃ w, a.request r.session = .ok w ∧ (m.eval r).2 = r.afterWeb w := by
  have hafter := hm.after
  cases hrequest : a.request r.session with
  | ok w =>
      rw [hrequest] at hafter
      exact .inr ⟨w, rfl, hafter⟩
  | error e =>
      rw [hrequest] at hafter
      cases hresult : (m.eval r).1 with
      | error e' => exact .inl ⟨e', Prod.ext hresult hafter⟩
      | ok x =>
          obtain ⟨w, hw⟩ := hm.made hresult
          rw [hrequest] at hw
          cases hw

/-- Where there is a result, the request has been sent. -/
theorem of_ok (hm : AsksOnly m r a) {x : α} {r' : Run σ} (h : m.eval r = (.ok x, r')) :
    ∃ w, a.request r.session = .ok w ∧ r' = r.afterWeb w := by
  obtain ⟨w, hw⟩ := hm.made (x := x) (by rw [h])
  have hafter := hm.after
  rw [h, hw, Run.afterTrying_ok] at hafter
  exact ⟨w, hw, hafter⟩

/-- What follows a request without asking again. -/
theorem bind (hm : AsksOnly m r a) {f : α → Client σ β} (hf : ∀ x r', ((f x).eval r').2 = r') :
    AsksOnly (m >>= f) r a := by
  have heval := eval_bind m f r
  rcases hfirst : m.eval r with ⟨x, r₁⟩
  have hafter := hm.after
  rw [hfirst] at heval hafter
  cases x with
  | error e =>
      refine ⟨by rw [heval, ← hafter], fun hok => ?_⟩
      rw [heval] at hok
      cases hok
  | ok x =>
      refine ⟨?_, fun _ => hm.made (by rw [hfirst])⟩
      rw [heval, ← hafter]
      exact hf x r₁

theorem of_config {f : ClientConfig → Client σ α} (h : AsksOnly (f r.session.config) r a) :
    AsksOnly (config >>= f) r a := by
  have heval : (config >>= f).eval r = (f r.session.config).eval r := by rw [eval_bind, eval_config]
  refine ⟨by rw [heval, h.after], fun hok => h.made (by rw [← heval, hok])⟩

end AsksOnly

theorem asksOnly_getResource? (path : String) (allowMissing : Bool) (params : Labels) (r : Run σ) :
    AsksOnly (getResource? path allowMissing params) r ⟨path, some params, .get⟩ :=
  .of_sending (eval_getResource? path allowMissing params r)

theorem asksOnly_getResource (path : String) (params : Labels) (r : Run σ) :
    AsksOnly (getResource path params) r ⟨path, some params, .get⟩ :=
  (asksOnly_getResource? path false params r).bind fun _ _ => rfl

theorem asksOnly_putResource (path : String) (body : Document) (r : Run σ) :
    AsksOnly (putResource path body) r ⟨path, none, .put body.inKeyOrder⟩ :=
  .of_sending (eval_putResource path body r)

/-- What selects the builds of an application, and where they are looked up. -/
def buildsAsk (s : Session) (space app : String) : Ask :=
  ⟨ApiPath.text ⟨s.config.userNamespace, "builds", none, none⟩,
    some (selecting (buildSelector app space)), .get⟩

/-- The name of a deployment config is found in the builds, which are asked for once. -/
theorem asksOnly_configNameIn (ns app space : String) (r : Run σ) :
    AsksOnly (configNameIn ns app space) r (buildsAsk r.session space app) :=
  .of_config (((asksOnly_getResource _ _ r).bind fun _ _ => outcome_after _ _).bind
    fun _ _ => outcome_after _ _)

end Client

end Rollout
