import Rollout.Proofs.Annotation
import Rollout.Proofs.Answers
import Rollout.Proofs.Confinement

/-!
# Rollout.Proofs.Interpretation

What every answer of a cluster comes to.

* `Format.Holds`, `Format.IsMalformed`, `Format.Lacks` — the content of an answer, in YAML or JSON:
  a document, or none for want of the form of one, or none since a value in it cannot be made;
* `Exchange` — a request for a document, and where there need not be one;
* `Exchange.Comes`, `Exchange.comes_result`, `Exchange.Comes.eq_result` — the cases of an answer;
* `Interpretation` — what an answer comes to, one way and the other;
* `Interpreted`, `interpreted_resources` — what reading, storing and sending a document comes to.
-/

namespace Rollout

open Client

/-! ## contents in a format -/

/-- The formats of documents. -/
inductive Format where
  | yaml
  | json

/-- The document that a text in JSON holds. -/
def jsonDocument (s : String) : Except Document.JsonFault Document :=
  (Text.decodeText? s.toUTF8.toList).elim (.error .form) (Document.readJson Answer.json.mostNested)

namespace Format

/-- The document of an answer, which has to be a map. -/
def decode : Format → Answer → Outcome Document
  | yaml, a => a.yaml
  | json, a => a.json

/-- The content of an answer holds a document. -/
def Holds : Format → Content → Document → Prop
  | yaml, content, d => content.Holds d
  | json, .document d', d => d' = d
  | json, .text s, d => jsonDocument s = .ok d

/-- The content of an answer does not have the form of a document. -/
def IsMalformed : Format → Content → Prop
  | _, .document _ => False
  | yaml, .text s => Yaml.document s = .error .form
  | json, .text s => jsonDocument s = .error .form

/-- The content of an answer has the form of a document, but a value in it cannot be made, or it is
nested too deep. -/
inductive Lacks : Format → Content → Failure → Prop where
  | value {s : String} {fault : Yaml.Fault} : Yaml.LacksValue s fault → fault ≠ .tooDeep →
    Lacks yaml (.text s) (.scalar fault)
  | tooDeep {s : String} : Yaml.document s = .error .tooDeep → Lacks yaml (.text s) .tooDeep
  | tooDeepJson {s : String} : jsonDocument s = .error .tooDeep → Lacks json (.text s) .tooDeep

/-- What is said of content without the form of a document. -/
def noForm (url : String) : Format → Malformed
  | yaml => .notYaml url
  | json => .notJson url

/-- What is said of a document that is no map. -/
def noMap (url : String) (d : Document) : Format → Malformed
  | yaml => .notMapping url d.kindWord
  | json => .notObject url

variable {f : Format} {url : String} {content : Content} {d : Document}

/-- A content that holds a document is read as this, if it is a map. -/
theorem decode_of_holds (h : f.Holds content d) : f.decode ⟨url, content⟩ =
    if d.isMap then .ok d else .error (.malformed (f.noMap url d)) := by
  cases content with
  | document d' =>
      obtain rfl : d' = d := by
        cases f with
        | yaml => exact h
        | json => exact h
      cases f with
      | yaml => rfl
      | json => rfl
  | text s =>
      cases f with
      | yaml =>
          have hs : Yaml.document s = .ok d := h
          simp only [decode, Answer.yaml, hs]
          rfl
      | json =>
          have hs : jsonDocument s = .ok d := h
          unfold jsonDocument at hs
          simp only [decode, Answer.json, hs]
          rfl

/-- A content that is malformed is an error that says so. -/
theorem decode_of_isMalformed (h : f.IsMalformed content) :
    f.decode ⟨url, content⟩ = .error (.malformed (f.noForm url)) := by
  cases content with
  | document d' =>
      cases f with
      | yaml => exact h.elim
      | json => exact h.elim
  | text s =>
      cases f with
      | yaml =>
          have hs : Yaml.document s = .error .form := h
          simp only [decode, Answer.yaml, hs]
          rfl
      | json =>
          have hs : jsonDocument s = .error .form := h
          unfold jsonDocument at hs
          simp only [decode, Answer.json, hs]
          rfl

/-- A content whose document cannot be made has the failure that keeps it from that. -/
theorem decode_of_lacks {e : Failure} (h : f.Lacks content e) :
    f.decode ⟨url, content⟩ = .error e := by
  cases h with
  | @value s fault hlacks hdeep =>
      obtain ⟨hs, hne⟩ := hlacks
      simp only [decode, Answer.yaml, hs]
      cases fault with
      | form => contradiction
      | tooDeep => contradiction
      | _ => rfl
  | tooDeep hs =>
      simp only [decode, Answer.yaml, hs]
      rfl
  | tooDeepJson hs =>
      unfold jsonDocument at hs
      simp only [decode, Answer.json, hs]

/-- The failure for want of a value is none that the library names. -/
theorem Lacks.message? {e : Failure} (h : f.Lacks content e) : e.message? = none := by
  cases h <;> rfl

/-- There is no other content. -/
theorem cases_content (f : Format) (content : Content) :
    (∃ d, f.Holds content d) ∨ f.IsMalformed content ∨ ∃ e, f.Lacks content e := by
  cases content with
  | document d =>
      cases f with
      | yaml => exact .inl ⟨d, rfl⟩
      | json => exact .inl ⟨d, rfl⟩
  | text s =>
      cases f with
      | yaml =>
          cases hs : Yaml.document s with
          | ok d => exact .inl ⟨d, hs⟩
          | error fault =>
              by_cases hform : fault = .form
              · subst hform
                exact .inr (.inl hs)
              by_cases hdeep : fault = .tooDeep
              · subst hdeep
                exact .inr (.inr ⟨_, .tooDeep hs⟩)
              · exact .inr (.inr ⟨_, .value ⟨hs, hform⟩ hdeep⟩)
      | json =>
          cases hs : jsonDocument s with
          | ok d => exact .inl ⟨d, hs⟩
          | error fault =>
              cases fault with
              | form => exact .inr (.inl hs)
              | tooDeep => exact .inr (.inr ⟨_, .tooDeepJson hs⟩)

end Format

/-! ## requests for documents -/

/-- A request for a document: its format, and whether the resource may be absent and the answer be
empty. -/
structure Exchange where
  format : Format
  allowMissing : Bool
  allowEmpty : Bool

/-- A status stands for success. -/
def IsSuccess (status : Int) : Prop := 200 ≤ status ∧ status < 300

namespace Exchange

/-- An answer says that there is no document, which is allowed. -/
def Nothing (x : Exchange) (status : Int) (content : Content) : Prop :=
  x.allowMissing = true ∧ status = 404 ∨
    x.allowEmpty = true ∧ IsSuccess status ∧ content = .text ""

/-- An answer is to hold a document. -/
def Answers (x : Exchange) (status : Int) (content : Content) : Prop :=
  IsSuccess status ∧ ¬ x.Nothing status content

/-- What is said of a request that failed: its method, the URL, and either the text of a broken
connection or a status. -/
def failure (w : WebRequest) (url : String) (detail : Option String) (status : Option Int) : Failure :=
  .transport ("could not " ++ w.call.method ++ " resource") detail url status

/-- What an answer comes to. -/
inductive Comes (x : Exchange) (url : String) (w : WebRequest) :
    WebReply → Outcome (Option Document) → Prop where
  | nothing {status : Int} {content : Content} : x.Nothing status content →
    Comes x url w (.answer status content) (.ok none)
  | document {status : Int} {content : Content} {d : Document} : x.Answers status content →
    x.format.Holds content d → d.isMap = true → Comes x url w (.answer status content) (.ok (some d))
  | noMap {status : Int} {content : Content} {d : Document} : x.Answers status content →
    x.format.Holds content d → d.isMap = false →
    Comes x url w (.answer status content) (.error (.malformed (x.format.noMap w.target.text d)))
  | noForm {status : Int} {content : Content} : x.Answers status content →
    x.format.IsMalformed content →
    Comes x url w (.answer status content) (.error (.malformed (x.format.noForm w.target.text)))
  | lacking {status : Int} {content : Content} {e : Failure} : x.Answers status content →
    x.format.Lacks content e → Comes x url w (.answer status content) (.error e)
  | failed {status : Int} {content : Content} : ¬ IsSuccess status → ¬ x.Nothing status content →
    Comes x url w (.answer status content) (.error (failure w url none (some status)))
  | broken {detail : String} :
    Comes x url w (.broken detail) (.error (failure w url (some detail) none))

/-- The document of an answer to a request, if there is to be one. -/
def documentOf (x : Exchange) : Option Answer → Outcome (Option Document)
  | none => .ok none
  | some a => if x.allowEmpty = true ∧ a.isEmpty = true then .ok none else (x.format.decode a).map some

/-- What is made of an answer. -/
def result (x : Exchange) (s : Session) (path : String) (w : WebRequest) (reply : WebReply) :
    Outcome (Option Document) :=
  (webResult s path w x.allowMissing reply).bind x.documentOf

variable {x : Exchange} {s : Session} {path : String} {w : WebRequest} {status : Int}
  {content : Content}

theorem isEmpty_iff {url : String} :
    (Answer.mk url content).isEmpty = true ↔ content = .text "" := by
  cases content <;> simp [Answer.isEmpty]

/-- Where nothing is to be read, there is no document. -/
theorem result_of_nothing (h : x.Nothing status content) :
    x.result s path w (.answer status content) = .ok none := by
  obtain ⟨hallowed, rfl⟩ | ⟨hallowed, hsuccess, hempty⟩ := h
  · simp [result, webResult, hallowed, Except.bind, documentOf]
  · have hgood : 200 ≤ status ∧ status < 300 := hsuccess
    have hmissing : ¬ (x.allowMissing = true ∧ status = 404) := by omega
    have hnone : x.documentOf (some ⟨w.target.text, content⟩) = .ok none :=
      if_pos ⟨hallowed, isEmpty_iff.mpr hempty⟩
    unfold result webResult
    simp only [if_neg hmissing, if_pos hgood]
    exact hnone

/-- An answer is read in its format. -/
theorem result_of_answers (h : x.Answers status content) :
    x.result s path w (.answer status content) =
      (x.format.decode ⟨w.target.text, content⟩).map some := by
  obtain ⟨hsuccess, hsome⟩ := h
  have hgood : 200 ≤ status ∧ status < 300 := hsuccess
  have hmissing : ¬ (x.allowMissing = true ∧ status = 404) := fun hnone => hsome (.inl hnone)
  have hempty : ¬ (x.allowEmpty = true ∧ (Answer.mk w.target.text content).isEmpty = true) :=
    fun hnone => hsome (.inr ⟨hnone.1, hsuccess, isEmpty_iff.mp hnone.2⟩)
  unfold result webResult
  simp only [if_neg hmissing, if_pos hgood]
  exact if_neg hempty

/-- Any other status is a failure of the transport. -/
theorem result_of_failed (hfailed : ¬ IsSuccess status) (hsome : ¬ x.Nothing status content) :
    x.result s path w (.answer status content) =
      .error (failure w (s.config.provider.apiBase ++ path) none (some status)) := by
  have hbad : ¬ (200 ≤ status ∧ status < 300) := hfailed
  have hmissing : ¬ (x.allowMissing = true ∧ status = 404) := fun hnone => hsome (.inl hnone)
  unfold result webResult
  simp only [if_neg hmissing, if_neg hbad]
  rfl

/-- An answer comes to nothing else than what is made of it. -/
theorem Comes.eq_result {reply : WebReply} {ended : Outcome (Option Document)}
    (h : x.Comes (s.config.provider.apiBase ++ path) w reply ended) :
    ended = x.result s path w reply := by
  cases h with
  | nothing hnothing => exact (result_of_nothing hnothing).symm
  | document hanswers hholds hmap =>
      rw [result_of_answers hanswers, Format.decode_of_holds hholds, if_pos hmap]
      rfl
  | noMap hanswers hholds hmap =>
      rw [result_of_answers hanswers, Format.decode_of_holds hholds, hmap]
      rfl
  | noForm hanswers hmalformed =>
      rw [result_of_answers hanswers, Format.decode_of_isMalformed hmalformed]
      rfl
  | lacking hanswers hlacks =>
      rw [result_of_answers hanswers, Format.decode_of_lacks hlacks]
      rfl
  | failed hfailed hsome => exact (result_of_failed hfailed hsome).symm
  | broken => rfl

/-- An answer that is to hold a document comes to something. -/
theorem exists_comes_of_answers {url : String} (h : x.Answers status content) :
    ∃ ended, x.Comes url w (.answer status content) ended := by
  obtain ⟨d, hholds⟩ | hmalformed | ⟨e, hlacks⟩ := x.format.cases_content content
  · cases hmap : d.isMap with
    | true => exact ⟨_, .document h hholds hmap⟩
    | false => exact ⟨_, .noMap h hholds hmap⟩
  · exact ⟨_, .noForm h hmalformed⟩
  · exact ⟨_, .lacking h hlacks⟩

/-- Every answer comes to what is made of it. -/
theorem comes_result (x : Exchange) (s : Session) (path : String) (w : WebRequest)
    (reply : WebReply) :
    x.Comes (s.config.provider.apiBase ++ path) w reply (x.result s path w reply) := by
  have hsome : ∃ ended, x.Comes (s.config.provider.apiBase ++ path) w reply ended := by
    cases reply with
    | broken detail => exact ⟨_, .broken⟩
    | answer status content =>
        by_cases hnothing : x.Nothing status content
        · exact ⟨_, .nothing hnothing⟩
        by_cases hsuccess : IsSuccess status
        · exact exists_comes_of_answers ⟨hsuccess, hnothing⟩
        · exact ⟨_, .failed hsuccess hnothing⟩
  obtain ⟨ended, hended⟩ := hsome
  exact hended.eq_result ▸ hended

end Exchange

/-! ## interpretations -/

/-- What an answer comes to.  There is no document exactly where that is allowed, and there is one
exactly if a success holds a map; any other status is reported, and so are a broken connection and a
success that holds anything else.  A success with a value that cannot be made is none of these. -/
structure Interpretation (x : Exchange) (url : String) (w : WebRequest) (reply : WebReply)
    (result : Outcome (Option Document)) : Prop where
  comes : x.Comes url w reply result
  nothing : result = .ok none ↔
    ∃ status content, reply = .answer status content ∧ x.Nothing status content
  document {d : Document} : result = .ok (some d) ↔
    ∃ status content, reply = .answer status content ∧ x.Answers status content ∧
      x.format.Holds content d ∧ d.isMap = true
  status {n : Int} :
    (∃ what detail shown, result = .error (.transport what detail shown (some n))) ↔
      ∃ content, reply = .answer n content ∧ ¬ IsSuccess n ∧ ¬ x.Nothing n content
  connection : (∃ what detail shown, result = .error (.transport what detail shown none)) ↔
    ∃ detail, reply = .broken detail
  malformed : (∃ cause, result = .error (.malformed cause)) ↔
    ∃ status content, reply = .answer status content ∧ x.Answers status content ∧
      (x.format.IsMalformed content ∨ ∃ d, x.format.Holds content d ∧ d.isMap = false)
  unnamed {e : Failure} : result = .error e ∧ e.message? = none ↔
    ∃ status content, reply = .answer status content ∧ x.Answers status content ∧
      x.format.Lacks content e

/-- If a request comes to one thing only, that is the interpretation of the answer. -/
theorem Exchange.Comes.interpretation {x : Exchange} {url : String} {w : WebRequest}
    {reply : WebReply} {result : Outcome (Option Document)} (h : x.Comes url w reply result)
    (hunique : ∀ {other}, x.Comes url w reply other → result = other) :
    Interpretation x url w reply result where
  comes := h
  nothing := by
    constructor
    · rintro rfl
      cases h with
      | nothing hnothing => exact ⟨_, _, rfl, hnothing⟩
    · rintro ⟨status, content, rfl, hnothing⟩
      exact hunique (.nothing hnothing)
  document := by
    intro d
    constructor
    · rintro rfl
      cases h with
      | document hanswers hholds hmap => exact ⟨_, _, rfl, hanswers, hholds, hmap⟩
    · rintro ⟨status, content, rfl, hanswers, hholds, hmap⟩
      exact hunique (.document hanswers hholds hmap)
  status := by
    intro n
    constructor
    · rintro ⟨what, detail, shown, rfl⟩
      cases h with
      | failed hfailed hsome => exact ⟨_, rfl, hfailed, hsome⟩
      | lacking _ hlacks => cases hlacks.message?
    · rintro ⟨content, rfl, hfailed, hsome⟩
      exact ⟨_, _, _, hunique (.failed hfailed hsome)⟩
  connection := by
    constructor
    · rintro ⟨what, detail, shown, rfl⟩
      cases h with
      | broken => exact ⟨_, rfl⟩
      | lacking _ hlacks => cases hlacks.message?
    · rintro ⟨detail, rfl⟩
      exact ⟨_, _, _, hunique .broken⟩
  malformed := by
    constructor
    · rintro ⟨cause, rfl⟩
      cases h with
      | noForm hanswers hmalformed => exact ⟨_, _, rfl, hanswers, .inl hmalformed⟩
      | noMap hanswers hholds hmap => exact ⟨_, _, rfl, hanswers, .inr ⟨_, hholds, hmap⟩⟩
      | lacking _ hlacks => cases hlacks.message?
    · rintro ⟨status, content, rfl, hanswers, hmalformed | ⟨d, hholds, hmap⟩⟩
      · exact ⟨_, hunique (.noForm hanswers hmalformed)⟩
      · exact ⟨_, hunique (.noMap hanswers hholds hmap)⟩
  unnamed := by
    intro e
    constructor
    · rintro ⟨rfl, hnone⟩
      cases h with
      | lacking hanswers hlacks => exact ⟨_, _, rfl, hanswers, hlacks⟩
      | noForm | noMap | failed | broken => cases hnone
    · rintro ⟨status, content, rfl, hanswers, hlacks⟩
      exact ⟨hunique (.lacking hanswers hlacks), hlacks.message?⟩

/-- What is made of an answer is an interpretation of it. -/
theorem Exchange.interpretation_result (x : Exchange) (s : Session) (path : String)
    (w : WebRequest) (reply : WebReply) :
    Interpretation x (s.config.provider.apiBase ++ path) w reply (x.result s path w reply) :=
  (x.comes_result s path w reply).interpretation fun hother => hother.eq_result.symm

/-! ## reading, storing and sending documents -/

variable {σ : Type} [Cluster σ]

/-- What a request for a document comes to.  If it cannot be made, nothing is sent, and the failure is
none that the library names; otherwise it is the only one that is sent, and its answer is
interpreted. -/
structure Interpreted (x : Exchange) (path : String) (params : Option Labels) (call : Call)
    (r : Run σ) (ended : Outcome (Option Document) × Run σ) : Prop where
  unmade {e : Failure} : prepared r.session path params call = .error e →
    ended = (.error e, r) ∧ (e = .badAddress ∨ e = .badHeader ∨ e = .closed ∨
      call.fault? = some e ∧ (e = .tooDeep ∨ e = .tooLong))
  made {w : WebRequest} : prepared r.session path params call = .ok w →
    ended.2 = r.afterWeb w ∧
    Interpretation x (r.session.config.provider.apiBase ++ path) w (Cluster.web w r.cluster).1
      ended.1

/-- What sends one request is interpreted as the request is. -/
theorem interpreted_of_sending {x : Exchange} {path : String} {params : Option Labels}
    {call : Call} {r : Run σ} {ended : Outcome (Option Document) × Run σ}
    (h : ended = sending r (fun w reply => x.result r.session path w reply)
      (prepared r.session path params call)) :
    Interpreted x path params call r ended := by
  subst h
  constructor
  case unmade =>
    intro e he
    rw [he]
    exact ⟨rfl, prepared_eq_error he⟩
  case made =>
    intro w hw
    rw [hw]
    exact ⟨rfl, x.interpretation_result r.session path w _⟩

theorem documentOf_reading (allowMissing : Bool) :
    (Exchange.mk .yaml allowMissing false).documentOf = yamlOf := by
  funext answer
  cases answer with
  | none => rfl
  | some a => simp [yamlOf, Exchange.documentOf, Format.decode]

theorem documentOf_storing : (Exchange.mk .yaml false true).documentOf = storedOf := by
  funext answer
  cases answer with
  | none => rfl
  | some a => simp [storedOf, Exchange.documentOf, Format.decode]

/-- Where an absent resource is not tolerated, an answer in JSON is there or a failure. -/
theorem result_sending (s : Session) (path : String) (w : WebRequest) (reply : WebReply) :
    (Exchange.mk .json false false).result s path w reply =
      ((webResult s path w false reply).bind jsonOf).map some := by
  cases reply with
  | broken detail => rfl
  | answer status content =>
      by_cases hgood : 200 ≤ status ∧ status < 300
      · simp [Exchange.result, webResult, hgood, Except.bind, Exchange.documentOf, Format.decode,
          jsonOf]
      · simp [Exchange.result, webResult, hgood, Except.bind, Except.map]

/-- Reading a resource, where it may be absent or not, storing one, and sending a document: every
answer is interpreted. -/
theorem interpreted_resources (path : String) (r : Run σ) :
    (∀ (allowMissing : Bool) (params : Labels),
      Interpreted ⟨.yaml, allowMissing, false⟩ path (some params) .get r
        ((getResource? path allowMissing params).eval r)) ∧
    (∀ body : Document, Interpreted ⟨.yaml, false, true⟩ path none (.put body.inKeyOrder) r
      ((putResource path body).eval r)) ∧
    ∀ body : Document, Interpreted ⟨.json, false, false⟩ path none (.post body) r
      (((postResource path body).eval r).map (Except.map some) id) := by
  refine ⟨fun allowMissing params => ?_, fun body => ?_, fun body => ?_⟩
  case refine_1 =>
    refine interpreted_of_sending ?_
    rw [eval_getResource?]
    unfold Exchange.result
    rw [documentOf_reading]
  case refine_2 =>
    refine interpreted_of_sending ?_
    rw [eval_putResource]
    unfold Exchange.result
    rw [documentOf_storing]
  case refine_3 =>
    refine interpreted_of_sending ?_
    rw [eval_postResource]
    cases prepared r.session path none (.post body) with
    | error e => rfl
    | ok w => simp only [sending, Prod.map, id, result_sending]

/-! ## a date that is none -/

/-- The fault of a failure for want of a value. -/
def Failure.fault? : Failure → Option Yaml.Fault
  | scalar fault => some fault
  | _ => none

theorem Failure.fault?_eq_some_iff {e : Failure} {fault : Yaml.Fault} :
    e.fault? = some fault ↔ e = .scalar fault := by
  cases e <;> simp [fault?]

/-- A client of a cluster that answers a document with a date that is none. -/
def undated : Run Recorded where
  session := ⟨⟨.cluster "https://api.a.b" "t" "https://api.a.b" "t", "my", none, true, 1⟩, ⟨0, some 0⟩,
    [], [], [], false⟩
  cluster := ⟨[], [("GET /oapi/v1/projects/my", .answer 200 (.text "created: 2018-02-30\n"))]⟩

/-- The date keeps the document from being read: that fails after the answer, and not for a cause that
the library names. -/
theorem undated_fails :
    ((getResource? "/oapi/v1/projects/my" false []).eval undated).1 = .error (.scalar .value) ∧
      (Failure.scalar .value).message? = none ∧
      ((getResource? "/oapi/v1/projects/my" false []).eval undated).2.sent.filterMap addressed? =
        [("GET", "/oapi/v1/projects/my")] := by
  have hfault : (Outcome.error? ((getResource? "/oapi/v1/projects/my" false []).eval undated).1).bind
      Failure.fault? = some .value := by
    decide +kernel
  obtain ⟨e, he, hscalar⟩ := Option.bind_eq_some_iff.mp hfault
  refine ⟨?_, rfl, by decide +kernel⟩
  rw [Outcome.eq_error_of_error? he, Failure.fault?_eq_some_iff.mp hscalar]

end Rollout
