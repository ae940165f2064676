import Rollout.Proofs.Scaling
import Rollout.Proofs.Steady

/-!
# Rollout.Proofs.Answers

What is made of single answers.

* `getResource_congr`, `configNameIn_congr` — the same answer comes to the same;
* `Content.Holds`, `yaml_eq_ok_iff` — the document in an answer;
* `Content.IsReadable`, `storedOf_eq_ok_iff` — the answers to a stored document that are accepted;
* `scaleDocument_eq_ok`, `eval_storeCount` — reading a scale and storing it, where that is answered.
-/

namespace Rollout

open Client

variable {σ : Type} [Cluster σ]

/-! ## what is asked of one path -/

/-- A result of an activity of one request is that of the request having been answered. -/
theorem Client.AsksOnly.eval_eq {α : Type} {m : Client σ α} {r : Run σ} {a : Ask} {x : α}
    (hm : AsksOnly m r a) (h : (m.eval r).1 = .ok x) :
    ∃ w, a.request r.session = .ok w ∧ m.eval r = (.ok x, r.afterWeb w) := by
  obtain ⟨w, hw⟩ := hm.made h
  refine ⟨w, hw, Prod.ext h ?_⟩
  rw [hm.after, hw, Run.afterTrying_ok]

omit [Cluster σ] in
/-- What asks nothing more has the same outcome after the same outcome. -/
theorem bind_congr_outcome {α β : Type} {m : Client σ α} {f : α → Client σ β} {r r' : Run σ}
    (hm : (m.eval r').1 = (m.eval r).1)
    (hf : ∀ a (r r' : Run σ), ((f a).eval r').1 = ((f a).eval r).1) :
    ((m >>= f).eval r').1 = ((m >>= f).eval r).1 := by
  rw [eval_bind, eval_bind]
  rcases heval : m.eval r with ⟨result, r₁⟩
  rcases heval' : m.eval r' with ⟨result', r₁'⟩
  rw [heval, heval'] at hm
  obtain rfl : result' = result := hm
  cases result' with
  | error e => rfl
  | ok a => exact hf a r₁ r₁'

/-- The outcome of a request for a resource depends on nothing but what the client was opened with,
and what the cluster answers. -/
theorem getResource_congr {path : String} {params : Labels} {r r' : Run σ}
    (hbare : r'.session.bare = r.session.bare)
    (hreply : ∀ w, (Ask.mk path (some params) .get).request r.session = .ok w →
      (Cluster.web w r'.cluster).1 = (Cluster.web w r.cluster).1) :
    ((getResource path params).eval r').1 = ((getResource path params).eval r).1 := by
  have hrequest := congrArg (Ask.mk path (some params) .get).request hbare
  have hresult (w : WebRequest) :
      webResult r'.session path w false = webResult r.session path w false := by
    change webResult r'.session.bare path w false = webResult r.session.bare path w false
    rw [hbare]
  rw [request_bare, request_bare] at hrequest
  change prepared _ _ _ _ = prepared _ _ _ _ at hrequest
  refine bind_congr_outcome ?_ fun _ _ _ => rfl
  rw [eval_getResource?, eval_getResource?, hrequest]
  cases hw : prepared r.session path (some params) .get with
  | error e => rfl
  | ok w => simp only [sending, hreply w hw, hresult]

/-- So does the name that the builds give. -/
theorem configNameIn_congr {ns app space : String} {r r' : Run σ}
    (hbare : r'.session.bare = r.session.bare)
    (hreply : ∀ w, (buildsAsk r.session space app).request r.session = .ok w →
      (Cluster.web w r'.cluster).1 = (Cluster.web w r.cluster).1) :
    ((configNameIn ns app space).eval r').1 = ((configNameIn ns app space).eval r).1 := by
  have houtcome {α : Type} (a : Outcome α) (r r' : Run σ) :
      ((outcome a : Client σ α).eval r').1 = ((outcome a : Client σ α).eval r).1 := by
    rw [eval_outcome, eval_outcome]
  have hconfig : r'.session.config = r.session.config := by
    change r'.session.bare.config = r.session.bare.config
    rw [hbare]
  unfold configNameIn
  rw [eval_bind, eval_bind, eval_config, eval_config, hconfig]
  refine bind_congr_outcome ?_ fun _ => houtcome _
  exact bind_congr_outcome (getResource_congr hbare hreply) fun _ => houtcome _

/-! ## contents of answers -/

/-- An answer holds a document. -/
def Content.Holds (content : Content) (d : Document) : Prop :=
  match content with
  | .document d' => d' = d
  | .text s => Yaml.document s = .ok d

/-- The answer to a document that is stored can be read: it is empty, or holds a map. -/
def Content.IsReadable (content : Content) : Prop :=
  content = .text "" ∨ ∃ d, content.Holds d ∧ d.isMap = true

/-- An answer is read as the map that its content holds. -/
theorem yaml_eq_ok_iff {url : String} {content : Content} {d : Document} :
    (Answer.mk url content).yaml = .ok d ↔ content.Holds d ∧ d.isMap = true := by
  have hmapping (d' : Document) :
      (if d'.isMap then .ok d' else .error (.malformed (.notMapping url d'.kindWord)) :
        Outcome Document) = .ok d ↔ d' = d ∧ d.isMap = true := by
    split
    case isTrue hmap =>
      constructor
      · intro h
        cases h
        exact ⟨rfl, hmap⟩
      · rintro ⟨rfl, -⟩
        rfl
    case isFalse hmap =>
      constructor
      · intro h
        cases h
      · rintro ⟨rfl, h⟩
        exact (hmap h).elim
  cases content with
  | document d' => exact hmapping d'
  | text s =>
      unfold Answer.yaml
      change _ ↔ Yaml.document s = .ok d ∧ _
      cases hs : Yaml.document s with
      | ok d' =>
          rw [Except.ok.injEq]
          simp only [hs]
          exact hmapping d'
      | error fault =>
          simp only [hs]
          simp

/-- Whether what is stored is accepted depends on whether the answer can be read. -/
theorem storedOf_eq_ok_iff {url : String} {content : Content} :
    (∃ stored, storedOf (some ⟨url, content⟩) = .ok stored) ↔ content.IsReadable := by
  have hempty : (Answer.mk url content).isEmpty = true ↔ content = .text "" := by
    cases content <;> simp [Answer.isEmpty]
  unfold storedOf Content.IsReadable
  by_cases h : content = .text ""
  · simp only [if_pos (hempty.mpr h)]
    exact ⟨fun _ => .inl h, fun _ => ⟨none, rfl⟩⟩
  · simp only [if_neg (mt hempty.mp h)]
    constructor
    · rintro ⟨stored, hstored⟩
      obtain ⟨d, hd, -⟩ := Outcome.map_eq_ok_iff.mp hstored
      exact .inr ⟨d, yaml_eq_ok_iff.mp hd⟩
    · rintro (hnil | ⟨d, hd⟩)
      · exact (h hnil).elim
      · exact ⟨some d, Outcome.map_eq_ok_iff.mpr ⟨d, yaml_eq_ok_iff.mpr hd, rfl⟩⟩

/-- Something follows an answer that can be read. -/
theorem bind_storedOf_of_isReadable {α : Type} {url : String} {content : Content}
    (h : content.IsReadable) (a : Outcome α) :
    ((storedOf (some ⟨url, content⟩)).bind fun _ => a) = a := by
  obtain ⟨stored, hstored⟩ := storedOf_eq_ok_iff.mpr h
  rw [hstored]
  rfl

/-- A failure follows one that cannot. -/
theorem bind_storedOf_of_not_isReadable {α : Type} {url : String} {content : Content}
    (h : ¬ content.IsReadable) (a : Outcome α) :
    ∃ e, ((storedOf (some ⟨url, content⟩)).bind fun _ => a) = .error e := by
  cases hresult : storedOf (some ⟨url, content⟩) with
  | ok stored => exact (h (storedOf_eq_ok_iff.mp ⟨stored, hresult⟩)).elim
  | error e => exact ⟨e, rfl⟩

/-- What a cluster answers to a document that is stored. -/
theorem eval_putScale {ns name : String} {d : Document} {r : Run σ} {w : WebRequest}
    {content : Content} (hw : (storeScaleAsk ns name d.inKeyOrder).request r.session = .ok w)
    (hreply : (Cluster.web w r.cluster).1 = .answer 200 content) :
    (putScale ns name d).eval r = (storedOf (some ⟨w.target.text, content⟩), r.afterWeb w) := by
  have hprepared : prepared r.session (scalePath ns name).text none (.put d.inKeyOrder) = .ok w := hw
  unfold putScale
  rw [eval_putResource, hprepared, sending, hreply]
  rfl

/-- A scale that a cluster answers is read. -/
theorem scaleDocument_eq_ok {ns name : String} {d : Document} {r : Run σ} {w : WebRequest}
    {content : Content} (hw : (readScaleAsk ns name).request r.session = .ok w)
    (hreply : (Cluster.web w r.cluster).1 = .answer 200 content) (hd : content.Holds d)
    (hmap : d.isMap = true) : ((scaleDocument ns name).eval r).1 = .ok d := by
  have hyaml : (Answer.mk w.target.text content).yaml = .ok d := yaml_eq_ok_iff.mpr ⟨hd, hmap⟩
  have hfound : (getResource? (scalePath ns name).text false []).eval r =
      (.ok (some d), r.afterWeb w) := by
    have hprepared : prepared r.session (scalePath ns name).text (some []) .get = .ok w := hw
    rw [eval_getResource?, hprepared, sending, hreply]
    change ((Answer.mk w.target.text content).yaml.map some, _) = _
    rw [hyaml]
    rfl
  unfold scaleDocument getResource
  rw [eval_bind_of_ok hfound]
  rfl

/-- What scaling comes to once the scale has been read, where storing it is accepted. -/
theorem eval_storeCount {ns name : String} {count : Int} {d spec changed : Document}
    {replicas : Option Int} {r : Run σ} {w : WebRequest} {content : Content}
    (hspec : d.get? "spec" = some spec) (hmap : spec.isMap = true)
    (hreplicas : replicasOf? spec = some replicas)
    (hset : d.set? "spec" "replicas" (.int count) = some changed)
    (hw : (storeScaleAsk ns name changed.inKeyOrder).request r.session = .ok w)
    (hreply : (Cluster.web w r.cluster).1 = .answer 200 content) :
    (storeCount ns name count d).eval r =
      ((storedOf (some ⟨w.target.text, content⟩)).bind fun _ => written (replicas.getD 0),
        r.afterWeb w) := by
  rw [storeCount_eq hspec hmap hreplicas hset, eval_bind, eval_putScale hw hreply]
  cases storedOf (some ⟨w.target.text, content⟩) with
  | error e => rfl
  | ok stored => exact eval_outcome _ _

end Rollout
