import Rollout.Proofs.Answers
import Rollout.Proofs.Confinement
import Rollout.Proofs.Rewriting

/-!
# Rollout.Proofs.Register

Scaling treats the number of pods as a register.

* `Rescaled`, `Register` — what becomes of a cluster in which one scale is stored at most; one that
  keeps this scale as it is stored;
* `Accepting` — a cluster that does, and gives one answer to everything that is stored;
* `Holding` — a client since when the scale asks for a number of pods: `Holding.later` — operations
  that read leave it so; `Holding.exchange` — scaling exchanges the number for another one that can be
  written, and leaves it otherwise;
* `Holding.after` — what runs of such operations lead to;
* `actsAsRegister_of_register` — the results of scaling, and what is stored in the end.
-/

namespace Rollout

open Client Document Url

variable {σ : Type} [Cluster σ]

/-! ## scales -/

/-- A scale that can be written as a text, and asks for a number of pods. -/
structure Document.IsScaleOf (n : Int) (d : Document) : Prop where
  tree : d.IsTree
  spec : ∃ spec replicas, d.get? "spec" = some spec ∧ spec.isMap = true ∧
    replicasOf? spec = some replicas ∧ replicas.getD 0 = n

omit [Cluster σ] in
/-- A scale in which a number of pods has been set asks for this number. -/
theorem Document.SameBut.isScaleOf {n : Int} {d d' : Document}
    (h : SameBut "spec" "replicas" (.int n) d d') (hd' : d'.IsTree) : d'.IsScaleOf n := by
  obtain ⟨spec, hspec, hmap, hreplicas⟩ := h.get? hd'.keysDiffer
  refine ⟨hd', spec, some n, hspec, hmap, ?_, rfl⟩
  rw [replicasOf?, hreplicas]

/-! ## registers -/

/-- What becomes of a cluster when nothing but the scale of one deployment config is stored in it, as
a document that can be written as a text. -/
inductive Rescaled (s : Session) (ns name : String) (c : σ) : σ → Prop where
  | unasked : Rescaled s ns name c c
  | asked {c' c'' : σ} : Rescaled s ns name c c' → Visited c' c'' → Rescaled s ns name c c''
  | stored {c' : σ} {w : WebRequest} {body : Document} : Rescaled s ns name c c' → body.IsTree →
    (storeScaleAsk ns name body).request s = .ok w → Rescaled s ns name c (Cluster.web w c').2

/-- A cluster keeps the scale of a deployment config.  What is asked makes no difference to it; what
is stored is accepted, with any answer to it, and it is what is read next, if it is a map that can be
written as a text. -/
structure Register (s : Session) (ns name : String) (c : σ) : Prop where
  asked {c' c'' : σ} {w : WebRequest} : Rescaled s ns name c c' → Visited c' c'' →
    (readScaleAsk ns name).request s = .ok w → (Cluster.web w c'').1 = (Cluster.web w c').1
  stored {c' : σ} {w w' : WebRequest} {body : Document} : Rescaled s ns name c c' →
    (readScaleAsk ns name).request s = .ok w → (storeScaleAsk ns name body).request s = .ok w' →
    body.IsTree → body.isMap = true →
    ∃ content content' d, (Cluster.web w' c').1 = .answer 200 content ∧
      (Cluster.web w (Cluster.web w' c').2).1 = .answer 200 content' ∧ content'.Holds d ∧
      d.IsTree ∧ body.SameContents d

/-- The answers to all scales that may be stored can be read. -/
def AnswersReadably (s : Session) (ns name : String) (c : σ) : Prop :=
  ∀ c' w body content, Rescaled s ns name c c' → (storeScaleAsk ns name body).request s = .ok w →
    (Cluster.web w c').1 = .answer 200 content → content.IsReadable

/-! ## a cluster that accepts everything -/

namespace Recorded

variable {α : Type}

/-- What has been put under a key is found there. -/
theorem lookup_put_self (entries : List (String × α)) (key : String) (a : α) :
    (put entries key a).lookup key = some a := by
  induction entries with
  | nil => simp [put]
  | cons e rest ih =>
      obtain ⟨k, b⟩ := e
      rw [put]
      split
      case isTrue h => simp [h]
      case isFalse h => rw [List.lookup_cons, beq_false_of_ne (Ne.symm h), ih]

theorem lookup_put_of_ne {key other : String} (h : other ≠ key) (entries : List (String × α))
    (a : α) : (put entries key a).lookup other = entries.lookup other := by
  induction entries with
  | nil => simp [put, List.lookup_cons, beq_false_of_ne h]
  | cons e rest ih =>
      obtain ⟨k, b⟩ := e
      rw [put]
      split
      case isTrue hk =>
        subst hk
        simp [List.lookup_cons, beq_false_of_ne h]
      case isFalse hk => rw [List.lookup_cons, List.lookup_cons, ih]

end Recorded

/-- A cluster with a record that accepts whatever is stored, always with the same answer. -/
structure Accepting where
  record : Recorded
  answer : Content

namespace Accepting

/-- The cluster with a document in its record. -/
def store (c : Accepting) (path : String) (body : Document) : Accepting :=
  { c with record.http := Recorded.put c.record.http ("GET " ++ path) (.answer 200 (.document body)) }

/-- The answer to a request to a URL. -/
def web (w : WebRequest) (c : Accepting) : WebReply × Accepting :=
  match w.call with
  | .put body => (.answer 200 c.answer, c.store w.target.decodedPath body)
  | .get | .post _ | .metrics _ _ => ((Recorded.web w c.record).1, c)

end Accepting

instance : Cluster Accepting where
  core q c := ((Recorded.core q c.record).1, c)
  web := Accepting.web

namespace Accepting

/-- What is stored is accepted, and becomes the answer for its path. -/
theorem web_put {w : WebRequest} {body : Document} (h : w.call = .put body) (c : Accepting) :
    Cluster.web w c = (.answer 200 c.answer, c.store w.target.decodedPath body) := by
  change Accepting.web w c = _
  rw [Accepting.web, h]

/-- Questions are answered from the record. -/
theorem web_of_asking {w : WebRequest} (h : w.call.stores = false) (c : Accepting) :
    Cluster.web w c = ((Recorded.web w c.record).1, c) := by
  change Accepting.web w c = _
  unfold Accepting.web
  cases hcall : w.call with
  | put body => rw [hcall] at h; cases h
  | get | post | metrics => rfl

/-- Questions leave the cluster as it is. -/
theorem eq_of_visited {c c' : Accepting} (h : Visited c c') : c' = c := by
  induction h with
  | unasked => rfl
  | core q _ ih => exact ih
  | web w hw _ ih => rw [web_of_asking hw]; exact ih

/-- What is asked for without parameters is the entry of the path. -/
theorem web_get {w : WebRequest} (h : w.call = .get) (hparams : w.target.params = [])
    (c : Accepting) : (Cluster.web w c).1 =
      (c.record.http.lookup ("GET " ++ w.target.decodedPath)).getD (.answer 404 (.text "")) := by
  have hkeys : Recorded.keys w = ["GET " ++ w.target.decodedPath] := by
    unfold Recorded.keys
    rw [h, hparams]
    rfl
  rw [web_of_asking (by rw [h]; rfl), Recorded.web, hkeys]
  rw [List.findSome?_cons, List.findSome?_nil]
  cases c.record.http.lookup ("GET " ++ w.target.decodedPath) with
  | some reply => rfl
  | none => simp [Recorded.missingWeb, h]

/-- It keeps every scale. -/
theorem register (s : Session) (ns name : String) (c : Accepting) : Register s ns name c where
  asked _ hvisited _ := by rw [eq_of_visited hvisited]
  stored := by
    intro c' w w' body _ hw hw' htree hmap
    have hput : Cluster.web w' c' = _ := web_put (call_of_prepared hw') c'
    obtain ⟨plain, hplain, rfl, -⟩ := prepared_eq_ok_iff.mp hw
    obtain ⟨plain', hplain', rfl, -⟩ := prepared_eq_ok_iff.mp hw'
    obtain rfl : plain = plain' := Except.ok.inj (hplain.symm.trans hplain')
    refine ⟨c'.answer, .document body, body, by rw [hput], ?_, rfl, htree, fun _ _ => .rfl⟩
    rw [hput, web_get rfl (plain.params_withParams [])]
    exact congrArg (Option.getD · _)
      (Recorded.lookup_put_self c'.record.http ("GET " ++ plain.decodedPath) _)

/-- What is stored does not change the answer to a question under other keys. -/
theorem web_store {w : WebRequest} {path : String} (hcall : w.call = .get)
    (hkeys : "GET " ++ path ∉ Recorded.keys w) (c : Accepting) (body : Document) :
    (Cluster.web w (c.store path body)).1 = (Cluster.web w c).1 := by
  have hlookup : ((Recorded.keys w).findSome? fun key => (c.store path body).record.http.lookup key) =
      (Recorded.keys w).findSome? fun key => c.record.http.lookup key := by
    generalize Recorded.keys w = keys at hkeys ⊢
    induction keys with
    | nil => rfl
    | cons key rest ih =>
        rw [List.mem_cons, not_or] at hkeys
        have hkey : (c.store path body).record.http.lookup key = c.record.http.lookup key :=
          Recorded.lookup_put_of_ne (Ne.symm hkeys.1) _ _
        rw [List.findSome?_cons, List.findSome?_cons, ih hkeys.2, hkey]
  rw [web_of_asking (by rw [hcall]; rfl), web_of_asking (by rw [hcall]; rfl)]
  simp only [Recorded.web, hlookup]
  cases (Recorded.keys w).findSome? fun key => c.record.http.lookup key with
  | some reply => rfl
  | none => simp [Recorded.missingWeb, hcall]

/-- The answer to a question under keys of its own stays when scales are stored. -/
theorem web_of_rescaled {s : Session} {ns name path : String} {c c' : Accepting} {w : WebRequest}
    (hpath : ∀ w body, (storeScaleAsk ns name body).request s = .ok w → w.target.decodedPath = path)
    (hcall : w.call = .get) (hkeys : "GET " ++ path ∉ Recorded.keys w)
    (h : Rescaled s ns name c c') : (Cluster.web w c').1 = (Cluster.web w c).1 := by
  induction h with
  | unasked => rfl
  | asked _ hvisited ih => rw [eq_of_visited hvisited, ih]
  | @stored c' w' body _ _ hw ih =>
      rw [web_put (call_of_prepared hw), hpath w' body hw]
      exact (web_store hcall hkeys c' body).trans ih

theorem answer_of_rescaled {s : Session} {ns name : String} {c c' : Accepting}
    (h : Rescaled s ns name c c') : c'.answer = c.answer := by
  induction h with
  | unasked => rfl
  | asked _ hvisited ih => rw [eq_of_visited hvisited, ih]
  | stored _ _ hw ih =>
      rw [web_put (call_of_prepared hw)]
      exact ih

/-- All its answers can be read if the one that it gives can. -/
theorem answersReadably {c : Accepting} (h : c.answer.IsReadable) (s : Session)
    (ns name : String) : AnswersReadably s ns name c := by
  intro c' w body content hc hw hreply
  rw [web_put (call_of_prepared hw), answer_of_rescaled hc] at hreply
  cases hreply
  exact h

end Accepting

/-! ## single operations -/

/-- A client that has meanwhile stored at most one scale. -/
structure Since (ns name : String) (r₀ r : Run σ) : Prop where
  bare : r.session.bare = r₀.session.bare
  cluster : Rescaled r₀.session ns name r₀.cluster r.cluster

/-- Such a client, when the scale is a document that asks for a number of pods, and that can be written
but for this number. -/
structure Holding (ns name : String) (r₀ : Run σ) (d : Document) (n : Int) (r : Run σ) : Prop where
  since : Since ns name r₀ r
  read : ((scaleDocument ns name).eval r).1 = .ok d
  scale : d.IsScaleOf n
  fits : d.RestFits

/-- The builds go on to give the name that they give now, if storing the scale does not change them. -/
theorem named_of_builds {space app ns name : String} {r : Run σ}
    (hfirst : ((configNameIn ns app space).eval r).1 = .ok name)
    (hbuilds : ∀ w c, (buildsAsk r.session space app).request r.session = .ok w →
      Rescaled r.session ns name r.cluster c → (Cluster.web w c).1 = (Cluster.web w r.cluster).1)
    (r' : Run σ) (h : Since ns name r r') : ((configNameIn ns app space).eval r').1 = .ok name :=
  (configNameIn_congr h.bare fun w hw => hbuilds w r'.cluster hw h.cluster).trans hfirst

/-- One call of scaling exchanges the number of pods `n`.  It looks up the builds and reads the scale. If
the new number is too long to be written, nothing is stored.  Otherwise a scale is stored; the result is
`n`, written down, if the answer to it can be read, and a failure if it cannot. -/
def Exchanges (space app environment ns name : String) (n count : Int) (r : Run σ) : Prop :=
  ∃ v w,
    (buildsAsk r.session space app).request r.session = .ok v ∧
    (readScaleAsk ns name).request r.session = .ok w ∧
    (isShort count = false → (scaleDeployment space app environment count).eval r =
      (.error .tooLong, (r.afterWeb v).afterWeb w)) ∧
    (isShort count = true → ∃ w' body content,
      (storeScaleAsk ns name body).request r.session = .ok w' ∧
      ((scaleDeployment space app environment count).eval r).2 =
        ((r.afterWeb v).afterWeb w).afterWeb w' ∧
      (Cluster.web w' ((r.afterWeb v).afterWeb w).cluster).1 = .answer 200 content ∧
      (content.IsReadable → ((scaleDeployment space app environment count).eval r).1 = written n) ∧
      (¬ content.IsReadable →
        ∃ e, ((scaleDeployment space app environment count).eval r).1 = .error e))

/-- A client that has stored nothing since holds what it held. -/
theorem Holding.later {ns name : String} {r₀ r r' : Run σ} {d : Document} {n : Int}
    (hregister : Register r₀.session ns name r₀.cluster) (h : Holding ns name r₀ d n r)
    (hlater : Later r r') : Holding ns name r₀ d n r' := by
  refine ⟨⟨hlater.bare.trans h.since.bare, .asked h.since.cluster hlater.cluster⟩, ?_, h.scale,
    h.fits⟩
  refine Eq.trans (getResource_congr hlater.bare fun w hw => ?_) h.read
  exact hregister.asked h.since.cluster hlater.cluster ((request_congr h.since.bare _).symm.trans hw)

/-- The number of pods can be set, in the same document otherwise. -/
theorem Holding.set {ns name : String} {r₀ r : Run σ} {d : Document} {n : Int}
    (h : Holding ns name r₀ d n r) (count : Int) :
    ∃ changed, d.set? "spec" "replicas" (.int count) = some changed ∧
      SameBut "spec" "replicas" (.int count) d changed.inKeyOrder ∧
      changed.inKeyOrder.fault? = if isShort count then none else some .tooLong := by
  obtain ⟨⟨hdiffer, hunshared⟩, spec, replicas, hspec, hmap, -, -⟩ := h.scale
  obtain ⟨changed, hset⟩ := exists_set? hspec hmap (.int count)
  have hsame : SameBut "spec" "replicas" (.int count) d changed.inKeyOrder :=
    sameBut_set? hdiffer hunshared (keysDiffer_int count) hset
  exact ⟨changed, hset, hsame, hsame.fault?_eq h.fits⟩

/-- What is stored is read the next time. -/
theorem Holding.store {ns name : String} {r₀ r : Run σ} {d changed : Document} {n count : Int}
    (hregister : Register r₀.session ns name r₀.cluster) (h : Holding ns name r₀ d n r)
    {w : WebRequest} (hw : (readScaleAsk ns name).request r.session = .ok w)
    (hset : d.set? "spec" "replicas" (.int count) = some changed)
    (hsame : SameBut "spec" "replicas" (.int count) d changed.inKeyOrder)
    (hfits : changed.inKeyOrder.fault? = none) :
    ∃ w' content d', (storeScaleAsk ns name changed.inKeyOrder).request r.session = .ok w' ∧
      (Cluster.web w' r.cluster).1 = .answer 200 content ∧
      SameBut "spec" "replicas" (.int count) d d' ∧
      Holding ns name r₀ d' count (r.afterWeb w') := by
  have htree : changed.inKeyOrder.IsTree :=
    (h.scale.tree.set? (keysDiffer_int count) rfl hset).inKeyOrder
  have hwhole : changed.inKeyOrder.isMap = true := by
    obtain ⟨v, hv, -⟩ := hsame.get? htree.keysDiffer
    exact isMap_of_get? hv
  obtain ⟨w', hw'⟩ := exists_store_request hfits hw
  have hstore := (request_congr h.since.bare _).symm.trans hw'
  obtain ⟨content, content', d', hstored, hanswer, hholds, htree', hcontents⟩ :=
    hregister.stored h.since.cluster ((request_congr h.since.bare _).symm.trans hw) hstore htree
      hwhole
  have hagain : (readScaleAsk ns name).request (r.afterWeb w').session = .ok w := hw
  have hsame' := hsame.congr hcontents
  exact ⟨w', content, d', hw', hstored, hsame',
    ⟨h.since.bare, .stored h.since.cluster htree hstore⟩,
    scaleDocument_eq_ok hagain hanswer hholds (hcontents.isMap hwhole),
    hsame'.isScaleOf htree', hsame'.restFits h.fits⟩

section

variable {space app environment ns name : String} {r₀ : Run σ}
  (hregister : Register r₀.session ns name r₀.cluster)
  (hns : r₀.session.environments.lookup environment = some ns)
  (hname : ∀ r, Since ns name r₀ r → ((configNameIn ns app space).eval r).1 = .ok name)

include hregister hname

/-- The builds and the scale are looked up first, which changes nothing. -/
theorem Holding.look {d : Document} {n : Int} {r : Run σ} (h : Holding ns name r₀ d n r) :
    ∃ v w, (buildsAsk r.session space app).request r.session = .ok v ∧
      (readScaleAsk ns name).request r.session = .ok w ∧
      (configNameIn ns app space).eval r = (.ok name, r.afterWeb v) ∧
      (scaleDocument ns name).eval (r.afterWeb v) = (.ok d, (r.afterWeb v).afterWeb w) ∧
      Holding ns name r₀ d n ((r.afterWeb v).afterWeb w) := by
  obtain ⟨v, hv, hnamed⟩ := (asksOnly_configNameIn ns app space r).eval_eq (hname r h.since)
  have h₁ : Holding ns name r₀ d n (r.afterWeb v) :=
    h.later hregister ((Later.refl r).afterWeb (stores_of_request hv))
  obtain ⟨w, hw, hread⟩ := (asksOnly_scaleDocument ns name (r.afterWeb v)).eval_eq h₁.read
  exact ⟨v, w, hv, hw, hnamed, hread,
    h₁.later hregister ((Later.refl _).afterWeb (stores_of_request hw))⟩

include hns

/-- Scaling exchanges the number of pods for one that can be written, and changes nothing else in the
scale.  A number that is too long leaves everything as it is. -/
theorem Holding.exchange {d : Document} {n : Int} {r : Run σ} (h : Holding ns name r₀ d n r)
    (count : Int) :
    Exchanges space app environment ns name n count r ∧
      (isShort count = true → ∃ d', SameBut "spec" "replicas" (.int count) d d' ∧
        Holding ns name r₀ d' count ((scaleDeployment space app environment count).eval r).2) ∧
      (isShort count = false →
        Holding ns name r₀ d n ((scaleDeployment space app environment count).eval r).2) := by
  obtain ⟨v, w, hv, hw, hnamed, hread, h₂⟩ := h.look hregister hname
  obtain ⟨changed, hset, hsame, hfault⟩ := h.set count
  obtain ⟨spec, replicas, hspec, hmap, hreplicas, rfl⟩ := h.scale.spec
  have hknown : (environmentNamespace environment).eval r = (.ok ns, r) := by
    refine eval_environmentNamespace_eq_ok_iff.mpr ⟨?_, rfl⟩
    change r.session.bare.environments.lookup environment = some ns
    rw [h.since.bare]
    exact hns
  have heval : (scaleDeployment space app environment count).eval r =
      (storeCount ns name count d).eval ((r.afterWeb v).afterWeb w) := by
    rw [scaleDeployment_eq, eval_bind_of_ok hknown, eval_bind_of_ok hnamed, rescale,
      eval_bind_of_ok hread]
  rw [Exchanges, heval]
  cases hshort : isShort count with
  | false =>
      rw [hshort, if_neg Bool.false_ne_true] at hfault
      rw [storeCount_eq hspec hmap hreplicas hset,
        eval_bind_of_error (eval_putScale_of_fault hfault _)]
      have himpossible {p : Prop} (h : false = true) : p := absurd h Bool.false_ne_true
      exact ⟨⟨v, w, hv, hw, fun _ => rfl, himpossible⟩, himpossible, fun _ => h₂⟩
  | true =>
      rw [hshort, if_pos rfl] at hfault
      obtain ⟨w', content, d', hw', hstored, hsame', h₃⟩ := h₂.store hregister hw hset hsame hfault
      rw [eval_storeCount hspec hmap hreplicas hset hw' hstored]
      have himpossible {p : Prop} (h : true = false) : p := absurd h.symm Bool.false_ne_true
      exact ⟨⟨v, w, hv, hw, himpossible, fun _ => ⟨w', changed.inKeyOrder, content, hw', rfl, hstored,
        fun hreadable => bind_storedOf_of_isReadable hreadable _,
        fun hunreadable => bind_storedOf_of_not_isReadable hunreadable _⟩⟩,
        fun _ => ⟨d', hsame', h₃⟩, himpossible⟩

end

/-! ## runs -/

/-- The number of pods that an operation sets, if it does. -/
def Operation.count? : Operation → Option Int
  | scale _ _ _ count => some count
  | _ => none

/-- The numbers of pods that operations set, one after the other. -/
def counts (operations : List Operation) : List Int := operations.filterMap Operation.count?

/-- Those of them that are stored. -/
def storedCounts (operations : List Operation) : List Int := (counts operations).filter isShort

/-- What setting numbers of pods in a register that holds `n` comes to: each time the number that has
been held, written down, or a failure if the new one is too long. -/
def exchangeResults (n : Int) : List Int → List (Outcome Answered)
  | [] => []
  | count :: rest =>
    if isShort count then (written n).map .count :: exchangeResults count rest
    else .error .tooLong :: exchangeResults n rest

/-- If all numbers are short, these are the numbers without the last one. -/
theorem exchangeResults_of_short {n : Int} {numbers : List Int}
    (h : ∀ m ∈ n :: numbers, isShort m = true) :
    exchangeResults n numbers = (n :: numbers).dropLast.map fun m => .ok (.count m) := by
  induction numbers generalizing n with
  | nil => rfl
  | cons count rest ih =>
      obtain ⟨hn, hrest⟩ := List.forall_mem_cons.mp h
      rw [exchangeResults, if_pos (hrest count (.head _)), ih hrest, written, if_pos hn]
      rfl

/-- The results of the operations that set a number of pods. -/
def countResults (operations : List Operation) (r : Run σ) : List (Outcome Answered) :=
  ((operations.zip (results operations r)).filter (·.1.count?.isSome)).map (·.2)

/-- A document after numbers of pods have been set in it: the last one counts, and nothing else has
changed. -/
def Document.LastSet (d d' : Document) (numbers : List Int) : Prop :=
  match numbers.getLast? with
  | none => d' = d
  | some count => SameBut "spec" "replicas" (.int count) d d'

omit [Cluster σ] in
/-- Of several numbers that are set one after the other, the last one counts. -/
theorem Document.LastSet.cons {d d₁ d₂ : Document} {count : Int} {numbers : List Int}
    (h : SameBut "spec" "replicas" (.int count) d d₁) (h' : d₁.LastSet d₂ numbers) :
    d.LastSet d₂ (count :: numbers) := by
  unfold LastSet at *
  rw [List.getLast?_cons]
  cases hlast : numbers.getLast? with
  | none =>
      rw [hlast] at h'
      obtain rfl : d₂ = d₁ := h'
      exact h
  | some last =>
      rw [hlast] at h'
      exact h.again h'

/-- Operations that read, and others that set the number of pods of an application. -/
def Alternates (space app environment : String) (operations : List Operation) : Prop :=
  ∀ o ∈ operations, o.onlyReads = true ∨ ∃ count, o = .scale space app environment count

/-- What operations make of a register that holds `n`.  Each call of scaling exchanges the number that
was stored last.  If all answers can be read, the results are the numbers in their order, without the
last one, as far as they can be written.  The last one that can is what is stored in the end, and nothing
else in the document has changed. -/
structure ActsAsRegister (space app environment ns name : String) (operations : List Operation)
    (d : Document) (n : Int) (r : Run σ) : Prop where
  exchanged {before rest : List Operation} {count : Int} :
    operations = before ++ .scale space app environment count :: rest →
    Exchanges space app environment ns name ((storedCounts before).getLast?.getD n) count
      (after (before.map .call) r)
  results : AnswersReadably r.session ns name r.cluster →
    countResults operations r = exchangeResults n (counts operations)
  returned : AnswersReadably r.session ns name r.cluster →
    (∀ m ∈ n :: counts operations, isShort m = true) →
    countResults operations r = (n :: counts operations).dropLast.map fun m => .ok (.count m)
  stored : ∃ d', ((scaleDocument ns name).eval (after (operations.map .call) r)).1 = .ok d' ∧
    d.LastSet d' (storedCounts operations) ∧
    d'.IsScaleOf ((storedCounts operations).getLast?.getD n)

theorem count?_of_onlyReads {o : Operation} (h : o.onlyReads = true) : o.count? = none := by
  cases o with
  | scale => cases h
  | _ => rfl

theorem counts_cons_of_onlyReads {o : Operation} (h : o.onlyReads = true)
    (rest : List Operation) : counts (o :: rest) = counts rest :=
  List.filterMap_cons_none (count?_of_onlyReads h)

/-- A number is stored if it is short. -/
theorem storedCounts_cons_scale {space app environment : String} {count : Int}
    (rest : List Operation) : storedCounts (.scale space app environment count :: rest) =
      if isShort count then count :: storedCounts rest else storedCounts rest := by
  unfold storedCounts
  change (count :: counts rest).filter isShort = _
  rw [List.filter_cons]

/-- What only reads stores no number. -/
theorem storedCounts_cons_of_onlyReads {o : Operation} (h : o.onlyReads = true)
    (rest : List Operation) : storedCounts (o :: rest) = storedCounts rest := by
  rw [storedCounts, counts_cons_of_onlyReads h, storedCounts]

/-- The results of a run are that of its first operation, if it scales, and those of the others. -/
theorem countResults_cons (o : Operation) (rest : List Operation) (r : Run σ) :
    countResults (o :: rest) r =
      (if o.count?.isSome then [(o.perform.eval r).1] else []) ++
        countResults rest (o.perform.eval r).2 := by
  unfold countResults
  rw [results, List.zip_cons_cons, List.filter_cons]
  split <;> rfl

theorem eval_perform_scale (space app environment : String) (count : Int) (r : Run σ) :
    (Operation.scale space app environment count).perform.eval r =
      (((scaleDeployment space app environment count).eval r).1.map .count,
        ((scaleDeployment space app environment count).eval r).2) := by
  unfold Operation.perform
  rw [eval_bind]
  rcases (scaleDeployment space app environment count).eval r with ⟨result, r'⟩
  cases result <;> rfl

section

variable {space app environment ns name : String} {r₀ : Run σ}
  (hregister : Register r₀.session ns name r₀.cluster)
  (hns : r₀.session.environments.lookup environment = some ns)
  (hname : ∀ r, Since ns name r₀ r → ((configNameIn ns app space).eval r).1 = .ok name)

include hregister hns hname

/-- After a run, the register holds the number that was stored last. -/
theorem Holding.after {operations : List Operation}
    (hops : Alternates space app environment operations) {d : Document} {n : Int} {r : Run σ}
    (h : Holding ns name r₀ d n r) :
    ∃ d', d.LastSet d' (storedCounts operations) ∧
      Holding ns name r₀ d' ((storedCounts operations).getLast?.getD n)
        (after (operations.map .call) r) := by
  -- Each operation leaves a client that holds a number, and the others start from there.
  induction operations generalizing d n r with
  | nil => exact ⟨d, rfl, h⟩
  | cons o rest ih =>
      have hrest : Alternates space app environment rest := fun o' ho' => hops o' (.tail _ ho')
      obtain ho | ⟨count, rfl⟩ := hops o (.head _)
      · rw [storedCounts_cons_of_onlyReads ho]
        exact ih hrest (h.later hregister (later_perform ho r))
      · obtain ⟨-, hstored, hkept⟩ := h.exchange hregister hns hname count
        have hafter : ((Operation.scale space app environment count).perform.eval r).2 =
            ((scaleDeployment space app environment count).eval r).2 := by
          rw [eval_perform_scale]
        rw [← hafter] at hstored hkept
        rw [storedCounts_cons_scale]
        cases hshort : isShort count with
        | false => exact ih hrest (hkept hshort)
        | true =>
            obtain ⟨d₁, hsame, h₁⟩ := hstored hshort
            obtain ⟨d₂, hlast, h₂⟩ := ih hrest h₁
            refine ⟨d₂, hlast.cons hsame, ?_⟩
            change Holding _ _ _ _ (Option.getD (count :: storedCounts rest).getLast? n) _
            rw [List.getLast?_cons]
            exact h₂

/-- Where the answers can be read, the results are those of exchanging the numbers. -/
theorem Holding.countResults_eq (hreadable : AnswersReadably r₀.session ns name r₀.cluster)
    {operations : List Operation} (hops : Alternates space app environment operations)
    {d : Document} {n : Int} {r : Run σ} (h : Holding ns name r₀ d n r) :
    countResults operations r = exchangeResults n (counts operations) := by
  induction operations generalizing d n r with
  | nil => rfl
  | cons o rest ih =>
      have hrest : Alternates space app environment rest := fun o' ho' => hops o' (.tail _ ho')
      obtain ho | ⟨count, rfl⟩ := hops o (.head _)
      · rw [countResults_cons, count?_of_onlyReads ho, counts_cons_of_onlyReads ho]
        exact ih hrest (h.later hregister (later_perform ho r))
      · obtain ⟨⟨v, w, hv, hw, hlong, hshort⟩, hstored, hkept⟩ :=
          h.exchange hregister hns hname count
        have hcluster : Rescaled r₀.session ns name r₀.cluster
            ((r.afterWeb v).afterWeb w).cluster :=
          .asked h.since.cluster
            (.web w (stores_of_request hw) (.web v (stores_of_request hv) .unasked))
        have hcounts : counts (.scale space app environment count :: rest) =
            count :: counts rest := rfl
        rw [countResults_cons, eval_perform_scale, hcounts, exchangeResults]
        cases hcount : isShort count with
        | false =>
            rw [hlong hcount]
            change _ :: countResults rest _ = _
            rw [ih hrest (hlong hcount ▸ hkept hcount)]
            rfl
        | true =>
            obtain ⟨w', body, content, hw', -, hreply, hreturned, -⟩ := hshort hcount
            have hresult := hreturned (hreadable _ w' body content hcluster
              ((request_congr h.since.bare _).symm.trans hw') hreply)
            obtain ⟨d₁, -, h₁⟩ := hstored hcount
            rw [hresult]
            change _ :: countResults rest _ = _
            rw [ih hrest h₁]
            rfl

end

/-- Scaling acts as a register, where the cluster keeps the scale, the builds give it one name, and it can
be written. -/
theorem actsAsRegister_of_register {space app environment ns name : String} {d : Document} {n : Int}
    {r : Run σ} (hregister : Register r.session ns name r.cluster)
    (hns : r.session.environments.lookup environment = some ns)
    (hname : ∀ r', Since ns name r r' → ((configNameIn ns app space).eval r').1 = .ok name)
    (hread : ((scaleDocument ns name).eval r).1 = .ok d) (hscale : d.IsScaleOf n)
    (hfits : d.IsRescalable) {operations : List Operation} (hops : Alternates space app environment operations) :
    ActsAsRegister space app environment ns name operations d n r := by
  have hholding : Holding ns name r d n r :=
    ⟨⟨rfl, .unasked⟩, hread, hscale, hfits.restFits hscale.tree⟩
  constructor
  case exchanged =>
    rintro before rest count rfl
    obtain ⟨d', -, h⟩ := hholding.after hregister hns hname
      (fun o ho => hops o (List.mem_append_left _ ho))
    exact (h.exchange hregister hns hname count).1
  case results =>
    exact fun hreadable => hholding.countResults_eq hregister hns hname hreadable hops
  case returned =>
    intro hreadable hshort
    rw [hholding.countResults_eq hregister hns hname hreadable hops, exchangeResults_of_short hshort]
  case stored =>
    obtain ⟨d', hlast, h⟩ := hholding.after hregister hns hname hops
    exact ⟨d', h.read, hlast, h.scale⟩

/-- A scale that asks for pods, of which one is there. -/
def pods (n : Int) : Document :=
  .object [("spec", .object [("replicas", .int n)]), ("status", .object [("replicas", .int 1)])]

/-- It is a scale that asks for its number of pods. -/
theorem isScaleOf_pods (n : Int) : (pods n).IsScaleOf n := by
  have hreplicas (m : Int) : (object [("replicas", .int m)]).KeysDiffer := by
    refine keysDiffer_map (List.pairwise_singleton _ _) fun e he => ?_
    rw [List.mem_singleton.mp he]
    exact keysDiffer_int m
  have hapart : sameKey (text "spec") (text "status") = false := by decide
  have hkeys : (pods n).KeysDiffer := by
    refine keysDiffer_map (List.pairwise_pair.mpr hapart) fun e he => ?_
    obtain rfl | he := List.mem_cons.mp he
    · exact hreplicas n
    · rw [List.mem_singleton.mp he]
      exact hreplicas 1
  exact ⟨⟨hkeys, List.nodup_nil⟩, _, some n, rfl, rfl, rfl, rfl⟩

/-- A client of a cluster with this scale, which gives one answer to everything that is stored. -/
def acceptingRun (answer : Content) (n : Int) : Run Accepting where
  session := scaleRun.session
  cluster := Accepting.store ⟨scaleRun.cluster, answer⟩ (scalePath "my-run" "app").text (pods n)

/-- A cluster keeps the scale of the application, which asks for pods and can be written, and the builds
give it one name. -/
structure KeepsPods (n : Int) (r : Run Accepting) : Prop where
  register : Register r.session "my-run" "app" r.cluster
  known : r.session.environments.lookup "run" = some "my-run"
  named (r' : Run Accepting) : Since "my-run" "app" r r' →
    ((configNameIn "my-run" "app" "space").eval r').1 = .ok "app"
  read : ((scaleDocument "my-run" "app").eval r).1 = .ok (pods n)
  scale : (pods n).IsScaleOf n
  rescalable : (pods n).IsRescalable

theorem isOrigin_scaleRun : IsOrigin scaleRun.session.config.provider.apiBase :=
  isOrigin_https "a.b" (by decide +kernel) (by decide +kernel)

theorem leads_scalePath : (scalePath "my-run" "app").Leads :=
  ⟨by decide +kernel, ApiPath.isPlain_object (by decide +kernel) (by decide +kernel)
    (by decide +kernel)⟩

/-- What is read as the scale is the entry that has been stored. -/
theorem read_acceptingRun (answer : Content) (n : Int) :
    ((scaleDocument "my-run" "app").eval (acceptingRun answer n)).1 = .ok (pods n) := by
  have hmade : ((readScaleAsk "my-run" "app").request scaleRun.session).isOk = true := by
    decide +kernel
  cases hw : (readScaleAsk "my-run" "app").request scaleRun.session with
  | error e =>
      rw [hw] at hmade
      cases hmade
  | ok w =>
      obtain ⟨haddressed, hparams⟩ := addressed_of_request leads_scalePath isOrigin_scaleRun hw
      have hreply : (Cluster.web w (acceptingRun answer n).cluster).1 =
          .answer 200 (.document (pods n)) := by
        rw [Accepting.web_get (call_of_prepared hw) hparams, haddressed]
        exact congrArg (Option.getD · _) (Recorded.lookup_put_self _ _ _)
      exact scaleDocument_eq_ok hw hreply rfl rfl

/-- The builds are looked up elsewhere than the scale. -/
theorem builds_apart {w : WebRequest}
    (hw : (buildsAsk scaleRun.session "space" "app").request scaleRun.session = .ok w) :
    "GET " ++ (scalePath "my-run" "app").text ∉ Recorded.keys w := by
  have hclosed : ((buildsAsk scaleRun.session "space" "app").request
      scaleRun.session).toOption.all (fun w => decide ("GET " ++ (scalePath "my-run" "app").text ∉
        Recorded.keys w)) = true := by decide +kernel
  rw [hw] at hclosed
  exact of_decide_eq_true hclosed

/-- So neither the scale nor the answer to a store matters to the name that they give. -/
theorem named_acceptingRun (answer : Content) (n : Int) :
    ((configNameIn "my-run" "app" "space").eval (acceptingRun answer n)).1 = .ok "app" := by
  have hclosed : ((configNameIn "my-run" "app" "space").eval
      (acceptingRun (.text "") 2)).1.toOption = some "app" := by decide +kernel
  have hsame : ((configNameIn "my-run" "app" "space").eval (acceptingRun answer n)).1 =
      ((configNameIn "my-run" "app" "space").eval (acceptingRun (.text "") 2)).1 := by
    refine configNameIn_congr rfl fun w hw => ?_
    have hcall : w.call = .get := call_of_prepared hw
    refine (Accepting.web_store hcall (builds_apart hw) _ _).trans
      (Eq.trans ?_ (Accepting.web_store hcall (builds_apart hw) _ _).symm)
    rw [Accepting.web_of_asking (stores_of_request hw), Accepting.web_of_asking (stores_of_request hw)]
  exact hsame.trans (Outcome.eq_ok_of_toOption hclosed)

/-- Such a client is one of a cluster that keeps the scale. -/
theorem keepsPods_acceptingRun (answer : Content) (n : Int) :
    KeepsPods n (acceptingRun answer n) where
  register := Accepting.register _ _ _ _
  known := rfl
  named := named_of_builds (named_acceptingRun answer n) fun w c hw hc =>
    Accepting.web_of_rescaled
      (fun _ _ hstore => (addressed_of_request leads_scalePath isOrigin_scaleRun hstore).1)
      (call_of_prepared hw) (builds_apart hw) hc
  read := read_acceptingRun answer n
  scale := isScaleOf_pods n
  rescalable := ⟨pods 0, rfl, by decide +kernel⟩

/-- Operations that scale an application, and others in between. -/
def upAndDown : List Operation :=
  [.scale "space" "app" "run" 5, .deployment "space" "app" "run", .scale "space" "app" "run" (-1),
    .check (.scale "run"), .scale "space" "app" "run" 0]

/-- Where empty answers are given to what is stored, each call returns what the one before has set. -/
theorem accepting_actsAsRegister :
    let r := acceptingRun (.text "") 2
    KeepsPods 2 r ∧ Alternates "space" "app" "run" upAndDown ∧
      ActsAsRegister "space" "app" "run" "my-run" "app" upAndDown (pods 2) 2 r ∧
      countResults upAndDown r = [.ok (.count 2), .ok (.count 5), .ok (.count (-1))] := by
  intro r
  have hkeeps : KeepsPods 2 r := keepsPods_acceptingRun (.text "") 2
  have hops : Alternates "space" "app" "run" upAndDown := by
    intro o ho
    simp only [upAndDown, List.mem_cons, List.not_mem_nil, or_false] at ho
    obtain rfl | rfl | rfl | rfl | rfl := ho
    · exact .inr ⟨5, rfl⟩
    · exact .inl rfl
    · exact .inr ⟨-1, rfl⟩
    · exact .inl rfl
    · exact .inr ⟨0, rfl⟩
  have hacts := actsAsRegister_of_register hkeeps.register hkeeps.known hkeeps.named hkeeps.read
    hkeeps.scale hkeeps.rescalable hops
  exact ⟨hkeeps, hops, hacts, hacts.returned (Accepting.answersReadably (.inl rfl) _ _ _)
    (by decide +kernel)⟩

/-- A number of pods that is too long to be written. -/
def tooMany : Int := Nat.pow 10 mostDigits

/-- The result of scaling, and the numbers of pods that have been stored. -/
def scaledTo (count : Int) (r : Run Accepting) : Option Int × List Int :=
  let ended := (scaleDeployment "space" "app" "run" count).eval r
  (ended.1.toOption, (ended.2.sent.filterMap storedScale?).filterMap (·.2))

/-- Scaling returns nothing where a list is the answer to what is stored, where the new number is too long,
and where the old one is.  In the first and in the last case, the new number has been stored. -/
theorem accepting_failed :
    let listed := acceptingRun (.document (.list [.text "done"])) 2
    let short := acceptingRun (.text "") 2
    let long := acceptingRun (.text "") tooMany
    isPlainSegment "app" = true ∧
      (KeepsPods 2 listed ∧ scaledTo 5 listed = (none, [5])) ∧
      (KeepsPods 2 short ∧ scaledTo tooMany short = (none, [])) ∧
      (KeepsPods tooMany long ∧ scaledTo 5 long = (none, [5])) := by
  intro listed short long
  exact ⟨by decide +kernel, ⟨keepsPods_acceptingRun _ _, by decide +kernel⟩,
    ⟨keepsPods_acceptingRun _ _, by decide +kernel⟩, ⟨keepsPods_acceptingRun _ _, by decide +kernel⟩⟩

end Rollout
