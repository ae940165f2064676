import Rollout.Proofs.Guards

/-!
# Rollout.Proofs.Onward

How the operations on deployments go on from the name of the deployment config.

* `SentMore` — from one state to another, more has been sent;
* `GoesOn` — an activity comes to a state and goes on with one request there, or fails because that
  cannot be made; `GoesOn.bind`, `GoesOn.after` — after it and before it, other activities;
* `GoesOnByName` — an activity goes on from the name that the builds give, and fails where they give
  none; `goesOnByName_throughCurrent`, `goesOnByName_scale`, `Guard.goesOnByName` — the operations do.
-/

namespace Rollout

open Client

variable {σ α β : Type} [Cluster σ]

/-! ## more requests -/

/-- From one state to another, more may have been sent. -/
def SentMore (r r' : Run σ) : Prop := ∃ later, r'.sent = r.sent ++ later

/-- Reading operations take back nothing that has been sent. -/
theorem reading_sentMore : Reading (SentMore (σ := σ)) where
  here r := ⟨[], (List.append_nil _).symm⟩
  onward h h' := by
    obtain ⟨first, hfirst⟩ := h
    obtain ⟨rest, hrest⟩ := h'
    exact ⟨first ++ rest, by rw [hrest, hfirst, List.append_assoc]⟩
  core r q := ⟨_, rfl⟩
  web r w _ := ⟨_, rfl⟩
  metrics r entries := ⟨[], (List.append_nil _).symm⟩

omit [Cluster σ] in
/-- What follows an activity leads on along a relation that it leads along. -/
theorem Client.Path.after_first {α β : Type} {R : Run σ → Run σ → Prop} (hR : Path R)
    {m : Client σ α} {f : α → Client σ β} (hf : ∀ a, Along R (f a)) (r : Run σ) :
    R (m.eval r).2 ((m >>= f).eval r).2 := by
  rw [eval_bind]
  rcases m.eval r with ⟨a, r₁⟩
  cases a with
  | ok a => exact hf a r₁
  | error e => exact hR.here r₁

/-! ## going on with a request -/

/-- An activity comes to a state, and goes on with one request there.  It fails if that cannot be
made. -/
structure GoesOn (m : Client σ α) (r r₁ : Run σ) (a : Ask) : Prop where
  sent {w : WebRequest} : a.request r₁.session = .ok w → SentMore (r₁.afterWeb w) (m.eval r).2
  unmade {e : Failure} : a.request r₁.session = .error e → m.eval r = (.error e, r₁)

/-- Fetching a document goes on to its request at once. -/
theorem goesOn_getResource? (path : String) (allowMissing : Bool) (params : Labels) (r : Run σ) :
    GoesOn (getResource? path allowMissing params) r r ⟨path, some params, .get⟩ := by
  have heval := eval_getResource? path allowMissing params r
  constructor
  case sent =>
    intro w hw
    have hprepared : prepared r.session path (some params) .get = .ok w := hw
    rw [heval, hprepared]
    exact reading_sentMore.here _
  case unmade =>
    intro e he
    have hprepared : prepared r.session path (some params) .get = .error e := he
    rw [heval, hprepared]
    rfl

namespace GoesOn

variable {m : Client σ α} {f : α → Client σ β} {r r₀ r₁ : Run σ} {a : Ask}

/-- What comes after the request. -/
theorem bind (h : GoesOn m r r₁ a) (hf : ∀ x, Along SentMore (f x)) : GoesOn (m >>= f) r r₁ a where
  sent hw := reading_sentMore.onward (h.sent hw) (reading_sentMore.after_first hf r)
  unmade he := eval_bind_of_error (h.unmade he)

/-- What comes before it. -/
theorem after {x : α} (hfirst : m.eval r = (.ok x, r₀)) (h : GoesOn (f x) r₀ r₁ a) :
    GoesOn (m >>= f) r r₁ a := by
  constructor
  · intro w hw
    rw [eval_bind_of_ok hfirst]
    exact h.sent hw
  · intro e he
    rw [eval_bind_of_ok hfirst]
    exact h.unmade he

end GoesOn

/-! ## going on from a name -/

/-- An activity looks up the namespace of an environment and the name of a deployment config, and goes
on from there.  Without a name it fails. -/
structure GoesOnByName (m : Client σ α) (space app environment : String)
    (next : String → String → Ask) : Prop where
  named {ns name : String} {r r₁ : Run σ} : r.session.environments.lookup environment = some ns →
    (configNameIn ns app space).eval r = (.ok name, r₁) → GoesOn m r r₁ (next ns name)
  unnamed {ns : String} {e : Failure} {r r₁ : Run σ} :
    r.session.environments.lookup environment = some ns →
    (configNameIn ns app space).eval r = (.error e, r₁) → m.eval r = (.error e, r₁)

section

variable {space app environment ns name : String} {r r₁ : Run σ}

/-- What goes on to a request does so whatever comes after it. -/
theorem GoesOnByName.bind {m : Client σ α} {f : α → Client σ β} {next : String → String → Ask}
    (h : GoesOnByName m space app environment next) (hf : ∀ x, Along SentMore (f x)) :
    GoesOnByName (m >>= f) space app environment next where
  named hns hname := (h.named hns hname).bind hf
  unnamed hns hname := eval_bind_of_error (h.unnamed hns hname)

theorem goesOn_deploymentNamed (ns name space : String) (r : Run σ) :
    GoesOn (deploymentNamed ns name space) r r (configAsk ns name) := by
  have hR := reading_sentMore (σ := σ)
  have hconfig : GoesOn (deploymentConfig? ns name) r r (configAsk ns name) := by
    refine (goesOn_getResource? _ true [] r).bind fun found => ?_
    cases found with
    | none => exact hR.here
    | some d => exact hR.bind (hR.outcome _) fun _ => hR.here
  refine hconfig.bind fun found => ?_
  cases found with
  | none => exact hR.here
  | some dc => exact hR.bind (hR.outcome _) fun _ => hR.here

/-- Once the name is known, the deployment config is asked for. -/
theorem goesOn_currentDeployment (hname : (configNameIn ns app space).eval r = (.ok name, r₁)) :
    GoesOn (currentDeployment space app ns) r r₁ (configAsk ns name) := by
  have hR := reading_sentMore (σ := σ)
  have hresolve : GoesOn (resolve space app ns) r r₁ (configAsk ns name) := by
    refine GoesOn.after hname ((goesOn_deploymentNamed ns name space r₁).bind fun found => ?_)
    cases found with
    | none => exact hR.here
    | some d =>
        exact hR.bind (hR.along (uses_readCore _).fetched) fun _ =>
          hR.bind (hR.outcome _) fun _ => hR.here
  refine hresolve.bind fun found => ?_
  split
  · exact hR.here
  split
  · exact hR.here
  split
  · exact hR.here
  · exact hR.bind (hR.along (uses_controlledPods ns _).fetched) fun _ => hR.here

/-- Going on with the current deployment goes on from the name of its deployment config. -/
theorem goesOnByName_throughCurrent
    {k : String → Deployment → ReplicationController → List Pod → Client σ α}
    (hk : ∀ ns d rc found, Along SentMore (k ns d rc found)) :
    GoesOnByName (throughCurrent space app environment k) space app environment configAsk where
  named {ns name r r₁} hns hname := by
    have hR := reading_sentMore (σ := σ)
    have hknown := eval_environmentNamespace_eq_ok_iff.mpr ⟨hns, rfl⟩
    refine GoesOn.after hknown ((goesOn_currentDeployment hname).bind fun current => ?_)
    rcases current with _ | ⟨d, rc, found⟩
    · exact hR.here
    · exact hR.bind (hk ns d rc found) fun _ => hR.here
  unnamed {ns e r r₁} hns hname := by
    have hknown := eval_environmentNamespace_eq_ok_iff.mpr ⟨hns, rfl⟩
    unfold throughCurrent
    rw [eval_bind_of_ok hknown]
    exact eval_bind_of_error (eval_bind_of_error (eval_bind_of_error hname))

/-- Setting a number of pods sends what it sends behind everything else. -/
theorem along_storeCount (ns name : String) (count : Int) (d : Document) :
    Along SentMore (storeCount ns name count d : Client σ Int) := by
  have hR := reading_sentMore (σ := σ)
  refine hR.bind (hR.outcome _) fun scale => ?_
  split
  · exact hR.here
  · next changed _ =>
      refine hR.bind (fun r => ?_) fun _ => hR.outcome _
      obtain ⟨e, heval⟩ | ⟨w, -, hafter⟩ := (asksOnly_putScale ns name changed r).sent_or_not
      · rw [heval]
        exact hR.here r
      · rw [hafter]
        exact ⟨_, rfl⟩

/-- Scaling goes on to reading the scale under this name. -/
theorem goesOnByName_scale (count : Int) :
    GoesOnByName (scaleDeployment space app environment count : Client σ Int) space app environment
      readScaleAsk where
  named {ns name r r₁} hns hname := by
    have hR := reading_sentMore (σ := σ)
    have hknown := eval_environmentNamespace_eq_ok_iff.mpr ⟨hns, rfl⟩
    have hread : GoesOn (scaleDocument ns name) r₁ r₁ (readScaleAsk ns name) :=
      (goesOn_getResource? _ false [] r₁).bind fun _ => hR.here
    rw [scaleDeployment_eq]
    exact GoesOn.after hknown (GoesOn.after hname (hread.bind (along_storeCount ns name count)))
  unnamed hns hname := by
    have hknown := eval_environmentNamespace_eq_ok_iff.mpr ⟨hns, rfl⟩
    rw [scaleDeployment_eq, eval_bind_of_ok hknown]
    exact eval_bind_of_error hname

end

/-- The request for the deployment config, or that for its scale. -/
def Guard.configAsk (ns name : String) : Guard → Ask
  | scale _ => readScaleAsk ns name
  | deployment | usage _ | usageSeries _ _ _ => Rollout.configAsk ns name

/-- The operations on deployments go on from the name of the deployment config. -/
theorem Guard.goesOnByName (g : Guard) (space app environment : String) :
    GoesOnByName (g.operation space app environment).perform space app environment
      (fun ns name => g.configAsk ns name) (σ := σ) := by
  have hR := reading_sentMore (σ := σ)
  cases g with
  | deployment =>
      simp only [operation, Operation.perform, getDeployment_eq]
      refine (goesOnByName_throughCurrent fun ns d rc found r => ?_).bind fun _ => hR.here
      obtain ⟨k, -, later, -, hlater⟩ := asksUpTo_showDeployment environment ns d rc found r
      exact ⟨later, hlater⟩
  | scale count => exact (goesOnByName_scale count).bind fun _ => hR.here
  | usage start =>
      simp only [operation, Operation.perform, getUsage_eq]
      refine (goesOnByName_throughCurrent fun ns d rc found r => ?_).bind fun _ => hR.here
      obtain ⟨ws, hws, -⟩ := along_showUsage start ns found r
      exact ⟨_, hws⟩
  | usageSeries start finish limit =>
      simp only [operation, Operation.perform, getUsageSeries_eq]
      refine (goesOnByName_throughCurrent fun ns d rc found r => ?_).bind fun _ => hR.here
      obtain ⟨ws, hws, -⟩ := along_showUsageSeries start finish limit ns found r
      exact ⟨_, hws⟩

end Rollout
