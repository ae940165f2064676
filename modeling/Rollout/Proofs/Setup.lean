import Rollout.Proofs.Consultation

/-!
# Rollout.Proofs.Setup

What a client is opened with stays.

* `SameSetup` — the same configuration and the same environments;
* `sameSetup_consult`, `sameSetup_step`, `sameSetup_after` — checks, steps and whole runs keep them,
  whatever the cluster answers.
-/

namespace Rollout

open Client

variable {σ : Type} [Cluster σ]

/-- A client was opened with the same configuration, and knows the same environments. -/
structure SameSetup (r r' : Run σ) : Prop where
  config : r'.session.config = r.session.config
  environments : r'.session.environments = r.session.environments

namespace SameSetup

variable {r r₁ r₂ : Run σ}

omit [Cluster σ] in
theorem refl (r : Run σ) : SameSetup r r := ⟨rfl, rfl⟩

omit [Cluster σ] in
theorem trans (h : SameSetup r r₁) (h' : SameSetup r₁ r₂) : SameSetup r r₂ :=
  ⟨h'.config.trans h.config, h'.environments.trans h.environments⟩

omit [Cluster σ] in
/-- Requirements of an environment are judged in the same namespace. -/
theorem namespaceFor (h : SameSetup r r₁) (environment : String) :
    r₁.session.namespaceFor environment = r.session.namespaceFor environment := by
  unfold Session.namespaceFor
  rw [h.config, h.environments]

end SameSetup

/-- Reading operations keep the setup. -/
theorem reading_sameSetup : Reading (σ := σ) SameSetup where
  here := .refl
  onward := .trans
  core _ _ := ⟨rfl, rfl⟩
  web _ _ _ := ⟨rfl, rfl⟩
  metrics _ _ := ⟨rfl, rfl⟩

/-! ## checks -/

/-- A consultation keeps the setup. -/
theorem Consultation.sameSetup_after (q : Consultation σ) : SameSetup q.before q.after := by
  obtain h | ⟨w, -, h⟩ | ⟨w, review, -, -, -, h⟩ := q.after_eq
  · rw [h]
    exact .refl _
  · rw [h]
    exact ⟨rfl, rfl⟩
  · rw [h]
    exact ⟨rfl, rfl⟩

/-- So do several of them. -/
theorem sameSetup_consult (demands : List (String × List Requirement)) (r : Run σ) :
    SameSetup r (consult demands r).2.2 := by
  induction demands generalizing r with
  | nil => exact .refl r
  | cons demand rest ih =>
      obtain ⟨environment, required⟩ := demand
      rw [consult]
      cases r.session.namespaceFor environment with
      | error e => exact .refl r
      | ok ns =>
          have hafter : SameSetup r (Consultation.mk ns required r).after :=
            (Consultation.mk ns required r).sameSetup_after
          simp only
          rcases (Consultation.mk ns required r).answer with e | _ | _
          · exact hafter
          · exact hafter
          · exact hafter.trans (ih _)

/-- So does every check. -/
theorem sameSetup_ask (c : Check) (r : Run σ) : SameSetup r (c.ask.eval r).2 := by
  rw [eval_ask]
  exact sameSetup_consult _ r

theorem sameSetup_of_ask {c : Check} {r r₁ : Run σ} {answer : Outcome Bool}
    (h : c.ask.eval r = (answer, r₁)) : SameSetup r r₁ := by
  have hsetup := sameSetup_ask c r
  rw [h] at hsetup
  exact hsetup

/-! ## runs -/

/-- Every operation keeps the setup. -/
theorem sameSetup_perform (o : Operation) (r : Run σ) : SameSetup r (o.perform.eval r).2 := by
  have hgrants (ns : String) : Along SameSetup (grantsIn ns : Client σ Grants) :=
    fun r => (Consultation.mk ns [] r).sameSetup_after
  have hR := reading_sameSetup (σ := σ)
  by_cases ho : o.asksForRules = false
  · exact along_perform hR (fun _ _ _ _ => ⟨rfl, rfl⟩) (fun _ => ⟨rfl, rfl⟩) ho r
  · cases o <;> simp [Operation.asksForRules] at ho
    case check c => exact hR.bind (sameSetup_ask c) (fun _ _ => hR.here _) r
    case grants ns => exact hR.bind (hgrants ns) (fun _ _ => hR.here _) r

/-- A step leaves what the client was opened with as it was. -/
theorem sameSetup_step (r : Run σ) (step : Step σ) : SameSetup r (step.after r) := by
  cases step with
  | call o => exact sameSetup_perform o r
  | change world now => exact ⟨rfl, rfl⟩

/-- So does a run, whatever happens to the cluster on the way. -/
theorem sameSetup_after (steps : List (Step σ)) (r : Run σ) : SameSetup r (after steps r) := by
  induction steps generalizing r with
  | nil => exact .refl r
  | cons step rest ih => exact (sameSetup_step r step).trans (ih _)

end Rollout
