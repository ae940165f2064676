import Rollout.Deployment.Current
import Rollout.Proofs.Outcomes

/-!
# Rollout.Proofs.Ownership

What belongs to what: resources to their owners, and deployment configs to spaces.

* `Metadata.HasController` — one resource is controlled by the owner with a UID;
* `mem_owned_iff`, `mem_of_currentController` — owned resources, and the current one of several
  controllers;
* `Deployment.ofConfig_eq_ok_iff`, `Deployment.ofConfig_of_otherSpace` — the deployment configs that
  are accepted as ones of a space, and what is said of one of another space.
-/

namespace Rollout

/-- A text counts if it is there and not empty. -/
theorem nonEmpty?_eq_some_iff {s : Option String} {t : String} :
    nonEmpty? s = some t ↔ s = some t ∧ t ≠ "" := by
  rw [nonEmpty?, Option.filter_eq_some_iff]
  simp

/-! ## owners -/

/-- One of the owner references of a resource is to the owner with the given UID, and is marked as
the controlling one. -/
def Metadata.HasController (m : Metadata) (uid : String) : Prop :=
  ∃ o ∈ m.owners, o.uid = uid ∧ o.controller = some true

/-- Whether an owner is the controller can be decided. -/
theorem Metadata.controlledBy_iff {m : Metadata} {uid : String} :
    m.controlledBy uid = true ↔ m.HasController uid := by
  simp [controlledBy, HasController]

/-- Owned resources are listed, and controlled by their owner. -/
theorem mem_owned_iff {α : Type} {metadata : α → Metadata} {items : List α} {uid : String} {a : α} :
    a ∈ owned metadata items uid ↔ a ∈ items ∧ (metadata a).HasController uid := by
  rw [owned, List.mem_filter, Metadata.controlledBy_iff]

/-- Where each step of a fold keeps one of two, the result is one of all. -/
theorem mem_of_foldlM {α : Type} {f : α → α → Outcome α}
    (hf : ∀ a b c, f a b = .ok c → c = a ∨ c = b) {items : List α} {first last : α}
    (h : items.foldlM f first = .ok last) : last ∈ first :: items := by
  have hstep {seen : List α} {kept next kept' : α} (hkept : kept ∈ first :: seen)
      (hnext : f kept next = .ok kept') : kept' ∈ first :: (seen ++ [next]) := by
    rw [← List.cons_append, List.mem_append, List.mem_singleton]
    obtain rfl | rfl := hf _ _ _ hnext
    · exact .inl hkept
    · exact .inr rfl
  exact Outcome.foldlM_preserves (I := fun seen kept => kept ∈ first :: seen) hstep
    (List.mem_singleton_self first) h

/-- The current one of several controllers is one of them. -/
theorem mem_of_currentController {rcs : List ReplicationController} {rc : ReplicationController}
    (h : currentController rcs = .ok (some rc)) : rc ∈ rcs := by
  cases rcs with
  | nil => cases h
  | cons first rest =>
      rw [currentController] at h
      obtain ⟨last, hfold, h⟩ := Outcome.bind_eq_ok_iff.mp h
      cases h
      refine mem_of_foldlM (fun current next kept hkept => ?_) hfold
      obtain ⟨later, -, hkept⟩ := Outcome.bind_eq_ok_iff.mp hkept
      cases hkept
      cases later with
      | true => exact .inr rfl
      | false => exact .inl rfl

/-! ## spaces -/

namespace Deployment

/-- A deployment config is accepted if its labels name the space and a version, and if it has a
UID. -/
theorem ofConfig_eq_ok_iff {dc : DeploymentConfig} {config space : String} {d : Deployment} :
    ofConfig dc config space = .ok d ↔
      (dc.metadata.labels.lookup "space" = some space ∧ space ≠ "") ∧
        (dc.metadata.uid = some d.uid ∧ d.uid ≠ "") ∧
        (dc.metadata.labels.lookup "version" = some d.version ∧ d.version ≠ "") ∧
        d.config = config ∧ d.current = none := by
  rw [← nonEmpty?_eq_some_iff, ← nonEmpty?_eq_some_iff, ← nonEmpty?_eq_some_iff]
  unfold ofConfig
  simp only
  cases nonEmpty? (dc.metadata.labels.lookup "space") with
  | none => simp
  | some actual =>
      by_cases hspace : actual = space
      · cases nonEmpty? dc.metadata.uid with
        | none => simp [hspace]
        | some uid =>
            cases nonEmpty? (dc.metadata.labels.lookup "version") with
            | none => simp [hspace]
            | some version =>
                obtain ⟨config', uid', version', current'⟩ := d
                simp [hspace, eq_comm, and_left_comm]
      · simp [hspace]

/-- A deployment config that is labelled with another space is refused. -/
theorem ofConfig_of_otherSpace {dc : DeploymentConfig} {actual space : String} (config : String)
    (hlabel : dc.metadata.labels.lookup "space" = some actual) (hactual : actual ≠ "")
    (hspace : actual ≠ space) :
    ofConfig dc config space = .error (.otherSpace config actual space) := by
  have hlabel' : nonEmpty? (dc.metadata.labels.lookup "space") = some actual :=
    nonEmpty?_eq_some_iff.mpr ⟨hlabel, hactual⟩
  unfold ofConfig
  simp only [hlabel']
  rw [if_pos hspace]

end Deployment

end Rollout
