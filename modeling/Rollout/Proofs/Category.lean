import Rollout.Deployment.Health
import Rollout.Proofs.Ownership

/-!
# Rollout.Proofs.Category

The word for the state of a pod, by rules.

* `LongBefore`, `ContainerStatus.IsTroubled` — more than five minutes have passed; something is wrong
  with a container of a running pod;
* `Pod.IsCalled` — the rules that give a pod its word, by its phase;
* `firstWarning_eq` — the scan over the containers stops at the first troubled one;
* `category_calls` — a pod has a word, and the rules give it this one and no other.
-/

namespace Rollout

/-! ## time -/

/-- More than five minutes lie between a moment and the present.  A moment without an offset is one
of UTC, and an unknown one is never so far back. -/
def LongBefore (now : DateTime) (since : Option DateTime) : Prop :=
  ∃ t ∈ since, t.orUtc.instant + 300 * DateTime.second < now.instant

instance (now : DateTime) (since : Option DateTime) : Decidable (LongBefore now since) :=
  inferInstanceAs (Decidable (∃ t ∈ since, _))

/-- Taking a time without an offset for universal time does not move it. -/
theorem DateTime.instant_orUtc (t : DateTime) : t.orUtc.instant = t.instant := rfl

/-- Against a present that has an offset, every moment can be compared. -/
theorem overdue_eq {now : DateTime} (hnow : now.offset.isSome = true) (since : Option DateTime) :
    overdue now since = .ok (decide (LongBefore now since)) := by
  cases since with
  | none => simp [overdue, LongBefore]
  | some t =>
      have hlong : LongBefore now (some t) ↔ patience < now.instant - t.instant := by
        simp only [LongBefore, Option.mem_some_iff, exists_eq_left', DateTime.instant_orUtc, patience,
          DateTime.minute, DateTime.second]
        omega
      rw [overdue, if_pos hnow, decide_eq_decide.mpr hlong]

/-! ## containers -/

namespace ContainerStatus

/-- The container has ended, and not well. -/
def HasFailed (s : ContainerStatus) : Prop := ∃ ended ∈ s.state.terminated, ended.exitCode ≠ 0

/-- The container waits, and for this reason. -/
def WaitsFor (reason : String) (s : ContainerStatus) : Prop :=
  ∃ waiting ∈ s.state.waiting, waiting.reason = some reason

/-- The container has been running for long, and is not ready. -/
def IsLate (now : DateTime) (s : ContainerStatus) : Prop :=
  s.ready = false ∧ ∃ running ∈ s.state.running, LongBefore now running.started

/-- Something is wrong with the container of a running pod. -/
def IsTroubled (now : DateTime) (s : ContainerStatus) : Prop :=
  s.HasFailed ∨ s.WaitsFor "CrashLoopBackOff" ∨ s.IsLate now

/-- A container crashes in a loop, and has not just ended badly, which would only be a warning. -/
def IsSevere (s : ContainerStatus) : Prop := s.WaitsFor "CrashLoopBackOff" ∧ ¬ s.HasFailed

/-- The trouble of a container of a pod is a bad one.  In a pod that is being deleted, a container must
not have ended badly either. -/
def IsSevereIn (pod : Metadata) (s : ContainerStatus) : Prop :=
  s.IsSevere ∨ s.HasFailed ∧ pod.deleted.isSome = true

instance (s : ContainerStatus) : Decidable s.HasFailed :=
  inferInstanceAs (Decidable (∃ ended ∈ s.state.terminated, _))

instance (reason : String) : DecidablePred (WaitsFor reason) := fun s =>
  inferInstanceAs (Decidable (∃ waiting ∈ s.state.waiting, _))

instance (now : DateTime) : DecidablePred (IsLate now) := fun s =>
  inferInstanceAs (Decidable (_ ∧ ∃ running ∈ s.state.running, _))

instance (now : DateTime) : DecidablePred (IsTroubled now) := fun s =>
  inferInstanceAs (Decidable (s.HasFailed ∨ s.WaitsFor _ ∨ s.IsLate now))

instance : DecidablePred IsSevere := fun s =>
  inferInstanceAs (Decidable (s.WaitsFor _ ∧ ¬ s.HasFailed))

instance (pod : Metadata) : DecidablePred (IsSevereIn pod) := fun s =>
  inferInstanceAs (Decidable (s.IsSevere ∨ s.HasFailed ∧ pod.deleted.isSome = true))

/-- In a pod that stays, only the container itself decides what is severe. -/
theorem isSevereIn_of_stays {pod : Metadata} (hstays : pod.deleted = none) (s : ContainerStatus) :
    s.IsSevereIn pod ↔ s.IsSevere := by
  simp [IsSevereIn, hstays]

/-- A container has failed if it ended with a code that is not zero. -/
theorem any_terminated_eq (s : ContainerStatus) :
    s.state.terminated.any (·.exitCode ≠ 0) = decide s.HasFailed := by
  cases h : s.state.terminated <;> simp [HasFailed, h]

/-- A container waits for a reason if that is the one it gives. -/
theorem any_waiting_eq (s : ContainerStatus) (reason : String) :
    s.state.waiting.any (·.reason = some reason) = decide (s.WaitsFor reason) := by
  cases h : s.state.waiting <;> simp [WaitsFor, h]

/-- The status of a container is a warning if the container is troubled. -/
theorem warning?_eq {now : DateTime} (hnow : now.offset.isSome = true) (pod : Metadata)
    (s : ContainerStatus) :
    s.warning? pod now =
      .ok (if s.IsTroubled now then some ⟨true, decide (s.IsSevereIn pod)⟩ else none) := by
  unfold warning?
  rw [any_terminated_eq, any_waiting_eq]
  by_cases hfailed : s.HasFailed
  · have htroubled : s.IsTroubled now := .inl hfailed
    have hsevere : s.IsSevereIn pod ↔ pod.deleted.isSome = true := by
      simp [IsSevereIn, IsSevere, hfailed]
    simp [hfailed, htroubled, hsevere, pure, Except.pure]
  by_cases hloops : s.WaitsFor "CrashLoopBackOff"
  · have htroubled : s.IsTroubled now := .inr (.inl hloops)
    have hsevere : s.IsSevereIn pod := .inl ⟨hloops, hfailed⟩
    simp [hfailed, hloops, htroubled, hsevere, pure, Except.pure]
  have hsevere : ¬ s.IsSevereIn pod := by simp [IsSevereIn, IsSevere, hloops, hfailed]
  have htroubled : s.IsTroubled now ↔ s.IsLate now := by
    simp only [IsTroubled, hfailed, hloops, false_or]
  simp only [hfailed, hloops, hsevere, htroubled, decide_false, Bool.false_eq_true, if_false]
  -- What is left to look at is how long the container has been running without being ready.
  obtain ⟨name, ready, waiting, running, terminated⟩ := s
  cases running with
  | none => simp [IsLate, pure, Except.pure]
  | some running =>
      cases ready with
      | true => simp [IsLate, pure, Except.pure]
      | false => simp [IsLate, overdue_eq hnow, pure, Except.pure, bind, Except.bind]

end ContainerStatus

/-- The scan over the containers of a pod ends at the first one that is troubled. -/
theorem firstWarning_eq {now : DateTime} (hnow : now.offset.isSome = true) (pod : Metadata)
    (statuses : List ContainerStatus) :
    firstWarning pod now statuses =
      .ok ((statuses.find? (·.IsTroubled now)).map fun s => ⟨true, decide (s.IsSevereIn pod)⟩) := by
  induction statuses with
  | nil => rfl
  | cons s rest ih =>
      rw [firstWarning, ContainerStatus.warning?_eq hnow]
      by_cases htroubled : s.IsTroubled now
      · simp [htroubled, bind, Except.bind, pure, Except.pure]
      · simpa [htroubled, bind, Except.bind] using ih

/-! ## rules -/

namespace Pod

/-- The words for a pod that is pending. -/
inductive IsCalledPending (p : Pod) (now : DateTime) : String → Prop where
  | late : LongBefore now p.metadata.created → IsCalledPending p now "Warning"
  | pulling {s : ContainerStatus} : ¬ LongBefore now p.metadata.created →
    s ∈ p.status.containers → s.WaitsFor "ContainerCreating" → IsCalledPending p now "Pulling"
  | waiting : ¬ LongBefore now p.metadata.created →
    (∀ s ∈ p.status.containers, ¬ s.WaitsFor "ContainerCreating") →
    IsCalledPending p now "Pending"

/-- The words for a pod that is running.  If something is wrong, the first troubled container tells
how badly. -/
inductive IsCalledRunning (p : Pod) (now : DateTime) : String → Prop where
  | error {s : ContainerStatus} : p.status.containers.find? (·.IsTroubled now) = some s →
    s.IsSevere → IsCalledRunning p now "Error"
  | warning {s : ContainerStatus} : p.status.containers.find? (·.IsTroubled now) = some s →
    ¬ s.IsSevere → IsCalledRunning p now "Warning"
  | notReady : (∀ s ∈ p.status.containers, ¬ s.IsTroubled now) →
    p.status.containers.countP (·.ready) ≠ p.spec.containers.length →
    IsCalledRunning p now "Not Ready"
  | running : (∀ s ∈ p.status.containers, ¬ s.IsTroubled now) →
    p.status.containers.countP (·.ready) = p.spec.containers.length →
    IsCalledRunning p now "Running"

/-- The word for a pod.  One that is being deleted has its own; for another one it depends on its
phase. -/
inductive IsCalled (p : Pod) (now : DateTime) : String → Prop where
  | terminating : p.metadata.deleted.isSome = true → IsCalled p now "Terminating"
  | unknown : p.metadata.deleted = none → p.status.phase = some "Unknown" →
    IsCalled p now "Warning"
  | pending {word : String} : p.metadata.deleted = none → p.status.phase = some "Pending" →
    p.IsCalledPending now word → IsCalled p now word
  | running {word : String} : p.metadata.deleted = none → p.status.phase = some "Running" →
    p.IsCalledRunning now word → IsCalled p now word
  | other {phase : String} : p.metadata.deleted = none → p.status.phase = some phase →
    phase ∉ ["Unknown", "Pending", "Running", ""] → IsCalled p now phase
  | missing : p.metadata.deleted = none → p.status.phase = none ∨ p.status.phase = some "" →
    IsCalled p now "Unknown"

/-! ## what the rules give -/

section

variable {p : Pod} {now : DateTime}

/-- A pod in an unknown phase is warned of, and it is not severe. -/
theorem warning_of_unknown (hphase : p.status.phase = some "Unknown") :
    p.warning now = .ok ⟨true, false⟩ := by
  unfold warning
  rw [if_pos hphase]
  rfl

/-- A pending pod is warned of once it has been there for long. -/
theorem warning_of_pending (hnow : now.offset.isSome = true)
    (hphase : p.status.phase = some "Pending") :
    p.warning now = .ok ⟨decide (LongBefore now p.metadata.created), false⟩ := by
  unfold warning
  rw [hphase, if_neg (by decide), if_pos rfl, overdue_eq hnow]
  rfl

/-- A running pod is judged by its first container in trouble. -/
theorem warning_of_running (hnow : now.offset.isSome = true)
    (hphase : p.status.phase = some "Running") :
    p.warning now = .ok (((p.status.containers.find? (·.IsTroubled now)).map fun s =>
      ⟨true, decide (s.IsSevereIn p.metadata)⟩).getD ⟨false, false⟩) := by
  unfold warning
  rw [hphase, if_neg (by decide), if_neg (by decide), if_pos rfl, firstWarning_eq hnow]
  rfl

/-- A pod in any other phase is not warned of. -/
theorem warning_of_other (hunknown : p.status.phase ≠ some "Unknown")
    (hpending : p.status.phase ≠ some "Pending") (hrunning : p.status.phase ≠ some "Running") :
    p.warning now = .ok ⟨false, false⟩ := by
  unfold warning
  rw [if_neg hunknown, if_neg hpending, if_neg hrunning]
  rfl

/-- A pod is pulling an image if it is pending and a container of it is being created. -/
theorem isPulling_iff : p.isPulling = true ↔ p.status.phase = some "Pending" ∧
    ∃ s ∈ p.status.containers, s.WaitsFor "ContainerCreating" := by
  unfold isPulling
  simp only [ContainerStatus.any_waiting_eq, Bool.and_eq_true, decide_eq_true_eq, List.any_eq_true]

theorem isPulling_eq_false (hphase : p.status.phase ≠ some "Pending") : p.isPulling = false := by
  rw [Bool.eq_false_iff]
  exact fun h => hphase (isPulling_iff.mp h).1

/-- A phase that is there is a word of its own. -/
theorem nonEmpty?_phase {word : String} (hphase : p.status.phase = some word) (hword : word ≠ "") :
    (nonEmpty? p.status.phase).getD "Unknown" = word := by
  rw [nonEmpty?_eq_some_iff.mpr ⟨hphase, hword⟩]
  rfl

/-- A pod that is being deleted is terminating, whatever else is said of it. -/
theorem category_of_deleted (h : p.metadata.deleted.isSome = true) :
    p.category now = .ok "Terminating" := by
  unfold category
  rw [if_pos h]
  rfl

/-- A warning comes before everything else that a pod that stays is called. -/
theorem category_of_warning {w : Warning} (hstays : p.metadata.deleted = none)
    (hwarning : p.warning now = .ok w) :
    p.category now =
      .ok (if w.raised then (if w.severe then "Error" else "Warning")
        else if p.isPulling then "Pulling"
        else if p.status.phase = some "Running" ∧ p.isReady = false then "Not Ready"
        else (nonEmpty? p.status.phase).getD "Unknown") := by
  unfold category
  rw [hstays, hwarning]
  simp only [Option.isSome_none, Bool.false_eq_true, if_false, bind, Except.bind,
    Bool.not_eq_true']
  split
  · split <;> rfl
  split
  · rfl
  split <;> rfl

/-- A pending pod has the category that it is called. -/
theorem IsCalledPending.category_eq {word : String} (hnow : now.offset.isSome = true)
    (hstays : p.metadata.deleted = none) (hphase : p.status.phase = some "Pending")
    (h : p.IsCalledPending now word) : p.category now = .ok word := by
  rw [category_of_warning hstays (warning_of_pending hnow hphase),
    nonEmpty?_phase hphase (by decide), hphase]
  cases h with
  | late hlate => simp [hlate]
  | pulling hnew hs hwaits =>
      have hpulling : p.isPulling = true := isPulling_iff.mpr ⟨hphase, _, hs, hwaits⟩
      simp [hnew, hpulling]
  | waiting hnew hnone =>
      have hpulling : ¬ p.isPulling = true := fun h =>
        let ⟨s, hs, hwaits⟩ := (isPulling_iff.mp h).2
        hnone s hs hwaits
      simp [hnew, hpulling]

/-- A running pod has the category that it is called. -/
theorem IsCalledRunning.category_eq {word : String} (hnow : now.offset.isSome = true)
    (hstays : p.metadata.deleted = none) (hphase : p.status.phase = some "Running")
    (h : p.IsCalledRunning now word) : p.category now = .ok word := by
  have hpulling : p.isPulling = false := isPulling_eq_false (by simp [hphase])
  rw [category_of_warning hstays (warning_of_running hnow hphase),
    nonEmpty?_phase hphase (by decide), hphase, hpulling]
  simp only [ContainerStatus.isSevereIn_of_stays hstays]
  have hfine (hall : ∀ s ∈ p.status.containers, ¬ s.IsTroubled now) :
      p.status.containers.find? (·.IsTroubled now) = none :=
    List.find?_eq_none.mpr fun s hs => by simpa using hall s hs
  cases h with
  | error hfirst hsevere => simp [hfirst, hsevere]
  | warning hfirst hsevere => simp [hfirst, hsevere]
  | notReady hall hready => simp [hfine hall, isReady, hready]
  | running hall hready => simp [hfine hall, isReady, hready]

/-- What the rules call a pod is its word. -/
theorem IsCalled.category_eq {word : String} (hnow : now.offset.isSome = true)
    (h : p.IsCalled now word) : p.category now = .ok word := by
  cases h with
  | terminating hdeleted => exact category_of_deleted hdeleted
  | unknown hstays hphase =>
      rw [category_of_warning hstays (warning_of_unknown hphase)]
      rfl
  | pending hstays hphase hcalled => exact hcalled.category_eq hnow hstays hphase
  | running hstays hphase hcalled => exact hcalled.category_eq hnow hstays hphase
  | other hstays hphase hother =>
      simp only [List.mem_cons, List.not_mem_nil, or_false, not_or] at hother
      obtain ⟨hunknown, hpending, hrunning, hempty⟩ := hother
      have hwarning : p.warning now = .ok ⟨false, false⟩ :=
        warning_of_other (by simpa [hphase]) (by simpa [hphase]) (by simpa [hphase])
      have hpulling : p.isPulling = false := isPulling_eq_false (by simpa [hphase])
      rw [category_of_warning hstays hwarning, nonEmpty?_phase hphase hempty, hphase, hpulling]
      simp [hrunning]
  | missing hstays hphase =>
      have hne (word : String) (hword : word ≠ "") : p.status.phase ≠ some word := by
        rcases hphase with h | h <;> simp [h, Ne.symm hword]
      have hwarning : p.warning now = .ok ⟨false, false⟩ :=
        warning_of_other (hne _ (by decide)) (hne _ (by decide)) (hne _ (by decide))
      have hpulling : p.isPulling = false := isPulling_eq_false (hne _ (by decide))
      have hnone : nonEmpty? p.status.phase = none := by
        rcases hphase with h | h <;> simp [h, nonEmpty?]
      rw [category_of_warning hstays hwarning, hpulling, hnone]
      simp [hne "Running" (by decide)]

/-- Every pod is called something, taken as a pending one. -/
theorem exists_isCalledPending (p : Pod) (now : DateTime) :
    ∃ word, p.IsCalledPending now word := by
  by_cases hlate : LongBefore now p.metadata.created
  · exact ⟨_, .late hlate⟩
  by_cases hpulling : ∃ s ∈ p.status.containers, s.WaitsFor "ContainerCreating"
  · obtain ⟨s, hs, hwaits⟩ := hpulling
    exact ⟨_, .pulling hlate hs hwaits⟩
  · exact ⟨_, .waiting hlate fun s hs hwaits => hpulling ⟨s, hs, hwaits⟩⟩

/-- And so it is, taken as a running one. -/
theorem exists_isCalledRunning (p : Pod) (now : DateTime) :
    ∃ word, p.IsCalledRunning now word := by
  cases hfirst : p.status.containers.find? (·.IsTroubled now) with
  | some s =>
      by_cases hsevere : s.IsSevere
      · exact ⟨_, .error hfirst hsevere⟩
      · exact ⟨_, .warning hfirst hsevere⟩
  | none =>
      have hfine : ∀ s ∈ p.status.containers, ¬ s.IsTroubled now := by
        simpa using List.find?_eq_none.mp hfirst
      by_cases hready : p.status.containers.countP (·.ready) = p.spec.containers.length
      · exact ⟨_, .running hfine hready⟩
      · exact ⟨_, .notReady hfine hready⟩

/-- The rules leave no pod without a word. -/
theorem exists_isCalled (p : Pod) (now : DateTime) : ∃ word, p.IsCalled now word := by
  by_cases hdeleted : p.metadata.deleted.isSome = true
  · exact ⟨_, .terminating hdeleted⟩
  have hstays : p.metadata.deleted = none := by simpa using hdeleted
  by_cases hmissing : p.status.phase = none ∨ p.status.phase = some ""
  · exact ⟨_, .missing hstays hmissing⟩
  obtain ⟨hnone, hempty⟩ := not_or.mp hmissing
  obtain ⟨phase, hphase⟩ := Option.ne_none_iff_exists'.mp hnone
  by_cases hunknown : phase = "Unknown"
  · exact ⟨_, .unknown hstays (hunknown ▸ hphase)⟩
  by_cases hpending : phase = "Pending"
  · obtain ⟨word, hword⟩ := exists_isCalledPending p now
    exact ⟨word, .pending hstays (hpending ▸ hphase) hword⟩
  by_cases hrunning : phase = "Running"
  · obtain ⟨word, hword⟩ := exists_isCalledRunning p now
    exact ⟨word, .running hstays (hrunning ▸ hphase) hword⟩
  · have hne : phase ≠ "" := by
      rintro rfl
      exact hempty hphase
    have hother : phase ∉ ["Unknown", "Pending", "Running", ""] := by
      simp [hunknown, hpending, hrunning, hne]
    exact ⟨phase, .other hstays hphase hother⟩

/-- Against a present that has an offset, every pod has a word. -/
theorem exists_category (p : Pod) (hnow : now.offset.isSome = true) :
    ∃ word, p.category now = .ok word := by
  obtain ⟨word, hcalled⟩ := exists_isCalled p now
  exact ⟨word, hcalled.category_eq hnow⟩

/-- A pod has a word, and the rules call it this word and no other. -/
theorem category_calls (p : Pod) (hnow : now.offset.isSome = true) :
    (∃ word, p.category now = .ok word) ∧
      ∀ word, p.category now = .ok word ↔ p.IsCalled now word := by
  refine ⟨p.exists_category hnow, fun word => ⟨fun hword => ?_, fun h => h.category_eq hnow⟩⟩
  obtain ⟨called, hcalled⟩ := exists_isCalled p now
  cases hword.symm.trans (hcalled.category_eq hnow)
  exact hcalled

end

/-- A running pod of two containers.  The first one started at the beginning of 1970 and is not ready,
the second one crashes in a loop. -/
def looping : Pod where
  metadata := {}
  spec := ⟨[⟨"first", none, {}⟩, ⟨"second", none, {}⟩]⟩
  status := ⟨some "Running", [
    ⟨some "first", false, { running := some ⟨some ⟨DateTime.epoch, none⟩⟩ }⟩,
    ⟨some "second", false, { waiting := some ⟨some "CrashLoopBackOff"⟩ }⟩]⟩

/-- Five minutes after the beginning of 1970, on a clock that is an hour ahead of UTC. -/
def fiveMinutesIn : DateTime := ⟨DateTime.epoch + 65 * DateTime.minute, some (60 * DateTime.minute)⟩

/-- Five minutes are not too long yet, so the loop of the second container is what counts. -/
theorem looping_calls :
    fiveMinutesIn.offset.isSome = true ∧ looping.category fiveMinutesIn = .ok "Error" ∧
      looping.IsCalled fiveMinutesIn "Error" := by
  have hnow : fiveMinutesIn.offset.isSome = true := rfl
  have hcalls := looping.category_calls hnow
  have hfirst : looping.status.containers.find? (·.IsTroubled fiveMinutesIn) =
      some ⟨some "second", false, { waiting := some ⟨some "CrashLoopBackOff"⟩ }⟩ := by decide +kernel
  have hcalled : looping.IsCalled fiveMinutesIn "Error" :=
    .running rfl rfl (.error hfirst (by decide +kernel))
  exact ⟨hnow, (hcalls.2 "Error").mpr hcalled, hcalled⟩

end Pod

end Rollout
