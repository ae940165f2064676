import Mathlib.Data.List.TakeWhile
import Rollout.Proofs.Category
import Rollout.Proofs.Moments

/-!
# Rollout.Proofs.Waiting

What becomes of the health of a pod while time passes and nothing else changes.

* `LongBefore.later`, `ContainerStatus.isTroubled_later_iff` — what is long ago stays long ago, and a
  container can only become troubled by being late;
* `find?_eq_or_of_imp` — the first match of a test that more things pass;
* `Pod.untroubled`, `Pod.IsOvertaken` — the containers in front of the first troubled one, and a pod
  whose severe trouble stands behind a container that has become late;
* `Pod.warning_later_of_running`, `Pod.ages_of_waiting` — waiting at most makes a warning a mild one.
  It makes a severe one mild exactly if the pod has been overtaken.
-/

namespace Rollout

/-! ## time -/

section

variable {now now' : DateTime} (hlater : DateTime.notBefore? now' now = some true)

include hlater

/-- What is long ago stays long ago. -/
theorem LongBefore.later {since : Option DateTime} (h : LongBefore now since) :
    LongBefore now' since := by
  obtain ⟨t, ht, hlong⟩ := h
  have hle := (DateTime.notBefore?_eq_true_iff.mp hlater).2
  exact ⟨t, ht, by omega⟩

namespace ContainerStatus

variable {s : ContainerStatus}

/-- What is late stays late. -/
theorem IsLate.later (h : s.IsLate now) : s.IsLate now' := by
  obtain ⟨hready, running, hrunning, hlong⟩ := h
  exact ⟨hready, running, hrunning, hlong.later hlater⟩

/-- A container that is troubled stays so, and another one can only become so by being late. -/
theorem isTroubled_later_iff : s.IsTroubled now' ↔ s.IsTroubled now ∨ s.IsLate now' := by
  constructor
  · rintro (hfailed | hloops | hlate)
    · exact .inl (.inl hfailed)
    · exact .inl (.inr (.inl hloops))
    · exact .inr hlate
  · rintro ((hfailed | hloops | hlate) | hlate)
    · exact .inl hfailed
    · exact .inr (.inl hloops)
    · exact .inr (.inr (hlate.later hlater))
    · exact .inr (.inr hlate)

end ContainerStatus

end

/-! ## the first troubled container -/

/-- If some more things pass a test, then the first one that passes it is one of those in front of the
one that was first, or still that one. -/
theorem find?_eq_or_of_imp {α : Type} {p q : α → Bool} {items : List α}
    (himp : ∀ a ∈ items, p a = true → q a = true) :
    items.find? q = ((items.takeWhile (!p ·)).find? q).or (items.find? p) := by
  induction items with
  | nil => rfl
  | cons a items ih =>
      have hrest := ih fun b hb => himp b (.tail _ hb)
      cases hp : p a with
      | true => simp [hp, himp a (.head _) hp]
      | false => cases hq : q a <;> simp [hp, hq, hrest]

/-- A container that was not troubled and is late is troubled, but not badly. -/
theorem ContainerStatus.not_isSevereIn_of_not_isTroubled {now : DateTime} {s : ContainerStatus}
    (h : ¬ s.IsTroubled now) (pod : Metadata) : ¬ s.IsSevereIn pod := by
  rintro (⟨hloops, -⟩ | ⟨hfailed, -⟩)
  · exact h (.inr (.inl hloops))
  · exact h (.inl hfailed)

/-! ## pods -/

/-- Something is wrong, but not badly. -/
def Warning.mild : Warning := ⟨true, false⟩

/-- How bad a warning is: nothing is wrong, something is, or something is badly wrong. -/
def Warning.rank (w : Warning) : Nat := if w.raised then (if w.severe then 2 else 1) else 0

theorem Warning.mild_rank_lt_iff {w : Warning} : mild.rank < w.rank ↔ w = ⟨true, true⟩ := by
  obtain ⟨raised, severe⟩ := w
  revert raised severe
  decide

namespace Pod

/-- The containers in front of the first one that is troubled. -/
def untroubled (p : Pod) (now : DateTime) : List ContainerStatus :=
  p.status.containers.takeWhile fun s => !decide (s.IsTroubled now)

/-- One of the containers in front of the first troubled one has become late. -/
def HasNewTrouble (p : Pod) (now now' : DateTime) : Prop :=
  ∃ s ∈ p.untroubled now, s.IsLate now'

instance (p : Pod) (now now' : DateTime) : Decidable (p.HasNewTrouble now now') :=
  inferInstanceAs (Decidable (∃ s ∈ p.untroubled now, s.IsLate now'))

/-- The first trouble of a running pod was a bad one, and a container in front of it has become
late. -/
structure IsOvertaken (p : Pod) (now now' : DateTime) : Prop where
  running : p.status.phase = some "Running"
  severe : ∃ s, p.status.containers.find? (·.IsTroubled now) = some s ∧ s.IsSevereIn p.metadata
  newTrouble : p.HasNewTrouble now now'

section

variable {p : Pod} {now now' : DateTime} (hnow : now.offset.isSome = true)
  (hlater : DateTime.notBefore? now' now = some true)

/-- The containers in front of the first troubled one are not troubled. -/
theorem not_isTroubled_of_mem_untroubled {s : ContainerStatus} (hs : s ∈ p.untroubled now) :
    ¬ s.IsTroubled now := by
  simpa using List.mem_takeWhile_imp hs

include hnow

/-- A running pod is overtaken if it was in severe trouble and there is new trouble. -/
theorem isOvertaken_iff (now' : DateTime) {w : Warning} (hphase : p.status.phase = some "Running")
    (hw : p.warning now = .ok w) :
    p.IsOvertaken now now' ↔ w = ⟨true, true⟩ ∧ p.HasNewTrouble now now' := by
  have hsevere : (∃ s, p.status.containers.find? (·.IsTroubled now) = some s ∧
      s.IsSevereIn p.metadata) ↔ w = ⟨true, true⟩ := by
    rw [warning_of_running hnow hphase] at hw
    cases hw
    cases p.status.containers.find? (·.IsTroubled now) <;> simp
  rw [← hsevere]
  exact ⟨fun h => ⟨h.severe, h.newTrouble⟩, fun h => ⟨hphase, h.1, h.2⟩⟩

include hlater

/-- The warning of a running pod becomes a mild one if there is new trouble, and otherwise stays what
it was. -/
theorem warning_later_of_running {w : Warning} (hphase : p.status.phase = some "Running")
    (hw : p.warning now = .ok w) :
    p.warning now' = .ok (if p.HasNewTrouble now now' then .mild else w) := by
  have hnow' : now'.offset.isSome = true := (DateTime.notBefore?_eq_true_iff.mp hlater).1.trans hnow
  have himp : ∀ s ∈ p.status.containers,
      decide (s.IsTroubled now) = true → decide (s.IsTroubled now') = true := fun s _ h => by
    rw [decide_eq_true_iff] at h ⊢
    exact (ContainerStatus.isTroubled_later_iff hlater).mpr (.inl h)
  have hlate {s : ContainerStatus} (hs : s ∈ p.untroubled now) :
      s.IsTroubled now' ↔ s.IsLate now' :=
    (ContainerStatus.isTroubled_later_iff hlater).trans
      (or_iff_right (not_isTroubled_of_mem_untroubled hs))
  rw [warning_of_running hnow hphase] at hw
  cases hw
  rw [warning_of_running hnow' hphase, find?_eq_or_of_imp himp]
  change Except.ok ((((p.untroubled now).find? _).or _).map _ |>.getD _) = _
  cases hfirst : (p.untroubled now).find? fun s => decide (s.IsTroubled now') with
  | none =>
      have hnone : ¬ p.HasNewTrouble now now' := fun ⟨s, hs, h⟩ => by
        simpa [hlate hs, h] using List.find?_eq_none.mp hfirst s hs
      rw [if_neg hnone, Option.none_or]
  | some s =>
      have hs := List.mem_of_find?_eq_some hfirst
      have hnew : p.HasNewTrouble now now' :=
        ⟨s, hs, (hlate hs).mp (by simpa using List.find?_some hfirst)⟩
      have hmild : ¬ s.IsSevereIn p.metadata :=
        s.not_isSevereIn_of_not_isTroubled (not_isTroubled_of_mem_untroubled hs) _
      rw [if_pos hnew, Option.some_or]
      simp [Warning.mild, hmild]

/-- Waiting leaves a warning as it is or makes it a mild one, which only pods that are pending or
running get in this way.  It makes it a less bad one exactly if the pod has been overtaken. -/
theorem warning_later {w : Warning} (hw : p.warning now = .ok w) :
    ∃ w', p.warning now' = .ok w' ∧
      (w' = w ∨ w' = .mild ∧ p.status.phase ∈ [some "Pending", some "Running"]) ∧
        (w'.rank < w.rank ↔ p.IsOvertaken now now') := by
  have hnow' : now'.offset.isSome = true := (DateTime.notBefore?_eq_true_iff.mp hlater).1.trans hnow
  by_cases hrunning : p.status.phase = some "Running"
  · refine ⟨_, warning_later_of_running hnow hlater hrunning hw, ?_⟩
    have hovertaken := isOvertaken_iff hnow now' hrunning hw
    by_cases hnew : p.HasNewTrouble now now'
    · rw [if_pos hnew, hovertaken, Warning.mild_rank_lt_iff, and_iff_left hnew]
      exact ⟨.inr ⟨rfl, by simp [hrunning]⟩, .rfl⟩
    · rw [if_neg hnew, hovertaken]
      simp [hnew]
  have hidle : ¬ p.IsOvertaken now now' := fun h => hrunning h.running
  by_cases hunknown : p.status.phase = some "Unknown"
  · rw [warning_of_unknown hunknown] at hw
    cases hw
    exact ⟨_, warning_of_unknown hunknown, .inl rfl, by simp [hidle]⟩
  by_cases hpending : p.status.phase = some "Pending"
  · rw [warning_of_pending hnow hpending] at hw
    cases hw
    have hmono : LongBefore now p.metadata.created → LongBefore now' p.metadata.created :=
      LongBefore.later hlater
    refine ⟨_, warning_of_pending hnow' hpending, ?_⟩
    by_cases hlong : LongBefore now' p.metadata.created
    · simp [hlong, hpending, Warning.mild, Warning.rank, hidle]
      split <;> decide
    · simp [hlong, mt hmono hlong, hidle]
  · rw [warning_of_other hunknown hpending hrunning] at hw
    cases hw
    exact ⟨_, warning_of_other hunknown hpending hrunning, .inl rfl, by simp [hidle]⟩

end

/-! ## what waiting does -/

/-- What becomes of the health of a pod from one time to a later one. -/
structure Ages (p : Pod) (now now' : DateTime) : Prop where
  /-- The warning stays or becomes a mild one, so it does not go away, and it becomes less bad exactly
  if the pod has been overtaken. -/
  warned : ∃ w w', p.warning now = .ok w ∧ p.warning now' = .ok w' ∧ (w' = w ∨ w' = .mild) ∧
    (w.raised = true → w'.raised = true) ∧ (w'.rank < w.rank ↔ p.IsOvertaken now now')
  warning : p.category now = .ok "Warning" → p.category now' = .ok "Warning"
  error : p.category now = .ok "Error" → ¬ p.IsOvertaken now now' → p.category now' = .ok "Error"
  overtaken : p.category now = .ok "Error" → p.IsOvertaken now now' →
    p.category now' = .ok "Warning"

/-- A pod has a warning, be it that nothing is wrong. -/
theorem exists_warning (p : Pod) {now : DateTime} (hnow : now.offset.isSome = true) :
    ∃ w, p.warning now = .ok w := by
  by_cases hunknown : p.status.phase = some "Unknown"
  · exact ⟨_, warning_of_unknown hunknown⟩
  by_cases hpending : p.status.phase = some "Pending"
  · exact ⟨_, warning_of_pending hnow hpending⟩
  by_cases hrunning : p.status.phase = some "Running"
  · exact ⟨_, warning_of_running hnow hrunning⟩
  · exact ⟨_, warning_of_other hunknown hpending hrunning⟩

section

variable {p : Pod} {now now' : DateTime} {w : Warning}

/-- The word for a pod depends on the time by its warning only. -/
theorem category_congr (hw : p.warning now = .ok w) (hw' : p.warning now' = .ok w) :
    p.category now' = p.category now := by
  cases hdeleted : p.metadata.deleted with
  | some t =>
      rw [category_of_deleted (by simp [hdeleted]), category_of_deleted (by simp [hdeleted])]
  | none => rw [category_of_warning hdeleted hw, category_of_warning hdeleted hw']

/-- A pod with another word than the one for deleted pods stays. -/
theorem stays_of_category {word : String} (h : p.category now = .ok word)
    (hword : word ≠ "Terminating") : p.metadata.deleted = none := by
  refine Option.not_isSome_iff_eq_none.mp fun hdeleted => hword ?_
  rw [category_of_deleted hdeleted] at h
  exact (Except.ok.inj h).symm

/-- A pod with a mild warning is in the category of warnings. -/
theorem category_of_mild (hstays : p.metadata.deleted = none) (hw : p.warning now = .ok .mild) :
    p.category now = .ok "Warning" := category_of_warning hstays hw

/-- A pod that is pending or running is called an error only for a severe warning. -/
theorem severe_of_error (hphase : p.status.phase ∈ [some "Pending", some "Running"])
    (hw : p.warning now = .ok w) (h : p.category now = .ok "Error") : w = ⟨true, true⟩ := by
  rw [category_of_warning (stays_of_category h (by decide)) hw] at h
  obtain ⟨raised, severe⟩ := w
  cases raised with
  | true => cases severe <;> simp_all
  | false =>
      -- Without a warning, the word is one for waiting or the phase.
      have hword : (nonEmpty? p.status.phase).getD "Unknown" ≠ "Error" := by
        rcases List.mem_pair.mp hphase with hphase | hphase <;>
          rw [nonEmpty?_phase hphase (by decide)] <;> decide
      simp only [Bool.false_eq_true, if_false, Except.ok.injEq] at h
      split at h
      · exact absurd h (by decide)
      split at h
      · exact absurd h (by decide)
      · exact absurd h hword

end

/-- While time passes and nothing else changes, the health of a pod does not improve, except that a
container which has become late hides the trouble of those behind it. -/
theorem ages_of_waiting (p : Pod) {now now' : DateTime} (hnow : now.offset.isSome = true)
    (hlater : DateTime.notBefore? now' now = some true) : p.Ages now now' := by
  obtain ⟨w, hw⟩ := p.exists_warning hnow
  obtain ⟨w', hw', hbecomes, hrank⟩ := warning_later hnow hlater hw
  have hmild {word : String} (h : p.category now = .ok word) (hword : word ≠ "Terminating") :
      w' = .mild → p.category now' = .ok "Warning" := fun hmild =>
    category_of_mild (stays_of_category h hword) (hmild ▸ hw')
  refine ⟨⟨w, w', hw, hw', hbecomes.imp_right And.left, fun hraised => ?_, hrank⟩,
    fun h => ?_, fun h hnot => ?_, fun h hovertaken => ?_⟩
  · rcases hbecomes with rfl | ⟨rfl, -⟩
    · exact hraised
    · rfl
  · rcases hbecomes with rfl | ⟨hbecomes, -⟩
    · rw [category_congr hw hw', h]
    · exact hmild h (by decide) hbecomes
  · rcases hbecomes with rfl | ⟨rfl, hphase⟩
    · rw [category_congr hw hw', h]
    · have hsevere : w = ⟨true, true⟩ := severe_of_error hphase hw h
      exact absurd (hrank.mp (Warning.mild_rank_lt_iff.mpr hsevere)) hnot
  · rcases hbecomes with rfl | ⟨hbecomes, -⟩
    · exact absurd (hrank.mpr hovertaken) (Nat.lt_irrefl _)
    · exact hmild h (by decide) hbecomes

/-- A moment more than five minutes after the beginning of 1970. -/
def afterFiveMinutes : DateTime := ⟨DateTime.epoch + 5 * DateTime.minute + 1, some 0⟩

/-- The first container of the pod has become late, which hides that the second one crashes. -/
theorem looping_ages :
    fiveMinutesIn.offset.isSome = true ∧
      DateTime.notBefore? afterFiveMinutes fiveMinutesIn = some true ∧
      looping.IsOvertaken fiveMinutesIn afterFiveMinutes ∧
      looping.Ages fiveMinutesIn afterFiveMinutes := by
  have hnow : fiveMinutesIn.offset.isSome = true := rfl
  have hlater : DateTime.notBefore? afterFiveMinutes fiveMinutesIn = some true := by decide
  have hovertaken : looping.IsOvertaken fiveMinutesIn afterFiveMinutes :=
    ⟨rfl, ⟨⟨some "second", false, { waiting := some ⟨some "CrashLoopBackOff"⟩ }⟩,
      by decide +kernel, by decide +kernel⟩, by decide +kernel⟩
  exact ⟨hnow, hlater, hovertaken, looping.ages_of_waiting hnow hlater⟩

/-- Waiting makes an error a warning. -/
theorem looping_recovers :
    DateTime.notBefore? afterFiveMinutes fiveMinutesIn = some true ∧
      (looping.warning fiveMinutesIn).toOption = some ⟨true, true⟩ ∧
      (looping.warning afterFiveMinutes).toOption = some ⟨true, false⟩ ∧
      (⟨true, false⟩ : Warning).rank < (⟨true, true⟩ : Warning).rank ∧
      (looping.category fiveMinutesIn).toOption = some "Error" ∧
      (looping.category afterFiveMinutes).toOption = some "Warning" := by
  decide +kernel

end Pod

end Rollout
