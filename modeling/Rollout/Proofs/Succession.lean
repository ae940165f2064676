import Rollout.Proofs.Moments
import Rollout.Proofs.Ownership

/-!
# Rollout.Proofs.Succession

Which of the controllers that an owner controls is the current one.

* `CurrentOf` — the current one of several controllers: the last one of the youngest, or the first one
  if none has a time of creation; `CurrentOf.unique` — there is only one;
* `Kept`, `Kept.next`, `Kept.mixed_of_fails` — the controller that has been kept on the way, and one
  more step;
* `Succession`, `SucceedsAmong`, `succeedsAmong_owned` — what the search for the current controller
  comes to.
-/

namespace Rollout

/-! ## the current controller -/

/-- The times of creation of several controllers, where there are any. -/
def creations (rcs : List ReplicationController) : List DateTime :=
  rcs.filterMap (·.metadata.created)

/-- The current one of several controllers. -/
inductive CurrentOf : List ReplicationController → ReplicationController → Prop where
  /-- None of them has a time of creation, and it is the first one. -/
  | first {rc : ReplicationController} {rest : List ReplicationController} :
    (∀ a ∈ rc :: rest, a.metadata.created = none) → CurrentOf (rc :: rest) rc
  /-- None of them has been created later, and those after it have been created before. -/
  | youngest {before after : List ReplicationController} {rc : ReplicationController}
      {t : DateTime} : rc.metadata.created = some t →
    (∀ a ∈ before, ∀ u ∈ a.metadata.created, u.instant ≤ t.instant) →
    (∀ a ∈ after, ∀ u ∈ a.metadata.created, u.instant < t.instant) →
    CurrentOf (before ++ rc :: after) rc

/-- A controller has been kept of some that could be compared. -/
structure Kept (seen : List ReplicationController) (rc : ReplicationController) : Prop where
  unmixed : ¬ DateTime.Mixed (creations seen)
  current : CurrentOf seen rc

theorem creations_append (xs ys : List ReplicationController) :
    creations (xs ++ ys) = creations xs ++ creations ys := List.filterMap_append

/-- The time of a controller is among those of all of them. -/
theorem mem_creations {rcs : List ReplicationController} {a : ReplicationController}
    {t : DateTime} (ha : a ∈ rcs) (ht : a.metadata.created = some t) : t ∈ creations rcs :=
  List.mem_filterMap.mpr ⟨a, ha, ht⟩

theorem creations_eq_nil {rcs : List ReplicationController}
    (h : ∀ a ∈ rcs, a.metadata.created = none) : creations rcs = [] :=
  List.filterMap_eq_nil_iff.mpr h

theorem creations_singleton {rc : ReplicationController} {t : DateTime}
    (h : rc.metadata.created = some t) : creations [rc] = [t] := by
  simp [creations, h]

theorem CurrentOf.mem {rcs : List ReplicationController} {rc : ReplicationController}
    (h : CurrentOf rcs rc) : rc ∈ rcs := by
  cases h <;> simp

/-- If the current controller has a time of creation, then none has been created later. -/
theorem CurrentOf.le {rcs : List ReplicationController} {rc a : ReplicationController}
    {t u : DateTime} (h : CurrentOf rcs rc) (hrc : rc.metadata.created = some t) (ha : a ∈ rcs)
    (hu : u ∈ a.metadata.created) : u.instant ≤ t.instant := by
  cases h with
  | first hnone => simp [hnone rc (.head _)] at hrc
  | youngest ht hbefore hafter =>
      cases hrc.symm.trans ht
      obtain ha | ha := List.mem_append.mp ha
      · exact hbefore a ha u hu
      obtain rfl | ha := List.mem_cons.mp ha
      · cases hu.symm.trans ht
        exact Int.le_refl _
      · exact Int.le_of_lt (hafter a ha u hu)

/-- Of two members of a list, one stands in front of the other one, unless they are the same. -/
theorem eq_or_mem_of_append_cons {α : Type} {before after before' after' : List α} {a b : α}
    (h : before ++ a :: after = before' ++ b :: after') :
    a = b ∨ a ∈ before' ∧ b ∈ after ∨ b ∈ before ∧ a ∈ after' := by
  obtain ⟨middle, rfl, htail⟩ | ⟨middle, rfl, htail⟩ := List.append_eq_append_iff.mp h
  · cases middle with
    | nil => exact .inl (List.cons.inj htail).1
    | cons c middle =>
        obtain ⟨rfl, rfl⟩ := List.cons.inj htail
        exact .inr (.inl (by simp))
  · cases middle with
    | nil => exact .inl (List.cons.inj htail).1.symm
    | cons c middle =>
        obtain ⟨rfl, rfl⟩ := List.cons.inj htail
        exact .inr (.inr (by simp))

/-- The current controller is the first one, if none is dated, or the last of the latest ones. -/
theorem currentOf_iff {rcs : List ReplicationController} {rc : ReplicationController} :
    CurrentOf rcs rc ↔
      rcs.head? = some rc ∧ (∀ a ∈ rcs, a.metadata.created = none) ∨
        ∃ before after t, rcs = before ++ rc :: after ∧ rc.metadata.created = some t ∧
          (∀ a ∈ before, ∀ u ∈ a.metadata.created, u.instant ≤ t.instant) ∧
          ∀ a ∈ after, ∀ u ∈ a.metadata.created, u.instant < t.instant := by
  constructor
  · rintro (hnone | ⟨ht, hbefore, hafter⟩)
    · exact .inl ⟨rfl, hnone⟩
    · exact .inr ⟨_, _, _, rfl, ht, hbefore, hafter⟩
  · rintro (⟨hhead, hnone⟩ | ⟨before, after, t, rfl, ht, hbefore, hafter⟩)
    · obtain ⟨rest, rfl⟩ := List.head?_eq_some_iff.mp hhead
      exact .first hnone
    · exact .youngest ht hbefore hafter

/-- There is only one current controller. -/
theorem CurrentOf.unique {rcs : List ReplicationController} {rc rc' : ReplicationController}
    (h : CurrentOf rcs rc) (h' : CurrentOf rcs rc') : rc = rc' := by
  rcases currentOf_iff.mp h with ⟨hhead, hnone⟩ | ⟨before, after, t, hsplit, ht, hbefore, hafter⟩
  · rcases currentOf_iff.mp h' with ⟨hhead', -⟩ | ⟨_, _, t', -, ht', -, -⟩
    · exact Option.some.inj (hhead.symm.trans hhead')
    · rw [hnone rc' h'.mem] at ht'
      cases ht'
  · rcases currentOf_iff.mp h' with ⟨-, hnone'⟩ | ⟨_, _, t', hsplit', ht', hbefore', hafter'⟩
    · rw [hnone' rc h.mem] at ht
      cases ht
    · rcases eq_or_mem_of_append_cons (hsplit.symm.trans hsplit') with heq | ⟨hrc, hrc'⟩ | ⟨hrc', hrc⟩
      · exact heq
      · exact absurd (hbefore' rc hrc t ht) (Int.not_le.mpr (hafter rc' hrc' t' ht'))
      · exact absurd (hbefore rc' hrc' t' ht') (Int.not_le.mpr (hafter' rc hrc t ht))

/-! ## one more controller -/

/-- Of the controller that has been kept and the next one, the one that is kept. -/
def successor (rc succ : ReplicationController) : Outcome ReplicationController :=
  return if ← supersedes succ rc then succ else rc

section

variable {seen : List ReplicationController} {rc succ : ReplicationController}

/-- A controller without a time never takes the place of another one. -/
theorem supersedes_of_undated (hsucc : succ.metadata.created = none) :
    supersedes succ rc = .ok false := by
  rw [supersedes, hsucc]

/-- A controller with a time takes the place of one without a time. -/
theorem supersedes_undated {t : DateTime} (hsucc : succ.metadata.created = some t)
    (hrc : rc.metadata.created = none) : supersedes succ rc = .ok true := by
  rw [supersedes, hsucc, hrc]

/-- Of two controllers with a time, the one takes the other one's place unless it is older. -/
theorem supersedes_of_dated {t u : DateTime} (hsucc : succ.metadata.created = some t)
    (hrc : rc.metadata.created = some u) :
    supersedes succ rc =
      if DateTime.comparable t u then .ok (decide (u.instant ≤ t.instant))
      else .error .incomparable := by
  unfold supersedes DateTime.notBefore?
  rw [hsucc, hrc]
  by_cases h : DateTime.comparable t u = true
  · simp only [if_pos h]
  · simp only [if_neg h]

/-- A controller without a time changes nothing. -/
theorem Kept.snoc_undated (h : Kept seen rc) (hsucc : succ.metadata.created = none) :
    Kept (seen ++ [succ]) rc where
  unmixed := by
    have hnil : creations [succ] = [] := creations_eq_nil (by simpa using hsucc)
    rw [creations_append, hnil, List.append_nil]
    exact h.unmixed
  current := by
    cases h.current with
    | @first _ rest hnone =>
        refine CurrentOf.first fun a ha => ?_
        obtain ha | ha := List.mem_append.mp (show a ∈ (rc :: rest) ++ [succ] from ha)
        · exact hnone a ha
        · rw [List.mem_singleton.mp ha, hsucc]
    | @youngest before after _ t ht hbefore hafter =>
        rw [List.append_assoc, List.cons_append]
        refine .youngest ht hbefore fun a ha u hu => ?_
        obtain ha | ha := List.mem_append.mp ha
        · exact hafter a ha u hu
        · rw [List.mem_singleton.mp ha, hsucc] at hu
          cases hu

/-- The first controller with a time is kept. -/
theorem Kept.snoc_dated (h : Kept seen rc) (hrc : rc.metadata.created = none) {t : DateTime}
    (hsucc : succ.metadata.created = some t) : Kept (seen ++ [succ]) succ := by
  cases h.current with
  | @first _ rest hnone =>
      have hbefore : ∀ a ∈ rc :: rest, ∀ u ∈ a.metadata.created, u.instant ≤ t.instant := by
        intro a ha u hu
        rw [hnone a ha] at hu
        cases hu
      refine ⟨?_, .youngest hsucc hbefore (by simp)⟩
      rw [creations_append, creations_eq_nil hnone, creations_singleton hsucc, List.nil_append]
      exact DateTime.not_mixed_singleton t
  | youngest ht =>
      rw [hrc] at ht
      cases ht

/-- Of the controller that has been kept and a later one with a time, the younger one is kept. -/
theorem Kept.snoc_younger {t u : DateTime} (h : Kept seen rc) (hrc : rc.metadata.created = some u)
    (hsucc : succ.metadata.created = some t) (hcomparable : DateTime.comparable t u = true) :
    Kept (seen ++ [succ]) (if u.instant ≤ t.instant then succ else rc) where
  unmixed := by
    have hu : u ∈ creations seen := mem_creations h.current.mem hrc
    rw [creations_append, creations_singleton hsucc]
    exact (DateTime.not_mixed_snoc_iff h.unmixed hu).mpr hcomparable
  current := by
    by_cases hle : u.instant ≤ t.instant
    · rw [if_pos hle]
      exact .youngest hsucc (fun a ha v hv => Int.le_trans (h.current.le hrc ha hv) hle) (by simp)
    · rw [if_neg hle]
      cases h.current with
      | first hnone => simp [hnone rc (.head _)] at hrc
      | @youngest before after _ u' hu' hbefore hafter =>
          cases hrc.symm.trans hu'
          rw [List.append_assoc, List.cons_append]
          refine .youngest hrc hbefore fun a ha v hv => ?_
          obtain ha | ha := List.mem_append.mp ha
          · exact hafter a ha v hv
          · rw [List.mem_singleton.mp ha, hsucc] at hv
            cases hv
            exact Int.not_le.mp hle

/-- One more controller. -/
theorem Kept.next {rc' : ReplicationController} (h : Kept seen rc)
    (hnext : successor rc succ = .ok rc') : Kept (seen ++ [succ]) rc' := by
  unfold successor at hnext
  cases hsucc : succ.metadata.created with
  | none =>
      rw [supersedes_of_undated hsucc] at hnext
      cases hnext
      exact h.snoc_undated hsucc
  | some t =>
      cases hrc : rc.metadata.created with
      | none =>
          rw [supersedes_undated hsucc hrc] at hnext
          cases hnext
          exact h.snoc_dated hrc hsucc
      | some u =>
          rw [supersedes_of_dated hsucc hrc] at hnext
          split at hnext
          · next hcomparable =>
              cases hnext
              simpa only [decide_eq_true_eq] using h.snoc_younger hrc hsucc hcomparable
          · cases hnext

/-- One more controller cannot be compared only if times are mixed. -/
theorem Kept.mixed_of_fails {e : Failure} (h : Kept seen rc)
    (hfails : successor rc succ = .error e) :
    e = .incomparable ∧ DateTime.Mixed (creations (seen ++ [succ])) := by
  unfold successor at hfails
  cases hsucc : succ.metadata.created with
  | none =>
      rw [supersedes_of_undated hsucc] at hfails
      cases hfails
  | some t =>
      cases hrc : rc.metadata.created with
      | none =>
          rw [supersedes_undated hsucc hrc] at hfails
          cases hfails
      | some u =>
          rw [supersedes_of_dated hsucc hrc] at hfails
          split at hfails
          · cases hfails
          · next hcomparable =>
              cases hfails
              have hsnoc := DateTime.not_mixed_snoc_iff (u := t) h.unmixed
                (mem_creations h.current.mem hrc)
              rw [creations_append, creations_singleton hsucc]
              exact ⟨rfl, Classical.not_not.mp (mt hsnoc.mp hcomparable)⟩

end

/-! ## all controllers -/

/-- What the search for the current one of several controllers comes to. -/
structure Succession (rcs : List ReplicationController)
    (found : Outcome (Option ReplicationController)) : Prop where
  nothing : found = .ok none ↔ rcs = []
  current : rcs ≠ [] → ¬ DateTime.Mixed (creations rcs) →
    ∃ rc, found = .ok (some rc) ∧ ∀ rc', CurrentOf rcs rc' ↔ rc' = rc
  fails {e : Failure} : found = .error e ↔ e = .incomparable ∧ DateTime.Mixed (creations rcs)

/-- Looking for the current controller goes through the others, starting with the first. -/
theorem currentController_cons (rc : ReplicationController) (rest : List ReplicationController) :
    currentController (rc :: rest) = some <$> rest.foldlM successor rc := rfl

/-- A single controller is the current one. -/
theorem kept_singleton (rc : ReplicationController) : Kept [rc] rc := by
  cases hrc : rc.metadata.created with
  | none =>
      have hnone : ∀ a ∈ [rc], a.metadata.created = none := by simpa using hrc
      refine ⟨?_, .first hnone⟩
      rw [creations_eq_nil hnone]
      exact DateTime.not_mixed_nil
  | some t =>
      have hcurrent : CurrentOf ([] ++ rc :: []) rc := .youngest hrc (by simp) (by simp)
      refine ⟨?_, hcurrent⟩
      rw [creations_singleton hrc]
      exact DateTime.not_mixed_singleton t

/-- What a scan ends with is kept of all that it has seen. -/
theorem kept_of_foldlM {seen rest : List ReplicationController} {rc last : ReplicationController}
    (h : Kept seen rc) (hlast : rest.foldlM successor rc = .ok last) : Kept (seen ++ rest) last :=
  Outcome.foldlM_preserves (I := Kept) Kept.next h hlast

/-- The search fails only on times that are mixed. -/
theorem mixed_of_foldlM {rest : List ReplicationController} {rc : ReplicationController}
    {e : Failure} (h : rest.foldlM successor rc = .error e) :
    e = .incomparable ∧ DateTime.Mixed (creations (rc :: rest)) := by
  obtain ⟨before, succ, after, rc', rfl, hbefore, hfails⟩ := Outcome.exists_of_foldlM_eq_error h
  obtain ⟨he, hmixed⟩ := (kept_of_foldlM (kept_singleton rc) hbefore).mixed_of_fails hfails
  have hsplit : rc :: (before ++ succ :: after) = ([rc] ++ before ++ [succ]) ++ after := by simp
  rw [hsplit, creations_append]
  exact ⟨he, hmixed.of_subset (List.subset_append_left ..)⟩

/-- The current one of several controllers is found unless their times are mixed. -/
theorem succession_of_currentController (rcs : List ReplicationController) :
    Succession rcs (currentController rcs) := by
  cases rcs with
  | nil =>
      have hunmixed : ¬ DateTime.Mixed (creations []) := DateTime.not_mixed_nil
      exact ⟨by simp [currentController], fun h => absurd rfl h,
        by simp [currentController, hunmixed]⟩
  | cons rc rest =>
      rw [currentController_cons]
      cases hfold : rest.foldlM successor rc with
      | error e =>
          obtain ⟨rfl, hmixed⟩ := mixed_of_foldlM hfold
          refine ⟨?_, fun _ hunmixed => absurd hmixed hunmixed, ?_⟩
          · simp [Functor.map, Except.map]
          · simp [Functor.map, Except.map, hmixed, eq_comm]
      | ok last =>
          have hkept := kept_of_foldlM (kept_singleton rc) hfold
          have hiff (rc' : ReplicationController) : CurrentOf (rc :: rest) rc' ↔ rc' = last :=
            ⟨fun h => h.unique hkept.current, fun h => h ▸ hkept.current⟩
          refine ⟨?_, fun _ _ => ⟨last, rfl, hiff⟩, ?_⟩
          · simp [Functor.map, Except.map]
          · have hunmixed : ¬ DateTime.Mixed (creations (rc :: rest)) := hkept.unmixed
            simp [Functor.map, Except.map, hunmixed]

/-! ## the controllers of an owner -/

instance (m : Metadata) (uid : String) : Decidable (m.HasController uid) :=
  decidable_of_iff _ Metadata.controlledBy_iff

/-- The owned controllers are those that have the owner as their controlling one, in their order. -/
theorem owned_eq_filter (rcs : List ReplicationController) (uid : String) :
    owned (·.metadata) rcs uid = rcs.filter (·.metadata.HasController uid) := by
  refine List.filter_congr fun rc _ => ?_
  rw [Bool.eq_iff_iff, Metadata.controlledBy_iff, decide_eq_true_iff]

/-- What the search for the current controller of an owner comes to.  It depends on the controllers of
the owner only: other ones may stand anywhere. -/
structure SucceedsAmong (rcs : List ReplicationController) (uid : String)
    (found : Outcome (Option ReplicationController)) : Prop where
  among : Succession (rcs.filter (·.metadata.HasController uid)) found
  unaffected {before after : List ReplicationController} {other : ReplicationController} :
    rcs = before ++ after → ¬ other.metadata.HasController uid →
    currentController (owned (·.metadata) (before ++ other :: after) uid) = found

/-- The current controller of an owner is the last one of the youngest that it controls, or the first
one if none of them has a time of creation. -/
theorem succeedsAmong_owned (rcs : List ReplicationController) (uid : String) :
    SucceedsAmong rcs uid (currentController (owned (·.metadata) rcs uid)) where
  among := by
    rw [owned_eq_filter]
    exact succession_of_currentController _
  unaffected := by
    rintro before after other rfl hother
    rw [owned_eq_filter, owned_eq_filter, List.filter_append, List.filter_append,
      List.filter_cons_of_neg (by simpa using hother)]

end Rollout
