import Rollout.Proofs.Activity
import Rollout.Proofs.Address
import Rollout.Proofs.Rewriting

/-!
# Rollout.Proofs.Writing

Which documents can be written as a text, and which requests can be made.

* `obstacleAt?` — what stands in the way along one path into a document;
* `exists_of_obstacle?`, `obstacleAt?_eq_none` — a document can be written if nothing does on any path;
* `RestFits`, `SameBut.fault?_eq` — where a number is set in a document whose rest can be written, the
  document can be written if the number is short;
* `IsRescalable` — a scale that can be written, with no pods in it: `IsRescalable.restFits`;
* `prepared_eq_error` — why a request cannot be made.
-/

namespace Rollout

namespace Document

/-- Only two things stand in the way of writing a document. -/
theorem obstacle?_eq_some {room : Nat} {d : Document} {e : Failure}
    (h : d.obstacle? room = some e) : e = .tooDeep ∨ e = .tooLong := by
  induction room generalizing d with
  | zero => exact .inl (Option.some.inj h).symm
  | succ room ih =>
      cases d with
      | int n =>
          rw [obstacle?] at h
          split at h
          · contradiction
          · exact .inr (Option.some.inj h).symm
      | list items | set items =>
          obtain ⟨v, -, hv⟩ := List.exists_of_findSome?_eq_some h
          exact ih hv
      | map mark entries =>
          obtain ⟨⟨k, v⟩, -, hentry⟩ := List.exists_of_findSome?_eq_some h
          obtain hk | ⟨-, hv⟩ := Option.or_eq_some_iff.mp hentry
          · exact ih hk
          · exact ih hv
      | _ => contradiction

/-- Only two things can keep a document from being written. -/
theorem fault?_eq_some {d : Document} {e : Failure} (h : d.fault? = some e) :
    e = .tooDeep ∨ e = .tooLong := obstacle?_eq_some h

/-! ## paths -/

/-- What stands in the way of writing what is at the end of a path, or a key on the way there. -/
def obstacleAt? : Nat → List Into → Document → Option Failure
  | room, [], f => f.obstacle? room
  | 0, _ :: _, _ => some .tooDeep
  | room + 1, .key k :: path, f => (k.obstacle? room).or (obstacleAt? room path f)
  | room + 1, .place _ :: path, f => obstacleAt? room path f

/-- What stands in the way of writing a document does so on a path into it. -/
theorem exists_of_obstacle? {room : Nat} {d : Document} {e : Failure}
    (h : d.obstacle? room = some e) :
    ∃ path f, Shows d path f ∧ obstacleAt? room path f = some e := by
  induction room generalizing d with
  | zero => exact ⟨[], d.face, ⟨d, reaches_nil.mpr rfl, rfl⟩, h⟩
  | succ room ih =>
      cases d with
      | list items =>
          obtain ⟨v, hmem, hv⟩ := List.exists_of_findSome?_eq_some h
          obtain ⟨i, hi⟩ := List.getElem?_of_mem hmem
          obtain ⟨path, f, ⟨w, hw, hf⟩, hobstacle⟩ := ih hv
          exact ⟨.place i :: path, f, ⟨w, ⟨v, hi, hw⟩, hf⟩, hobstacle⟩
      | map mark entries =>
          obtain ⟨⟨k, v⟩, hmem, hentry⟩ := List.exists_of_findSome?_eq_some h
          obtain hk | ⟨hk, hv⟩ := Option.or_eq_some_iff.mp hentry
          · refine ⟨[.key k], v.face, ⟨v, ⟨v, hmem, reaches_nil.mpr rfl⟩, rfl⟩, ?_⟩
            rw [obstacleAt?, hk, Option.some_or]
          · obtain ⟨path, f, ⟨w, hw, hf⟩, hobstacle⟩ := ih hv
            refine ⟨.key k :: path, f, ⟨w, ⟨v, hmem, hw⟩, hf⟩, ?_⟩
            rw [obstacleAt?, hk, Option.none_or, hobstacle]
      | _ => exact ⟨[], _, ⟨_, reaches_nil.mpr rfl, rfl⟩, h⟩

/-- In a document that can be written, nothing stands in the way on any path. -/
theorem obstacleAt?_eq_none {room : Nat} {d f : Document} {path : List Into}
    (h : d.obstacle? room = none) (hshows : Shows d path f) : obstacleAt? room path f = none := by
  obtain ⟨w, hw, rfl⟩ := hshows
  induction path generalizing room d with
  | nil =>
      obtain rfl := reaches_nil.mp hw
      cases room with
      | zero => contradiction
      | succ room =>
          cases d with
          | list | map => rfl
          | _ => exact h
  | cons step path ih =>
      cases room with
      | zero => contradiction
      | succ room =>
          cases d with
          | list items =>
              cases step with
              | key k => exact hw.elim
              | place i =>
                  obtain ⟨v, hv, hw⟩ := hw
                  exact ih (List.findSome?_eq_none_iff.mp h v (List.mem_of_getElem? hv)) hw
          | map mark entries =>
              cases step with
              | place i => exact hw.elim
              | key k =>
                  obtain ⟨v, hv, hw⟩ := hw
                  obtain ⟨hk, hv⟩ := Option.or_eq_none_iff.mp
                    (List.findSome?_eq_none_iff.mp h (k, v) hv)
                  rw [obstacleAt?, hk, Option.none_or]
                  exact ih hv hw
          | _ => cases step <;> exact hw.elim

/-! ## scales -/

/-- The place of the number of pods in a scale. -/
def replicasPath : List Into := [.key (text "spec"), .key (text "replicas")]

/-- Whatever the number of pods is, nothing else in a scale stands in the way of writing it. -/
def RestFits (d : Document) : Prop :=
  ∀ path f, Shows d path f → ¬ replicasPath <+: path → obstacleAt? mostWritten path f = none

/-- A number of pods is in the way only of itself. -/
theorem obstacleAt?_replicas (n : Int) :
    obstacleAt? mostWritten replicasPath (int n) = if isShort n then none else some .tooLong := rfl

/-- A scale whose rest can be written can be written if its number of pods is short. -/
theorem SameBut.fault?_eq {n : Int} {d d' : Document}
    (h : SameBut "spec" "replicas" (int n) d d') (hd : d.RestFits) :
    d'.fault? = if isShort n then none else some .tooLong := by
  have hthere : Shows d' replicasPath (int n) :=
    (h.there [] (int n)).mpr ⟨int n, reaches_nil.mpr rfl, rfl⟩
  cases hfault : d'.fault? with
  | none => rw [← obstacleAt?_replicas n, obstacleAt?_eq_none hfault hthere]
  | some e =>
      obtain ⟨path, f, hshows, hobstacle⟩ := exists_of_obstacle? hfault
      by_cases hprefix : replicasPath <+: path
      · obtain ⟨rest, rfl⟩ := hprefix
        obtain ⟨w, hw, rfl⟩ := (h.there rest f).mp hshows
        match rest with
        | [] =>
          obtain rfl := reaches_nil.mp hw
          rw [← obstacleAt?_replicas n]
          exact hobstacle.symm
        | .key _ :: _ | .place _ :: _ => exact hw.elim
      · rw [hd path f ((h.elsewhere path f hprefix).mp hshows) hprefix] at hobstacle
        contradiction

/-- The rest of a scale stays when another number is set. -/
theorem SameBut.restFits {n : Int} {d d' : Document}
    (h : SameBut "spec" "replicas" (int n) d d') (hd : d.RestFits) : d'.RestFits :=
  fun path f hshows hpath => hd path f ((h.elsewhere path f hpath).mp hshows) hpath

/-- A scale can be written when no pods are asked for. -/
def IsRescalable (d : Document) : Prop :=
  ∃ changed, d.set? "spec" "replicas" (int 0) = some changed ∧ changed.inKeyOrder.fault? = none

/-- The rest of such a scale can be written. -/
theorem IsRescalable.restFits {d : Document} (h : d.IsRescalable) (hd : d.IsTree) : d.RestFits := by
  obtain ⟨changed, hset, hfits⟩ := h
  have hsame := sameBut_set? hd.keysDiffer hd.unshared (keysDiffer_int 0) hset
  intro path f hshows hpath
  exact obstacleAt?_eq_none hfits ((hsame.elsewhere path f hpath).mpr hshows)

end Document

/-! ## requests -/

/-- The same two things can keep a request from being made for what it carries. -/
theorem Call.fault?_eq_some {call : Call} {e : Failure} (h : call.fault? = some e) :
    e = .tooDeep ∨ e = .tooLong := by
  cases call with
  | put body => exact Document.fault?_eq_some h
  | _ => contradiction

/-- Why a request cannot be made: for its address, a header or a parameter, because the client has been
closed, or for its document. -/
theorem Client.prepared_eq_error {s : Session} {path : String} {params : Option Labels} {call : Call}
    {e : Failure} (h : prepared s path params call = .error e) :
    e = .badAddress ∨ e = .badHeader ∨ e = .closed ∨
      call.fault? = some e ∧ (e = .tooDeep ∨ e = .tooLong) := by
  unfold prepared at h
  cases hfault : call.fault? with
  | some e' =>
      rw [hfault] at h
      obtain rfl := Except.error.inj h
      exact .inr (.inr (.inr ⟨rfl, Call.fault?_eq_some hfault⟩))
  | none =>
      rw [hfault] at h
      cases htarget : Url.Target.ofText (s.config.provider.apiBase ++ path) with
      | error e' =>
          rw [htarget] at h
          obtain rfl := Except.error.inj h
          obtain hbad | hheader := Url.isUnaddressed_of_ofText htarget
          · exact .inl hbad
          · exact .inr (.inl hheader)
      | ok plain =>
          rw [htarget] at h
          simp only at h
          split at h
          · cases h
            exact .inr (.inl rfl)
          split at h
          · cases h
            exact .inr (.inr (.inl rfl))
          · cases h

end Rollout
