import Rollout.Deployment.Health
import Rollout.Proofs.Outcomes

/-!
# Rollout.Proofs.Health

What the tally and the quota of pods say.

* `foldl_countOne` — counting words one after the other lists each word once, in the order of first
  occurrence, with the number of times it occurs;
* `tally_eq_ok_iff` — a tally counts the words for the states of the pods that have not failed;
* `podsQuota_eq_ok_iff` — a quota is the sum of the limits of all containers.
-/

namespace Rollout

/-! ## counting words -/

/-- The first entry of a table takes all of its own words, and the others see none of them. -/
theorem foldl_countOne_cons (words : List String) (n : String) (k : Nat)
    (rest : List (String × Nat)) :
    words.foldl countOne ((n, k) :: rest) =
      (n, k + words.count n) :: (words.filter fun w => !w == n).foldl countOne rest := by
  induction words generalizing k rest with
  | nil => simp
  | cons w words ih =>
      rw [List.foldl_cons, countOne]
      by_cases hw : n = w
      · subst hw
        rw [if_pos rfl, ih, List.count_cons_self, List.filter_cons_of_neg (by simp)]
        congr 2
        omega
      · have hne : w ≠ n := Ne.symm hw
        rw [if_neg hw, ih, List.count_cons_of_ne hne, List.filter_cons_of_pos (by simpa using hne),
          List.foldl_cons]

/-- Counting words lists each of them once, with the number of times it occurs. -/
theorem foldl_countOne (words : List String) :
    words.foldl countOne [] = words.eraseDups.map fun w => (w, words.count w) := by
  match words with
  | [] => rfl
  | w :: rest =>
      have hothers := foldl_countOne (rest.filter fun x => !x == w)
      rw [List.foldl_cons, countOne, foldl_countOne_cons, hothers, List.eraseDups_cons,
        List.map_cons, List.count_cons_self, Nat.add_comm]
      congr 1
      refine List.map_congr_left fun x hx => ?_
      have hne : x ≠ w := by simpa using (List.mem_filter.mp (List.mem_eraseDups.mp hx)).2
      rw [List.count_filter (by simpa using hne), List.count_cons_of_ne (Ne.symm hne)]
termination_by words.length
decreasing_by exact Nat.lt_succ_of_le (List.length_filter_le _ _)

/-! ## tallies -/

/-- How often each of some words occurs, in the order of first occurrence.  Without any word, none is
running. -/
def tallied (words : List String) : List (String × Nat) :=
  if words = [] then [("Running", 0)] else words.eraseDups.map fun w => (w, words.count w)

/-- Without any word, and only then, nothing is counted. -/
theorem foldl_countOne_eq_nil_iff {words : List String} :
    words.foldl countOne [] = [] ↔ words = [] := by
  cases words with
  | nil => simp
  | cons w rest => simp [foldl_countOne_cons, countOne]

/-- A tally counts the words for the states of the pods that have not failed. -/
theorem tally_eq_ok_iff {pods : List Pod} {now : DateTime} {counts : List (String × Nat)}
    {total : Nat} :
    tally pods now = .ok (counts, total) ↔
      ∃ words, (countedPods pods).mapM (·.category now) = .ok words ∧ total = words.length ∧
        counts = tallied words := by
  unfold tally
  rw [Outcome.bind_eq_ok_iff]
  refine exists_congr fun words => and_congr_right fun _ => ?_
  have hcounts : (if words.foldl countOne [] = [] then [("Running", 0)]
      else words.foldl countOne []) = tallied words := by
    simp only [foldl_countOne_eq_nil_iff, tallied]
    rw [foldl_countOne]
  simp only [pure, Except.pure, Except.ok.injEq, Prod.mk.injEq, hcounts]
  rw [and_comm, eq_comm, eq_comm (b := counts)]

/-- A tally counts all of the pods that have not failed. -/
theorem total_of_tally {pods : List Pod} {now : DateTime} {counts : List (String × Nat)}
    {total : Nat} (h : tally pods now = .ok (counts, total)) :
    total = (countedPods pods).length := by
  obtain ⟨words, hwords, rfl, -⟩ := tally_eq_ok_iff.mp h
  exact Outcome.length_of_mapM hwords

/-! ## limits -/

/-- What a container may use at most. -/
def Container.limit (c : Container) : Outcome PodsQuota := do
  let cores ← Quantity.named c.resources.limits "cpu"
  let memory ← Quantity.named c.resources.limits "memory"
  return ⟨cores, memory⟩

/-- What two may use together. -/
def PodsQuota.plus (q limit : PodsQuota) : PodsQuota :=
  ⟨q.cores + limit.cores, q.memory + limit.memory⟩

/-- A quota is the sum of the limits of all containers, added in their order. -/
theorem podsQuota_eq_ok_iff {pods : List Pod} {q : PodsQuota} :
    podsQuota pods = .ok q ↔
      ∃ limits, (pods.flatMap (·.spec.containers)).mapM Container.limit = .ok limits ∧
        q = limits.foldl PodsQuota.plus ⟨.zero, .zero⟩ := by
  refine Outcome.foldlM_eq_ok_iff fun sum c => ?_
  unfold Container.limit PodsQuota.plus
  cases Quantity.named c.resources.limits "cpu" with
  | error e => rfl
  | ok cores => cases Quantity.named c.resources.limits "memory" <;> rfl

end Rollout
