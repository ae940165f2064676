import Mathlib.Algebra.GroupWithZero.Nat
import Rollout.Proofs.Category
import Rollout.Proofs.Health

/-!
# Rollout.Proofs.Tally

A tally neither loses a pod nor makes one up.

* `countOf`, `countOf_countOne`, `sum_countOne` — counting one more adds one to its word and to the
  sum, and leaves the other words alone;
* `wordsOf`, `tally_eq` — against a present that has an offset there always is a tally, and it counts
  the words of the pods that have not failed;
* `Tallies`, `Conserves`, `tally_conserves` — what a tally says, and how those of several lists of pods
  relate.
-/

namespace Rollout

/-! ## tables of counts -/

/-- The count of a word; one that is not listed counts nothing. -/
def countOf (counts : List (String × Nat)) (word : String) : Nat := (counts.lookup word).getD 0

/-- The number of a word is at its first entry. -/
theorem countOf_cons (name : String) (k : Nat) (rest : List (String × Nat)) (word : String) :
    countOf ((name, k) :: rest) word = if word = name then k else countOf rest word := by
  unfold countOf
  rw [List.lookup_cons]
  by_cases h : word = name
  · rw [beq_iff_eq.mpr h, if_pos h]
    rfl
  · rw [beq_false_of_ne h, if_neg h]

/-- Counting one more adds one to its word, and nothing to the other ones. -/
theorem countOf_countOne (counts : List (String × Nat)) (name word : String) :
    countOf (countOne counts name) word = countOf counts word + if word = name then 1 else 0 := by
  induction counts with
  | nil =>
      rw [countOne, countOf_cons]
      split <;> rfl
  | cons entry rest ih =>
      obtain ⟨n, k⟩ := entry
      rw [countOne, countOf_cons]
      by_cases hn : n = name
      · rw [if_pos hn, countOf_cons]
        split <;> simp_all
      · rw [if_neg hn, countOf_cons, ih]
        split <;> simp_all

/-- Counting words adds to each one how often it occurs. -/
theorem countOf_foldl (words : List String) (counts : List (String × Nat)) (word : String) :
    countOf (words.foldl countOne counts) word = countOf counts word + words.count word := by
  induction words generalizing counts with
  | nil => rfl
  | cons name words ih =>
      rw [List.foldl_cons, ih, countOf_countOne, List.count_cons]
      simp only [beq_iff_eq, eq_comm (a := name)]
      omega

/-- Counting one more adds one to the sum. -/
theorem sum_countOne (counts : List (String × Nat)) (name : String) :
    ((countOne counts name).map (·.2)).sum = (counts.map (·.2)).sum + 1 := by
  induction counts with
  | nil => rfl
  | cons entry rest ih =>
      obtain ⟨n, k⟩ := entry
      rw [countOne]
      split
      · simp only [List.map_cons, List.sum_cons]
        omega
      · simp only [List.map_cons, List.sum_cons, ih]
        omega

/-- Counting a word adds one to the sum of all numbers. -/
theorem sum_foldl (words : List String) (counts : List (String × Nat)) :
    ((words.foldl countOne counts).map (·.2)).sum = (counts.map (·.2)).sum + words.length := by
  induction words generalizing counts with
  | nil => rfl
  | cons name words ih =>
      rw [List.foldl_cons, ih, sum_countOne, List.length_cons]
      omega

/-! ## tables of words -/

/-- Words are counted one after the other, unless there are none. -/
theorem tallied_eq (words : List String) :
    tallied words = if words = [] then [("Running", 0)] else words.foldl countOne [] := by
  rw [tallied, foldl_countOne]

/-- A tally has the number of times that a word occurs. -/
theorem countOf_tallied (words : List String) (word : String) :
    countOf (tallied words) word = words.count word := by
  rw [tallied_eq]
  by_cases hwords : words = []
  · rw [if_pos hwords, hwords, countOf_cons]
    split <;> rfl
  · rw [if_neg hwords, countOf_foldl]
    exact Nat.zero_add _

/-- Its numbers add up to the number of words. -/
theorem sum_tallied (words : List String) : ((tallied words).map (·.2)).sum = words.length := by
  rw [tallied_eq]
  by_cases hwords : words = []
  · rw [if_pos hwords, hwords]
    rfl
  · rw [if_neg hwords, sum_foldl]
    exact Nat.zero_add _

/-- Without words, and only then, the table says that none is running. -/
theorem tallied_eq_running_iff {words : List String} :
    tallied words = [("Running", 0)] ↔ words = [] := by
  refine ⟨fun h => ?_, fun h => by rw [tallied, if_pos h]⟩
  have hsum := sum_tallied words
  rw [h] at hsum
  exact List.length_eq_zero_iff.mp hsum.symm

/-- Each word is listed once. -/
theorem nodup_eraseDups (words : List String) : words.eraseDups.Nodup := by
  match words with
  | [] => exact List.nodup_nil
  | w :: rest =>
      rw [List.eraseDups_cons]
      refine List.nodup_cons.mpr ⟨fun hw => ?_, nodup_eraseDups _⟩
      simpa using (List.mem_filter.mp (List.mem_eraseDups.mp hw)).2
termination_by words.length
decreasing_by exact Nat.lt_succ_of_le (List.length_filter_le _ _)

/-- The order of words does not matter to what the table says. -/
theorem tallied_perm {words others : List String} (h : words.Perm others) :
    (tallied words).Perm (tallied others) := by
  by_cases hwords : words = []
  · subst hwords
    rw [List.nil_perm.mp h]
  · have hothers : others ≠ [] := fun hnil => hwords (List.perm_nil.mp (hnil ▸ h))
    have hlisted : words.eraseDups.Perm others.eraseDups :=
      (List.perm_ext_iff_of_nodup (nodup_eraseDups _) (nodup_eraseDups _)).mpr fun word => by
        rw [List.mem_eraseDups, List.mem_eraseDups, h.mem_iff]
    rw [tallied, tallied, if_neg hwords, if_neg hothers]
    simp only [h.count_eq]
    exact hlisted.map _

/-! ## words of pods -/

/-- How many pods are called by a word, the failed ones left out. -/
def carriers (pods : List Pod) (now : DateTime) (word : String) : Nat :=
  pods.countP fun p => p.status.phase ≠ some "Failed" ∧ (p.category now).toOption = some word

/-- The words of the pods that have not failed, in their order. -/
def wordsOf (pods : List Pod) (now : DateTime) : List String :=
  (countedPods pods).filterMap fun p => (p.category now).toOption

/-- A word occurs as often as pods carry it. -/
theorem count_wordsOf (pods : List Pod) (now : DateTime) (word : String) :
    (wordsOf pods now).count word = carriers pods now word := by
  unfold wordsOf carriers countedPods
  rw [List.count_filterMap, List.countP_filter]
  refine List.countP_congr fun p _ => ?_
  simp [and_comm]

theorem countedPods_append (pods more : List Pod) :
    countedPods (pods ++ more) = countedPods pods ++ countedPods more := List.filter_append ..

theorem countedPods_cons_of_failed {p : Pod} (hfailed : p.status.phase = some "Failed")
    (pods : List Pod) : countedPods (p :: pods) = countedPods pods :=
  List.filter_cons_of_neg (by simp [hfailed])

/-- The words of more pods come after those of the first ones. -/
theorem wordsOf_append (pods more : List Pod) (now : DateTime) :
    wordsOf (pods ++ more) now = wordsOf pods now ++ wordsOf more now := by
  rw [wordsOf, countedPods_append, List.filterMap_append]
  rfl

/-- In another order, pods have the same words. -/
theorem wordsOf_perm {pods others : List Pod} (h : pods.Perm others) (now : DateTime) :
    (wordsOf pods now).Perm (wordsOf others now) := (h.filter _).filterMap _

section

variable {now : DateTime} (hnow : now.offset.isSome = true)

include hnow

/-- Pods all have words. -/
theorem mapM_category (pods : List Pod) :
    pods.mapM (·.category now) = .ok (pods.filterMap fun p => (p.category now).toOption) :=
  Outcome.mapM_eq_ok_filterMap fun p _ => p.exists_category hnow

/-- Each pod that counts has one word. -/
theorem length_wordsOf (pods : List Pod) :
    (wordsOf pods now).length = (countedPods pods).length :=
  Outcome.length_of_mapM (mapM_category hnow (countedPods pods))

theorem wordsOf_eq_nil_iff {pods : List Pod} : wordsOf pods now = [] ↔ countedPods pods = [] := by
  rw [← List.length_eq_zero_iff, ← List.length_eq_zero_iff, length_wordsOf hnow]

/-- There always is a tally, and it counts the words of the pods. -/
theorem tally_eq (pods : List Pod) :
    tally pods now = .ok (tallied (wordsOf pods now), (wordsOf pods now).length) :=
  tally_eq_ok_iff.mpr ⟨_, mapM_category hnow (countedPods pods), rfl, rfl⟩

end

/-! ## conservation -/

/-- What a tally of pods says. -/
structure Tallies (pods : List Pod) (now : DateTime) (counts : List (String × Nat)) (total : Nat) :
    Prop where
  /-- Each word is listed once, in the order in which they appear, with the number of pods that it
  calls. -/
  listed : countedPods pods ≠ [] →
    counts = (wordsOf pods now).eraseDups.map fun word => (word, carriers pods now word)
  count (word : String) : countOf counts word = carriers pods now word
  total_eq : total = (countedPods pods).length
  sum_eq : (counts.map (·.2)).sum = total
  /-- Only where no pod counts, there is an entry for none. -/
  blank : counts = [("Running", 0)] ↔ countedPods pods = []

/-- How the tallies of pods at one time relate: there always is one, the failed pods do not matter, nor
does the order of the others, and what two lists say adds up. -/
structure Conserves (now : DateTime) : Prop where
  tallied (pods : List Pod) :
    ∃ counts total, tally pods now = .ok (counts, total) ∧ Tallies pods now counts total
  failed (before after : List Pod) {p : Pod} : p.status.phase = some "Failed" →
    tally (before ++ p :: after) now = tally (before ++ after) now
  permuted {pods others : List Pod} {counts counts' : List (String × Nat)} {total total' : Nat} :
    pods.Perm others → tally pods now = .ok (counts, total) →
    tally others now = .ok (counts', total') → counts.Perm counts' ∧ total = total'
  joined {pods more : List Pod} {counts counts' counts'' : List (String × Nat)}
      {total total' total'' : Nat} :
    tally pods now = .ok (counts, total) → tally more now = .ok (counts', total') →
    tally (pods ++ more) now = .ok (counts'', total'') →
    total'' = total + total' ∧
      ∀ word, countOf counts'' word = countOf counts word + countOf counts' word

/-- Tallying the words of pods tallies the pods. -/
theorem tallies_words {now : DateTime} (hnow : now.offset.isSome = true) (pods : List Pod) :
    Tallies pods now (tallied (wordsOf pods now)) (wordsOf pods now).length where
  listed hpods := by
    rw [tallied, if_neg fun hnil => hpods ((wordsOf_eq_nil_iff hnow).mp hnil)]
    simp only [count_wordsOf]
  count word := by rw [countOf_tallied, count_wordsOf]
  total_eq := length_wordsOf hnow pods
  sum_eq := sum_tallied _
  blank := by rw [tallied_eq_running_iff, wordsOf_eq_nil_iff hnow]

/-- Against a present that has an offset, tallies lose no pods and make none up. -/
theorem tally_conserves {now : DateTime} (hnow : now.offset.isSome = true) : Conserves now where
  tallied pods := ⟨_, _, tally_eq hnow pods, tallies_words hnow pods⟩
  failed before after p hfailed := by
    have hcounted : countedPods (before ++ p :: after) = countedPods (before ++ after) := by
      rw [countedPods_append, countedPods_append, countedPods_cons_of_failed hfailed]
    unfold tally
    rw [hcounted]
  permuted hperm htally htally' := by
    rw [tally_eq hnow] at htally htally'
    cases htally
    cases htally'
    have hwords := wordsOf_perm hperm now
    exact ⟨tallied_perm hwords, hwords.length_eq⟩
  joined htally hmore hjoined := by
    rw [tally_eq hnow] at htally hmore hjoined
    cases htally
    cases hmore
    cases hjoined
    rw [wordsOf_append]
    refine ⟨List.length_append, fun word => ?_⟩
    rw [countOf_tallied, countOf_tallied, countOf_tallied, List.count_append]

/-- Some pods: one crashes in a loop, one has been evicted, and one has failed. -/
def troubled : List Pod :=
  [Pod.looping, { metadata := {}, status := ⟨some "Evicted", []⟩ },
    { metadata := {}, status := ⟨some "Failed", []⟩ }]

/-- The one that has failed is in no count. -/
theorem troubled_conserves :
    Pod.fiveMinutesIn.offset.isSome = true ∧ Conserves Pod.fiveMinutesIn ∧
      (tally troubled Pod.fiveMinutesIn).toOption = some ([("Error", 1), ("Evicted", 1)], 2) ∧
      (tally (troubled ++ [Pod.looping]) Pod.fiveMinutesIn).toOption =
        some ([("Error", 2), ("Evicted", 1)], 3) :=
  ⟨rfl, tally_conserves rfl, by decide +kernel, by decide +kernel⟩

end Rollout
