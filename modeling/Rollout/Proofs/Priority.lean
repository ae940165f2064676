import Rollout.Proofs.Ranking

/-!
# Rollout.Proofs.Priority

The score of a candidate stands for an order of priorities.

* `Unsurpassed`, `Foremost` — a place whose candidate none outranks, and the first one of these;
  `Foremost.unique` — there is only one;
* `foremost_of_firstMax` — the first one with the highest score stands there;
* `scan`, `Scanned.step`, `scan_eq` — candidates taken one after the other, each of which is kept if
  its score is higher than all before;
* `better`, `best_append` — the best one of two lists is the better one of their best ones;
* `Prioritizes`, `best_prioritizes` — what the choice comes to.
-/

namespace Rollout.RouteCandidate

/-! ## the place of the best one -/

/-- None of several candidates outranks the one at a place. -/
def Unsurpassed (cs : List RouteCandidate) (i : Nat) : Prop :=
  ∃ c, cs[i]? = some c ∧ ∀ other ∈ cs, outranks other.rank c.rank = false

/-- The first place of a candidate that none outranks. -/
structure Foremost (cs : List RouteCandidate) (i : Nat) : Prop where
  unsurpassed : Unsurpassed cs i
  first {j : Nat} : j < i → ¬ Unsurpassed cs j

theorem Foremost.unique {cs : List RouteCandidate} {i j : Nat} (h : Foremost cs i)
    (h' : Foremost cs j) : i = j := by
  obtain hlt | heq | hgt := Nat.lt_trichotomy i j
  · exact absurd h.unsurpassed (h'.first hlt)
  · exact heq
  · exact absurd h'.unsurpassed (h.first hgt)

/-- A candidate does not outrank another one if its score is not greater. -/
theorem outranks_eq_false_iff {c c' : RouteCandidate} :
    outranks c'.rank c.rank = false ↔ c'.score ≤ c.score := by
  rw [← Nat.not_lt, score_lt_iff, Bool.not_eq_true]

/-- The first one with the highest score stands at the first place of a candidate that none
outranks. -/
theorem foremost_of_firstMax {cs : List RouteCandidate} {c : RouteCandidate}
    (h : FirstMax score cs c) : ∃ i, Foremost cs i ∧ cs[i]? = some c := by
  have hhighest : ∀ other ∈ cs, outranks other.rank c.rank = false := by
    intro other hother
    exact outranks_eq_false_iff.mpr (h.le hother)
  obtain ⟨before, after, rfl, hbefore, -⟩ := h
  have hplace : (before ++ c :: after)[before.length]? = some c := by simp
  refine ⟨before.length, ⟨⟨c, hplace, hhighest⟩, ?_⟩, hplace⟩
  intro j hj hunsurpassed
  obtain ⟨earlier, hearlier, hnone⟩ := hunsurpassed
  -- all candidates in front of the best one have lower scores
  have hmem : earlier ∈ before := by
    rw [List.getElem?_append_left hj] at hearlier
    exact List.mem_of_getElem? hearlier
  have hle : c.score ≤ earlier.score := outranks_eq_false_iff.mp (hnone c (by simp))
  have hlt := hbefore earlier hmem
  omega

/-! ## one candidate after the other -/

/-- The candidate that is kept, with its score, and the next one: this one is kept instead if its
score is higher. -/
def scanStep (kept : Option RouteCandidate × Int) (c : RouteCandidate) :
    Option RouteCandidate × Int :=
  if kept.2 < c.score then (some c, c.score) else kept

/-- Candidates are taken one after the other, from nothing and a score below all others on. -/
def scan (cs : List RouteCandidate) : Option RouteCandidate × Int := cs.foldl scanStep (none, -1)

/-- What has been kept of some candidates is the first one with the highest score, with this score. -/
structure Scanned (seen : List RouteCandidate) (kept : Option RouteCandidate × Int) : Prop where
  chosen : Chosen score seen kept.1
  score : kept.2 = kept.1.elim (-1) fun c => (c.score : Int)

/-- A step of the scan takes one more candidate into account. -/
theorem Scanned.step {seen : List RouteCandidate} {kept : Option RouteCandidate × Int}
    (h : Scanned seen kept) (c : RouteCandidate) : Scanned (seen ++ [c]) (scanStep kept c) := by
  obtain ⟨kept, least⟩ := kept
  have hnext := h.chosen.next c
  have hleast := h.score
  cases kept with
  | none =>
      simp only [Option.elim_none] at hnext hleast
      have hlt : least < (c.score : Int) := by omega
      simp only [scanStep, if_pos hlt]
      exact ⟨hnext, rfl⟩
  | some a =>
      simp only [Option.elim_some] at hnext hleast
      subst hleast
      simp only [scanStep, Int.ofNat_lt]
      by_cases hlt : a.score < c.score
      · simp only [if_pos hlt] at hnext ⊢
        exact ⟨hnext, rfl⟩
      · simp only [if_neg hlt] at hnext ⊢
        exact ⟨hnext, rfl⟩

/-- A whole scan takes all of them into account. -/
theorem Scanned.foldl {seen : List RouteCandidate} {kept : Option RouteCandidate × Int}
    (h : Scanned seen kept) (rest : List RouteCandidate) :
    Scanned (seen ++ rest) (rest.foldl scanStep kept) := by
  induction rest generalizing seen kept with
  | nil => simpa using h
  | cons c rest ih =>
      rw [List.append_cons]
      exact ih (h.step c)

/-- What is kept in the end is the best one. -/
theorem scan_eq (cs : List RouteCandidate) : (scan cs).1 = best cs := by
  have hstart : Scanned [] (none, -1) := ⟨rfl, rfl⟩
  have hscanned : Scanned cs (scan cs) := hstart.foldl cs
  exact hscanned.chosen.unique (chosen_best cs)

/-! ## two lists -/

/-- The better one of two candidates, where there are any: the first one, unless the other one
outranks it. -/
def better : Option RouteCandidate → Option RouteCandidate → Option RouteCandidate
  | none, second => second
  | some a, none => some a
  | some a, some b => if outranks b.rank a.rank then some b else some a

/-- The best of two lists is the better one of their best. -/
theorem best_append (xs ys : List RouteCandidate) :
    best (xs ++ ys) = better (best xs) (best ys) := by
  have hx := chosen_best xs
  have hy := chosen_best ys
  refine (chosen_best (xs ++ ys)).unique ?_
  cases hbx : best xs with
  | none =>
      have hnil : xs = [] := by rwa [hbx] at hx
      simpa [better, hnil] using hy
  | some a =>
      rw [hbx] at hx
      cases hby : best ys with
      | none =>
          have hnil : ys = [] := by rwa [hby] at hy
          simpa [better, hnil] using hx
      | some b =>
          rw [hby] at hy
          simp only [better, ← score_lt_iff]
          by_cases hlt : a.score < b.score
          · rw [if_pos hlt]
            have hless : ∀ c ∈ xs, c.score < b.score :=
              fun c hc => Nat.lt_of_le_of_lt (FirstMax.le hx hc) hlt
            exact firstMax_append_iff.mpr (.inr ⟨hy, hless⟩)
          · rw [if_neg hlt]
            have hle : ∀ c ∈ ys, c.score ≤ a.score :=
              fun c hc => Nat.le_trans (FirstMax.le hy hc) (Nat.le_of_not_lt hlt)
            exact firstMax_append_iff.mpr (.inl ⟨hx, hle⟩)

/-! ## the choice -/

/-- A choice among candidates goes by their ranks: it is the candidate at the first place that none
outranks, and what is chosen from two lists is the better one of what is chosen from each. -/
structure Prioritizes (choice : List RouteCandidate → Option RouteCandidate) : Prop where
  nothing {cs : List RouteCandidate} : choice cs = none ↔ cs = []
  foremost {cs : List RouteCandidate} : cs ≠ [] →
    ∃ i c, Foremost cs i ∧ (∀ j, Foremost cs j → j = i) ∧ cs[i]? = some c ∧ choice cs = some c
  parts {xs ys : List RouteCandidate} : choice (xs ++ ys) = better (choice xs) (choice ys)

/-- The candidate with the highest score is chosen by its rank, as scores compare as ranks do.  It is
what a scan keeps in which only a higher score than before counts, from a score below all on. -/
theorem best_prioritizes :
    Prioritizes best ∧ (∀ cs, best cs = (scan cs).1) ∧
      ∀ c c' : RouteCandidate, c.score < c'.score ↔ outranks c'.rank c.rank = true := by
  refine ⟨⟨?_, ?_, ?_⟩, fun cs => (scan_eq cs).symm, fun c c' => score_lt_iff⟩
  case refine_1 => exact fun {cs} => (chosen_best cs).eq_none_iff
  case refine_2 =>
    intro cs hcs
    have hchosen := chosen_best cs
    cases hbest : best cs with
    | none => exact absurd (hchosen.eq_none_iff.mp hbest) hcs
    | some c =>
        rw [hbest] at hchosen
        obtain ⟨i, hforemost, hplace⟩ := foremost_of_firstMax hchosen
        exact ⟨i, c, hforemost, fun j hj => hj.unique hforemost, hplace, rfl⟩
  case refine_3 => exact fun {xs ys} => best_append xs ys

/-- An admitted route is better than one with everything else, and the first one of two equals. -/
example : (best [⟨"a", "", true, false, true, true⟩, ⟨"b", "", false, true, false, false⟩,
    ⟨"c", "", false, true, false, false⟩]).map (·.host) = some "b" := by decide

end Rollout.RouteCandidate
