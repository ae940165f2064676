import Rollout.Time.DateTime

/-!
# Rollout.Proofs.Moments

Which date-times have an order.

* `DateTime.comparable_iff`, `DateTime.notBefore?_eq_true_iff` — what it takes to compare two of them;
* `DateTime.Mixed` — times with an offset among times without one; `DateTime.not_mixed_iff`,
  `DateTime.not_mixed_snoc_iff` — the others can be compared, two by two or one after the other.
-/

namespace Rollout.DateTime

/-- Two times can be compared if both have an offset, or neither has. -/
theorem comparable_iff {t u : DateTime} :
    comparable t u = true ↔ t.offset.isSome = u.offset.isSome := beq_iff_eq

/-- One moment is known not to be before another one if both have an offset or none has one, and it
comes at the same instant or later. -/
theorem notBefore?_eq_true_iff {t u : DateTime} :
    notBefore? t u = some true ↔ t.offset.isSome = u.offset.isSome ∧ u.instant ≤ t.instant := by
  rw [← comparable_iff, notBefore?]
  by_cases h : comparable t u = true
  · simp [h]
  · simp [h]

/-- Some of several times have an offset, and some have none. -/
def Mixed (ts : List DateTime) : Prop :=
  (∃ t ∈ ts, t.offset.isSome = true) ∧ ∃ t ∈ ts, t.offset.isSome = false

theorem not_mixed_nil : ¬ Mixed [] := by simp [Mixed]

/-- More times are mixed if some of them are. -/
theorem Mixed.of_subset {ts us : List DateTime} (h : Mixed ts) (hsub : ts ⊆ us) : Mixed us := by
  obtain ⟨⟨t, ht, hoffset⟩, u, hu, hnone⟩ := h
  exact ⟨⟨t, hsub ht, hoffset⟩, u, hsub hu, hnone⟩

/-- Times are not mixed if and only if any two of them can be compared. -/
theorem not_mixed_iff {ts : List DateTime} :
    ¬ Mixed ts ↔ ∀ t ∈ ts, ∀ u ∈ ts, comparable t u = true := by
  simp only [comparable_iff]
  constructor
  · intro hmixed t ht u hu
    cases htoffset : t.offset.isSome <;> cases huoffset : u.offset.isSome
    · rfl
    · exact absurd ⟨⟨u, hu, huoffset⟩, t, ht, htoffset⟩ hmixed
    · exact absurd ⟨⟨t, ht, htoffset⟩, u, hu, huoffset⟩ hmixed
    · rfl
  · rintro hall ⟨⟨t, ht, hsome⟩, u, hu, hnone⟩
    have hsame := hall t ht u hu
    rw [hsome, hnone] at hsame
    cases hsame

theorem not_mixed_singleton (t : DateTime) : ¬ Mixed [t] := by
  refine not_mixed_iff.mpr fun a ha b hb => ?_
  rw [List.mem_singleton.mp ha, List.mem_singleton.mp hb, comparable_iff]

/-- Times that can be compared stay so with one more if that can be compared with one of them. -/
theorem not_mixed_snoc_iff {ts : List DateTime} {t u : DateTime} (h : ¬ Mixed ts) (ht : t ∈ ts) :
    ¬ Mixed (ts ++ [u]) ↔ comparable u t = true := by
  constructor
  · exact fun hsnoc => not_mixed_iff.mp hsnoc u (by simp) t (by simp [ht])
  · intro hu
    have hall {a : DateTime} (ha : a ∈ ts ++ [u]) : a.offset.isSome = t.offset.isSome := by
      obtain ha | ha := List.mem_append.mp ha
      · exact comparable_iff.mp (not_mixed_iff.mp h a ha t ht)
      · rw [List.mem_singleton.mp ha, comparable_iff.mp hu]
    exact not_mixed_iff.mpr fun a ha b hb => comparable_iff.mpr ((hall ha).trans (hall hb).symm)

end Rollout.DateTime
