import Mathlib.Data.List.Forall2
import Rollout.Failure

/-!
# Rollout.Proofs.Outcomes

What it takes for a computation to have a result that may fail on the way: one computation after
another, the same one for each of several values, and a fold.
-/

namespace Rollout.Outcome

variable {ε α β γ : Type}

/-- A chain of two steps has a result if both have. -/
theorem bind_eq_ok_iff {a : Except ε α} {f : α → Except ε β} {b : β} :
    (a >>= f) = .ok b ↔ ∃ x, a = .ok x ∧ f x = .ok b := by
  cases a <;> simp [bind, Except.bind]

theorem eq_ok_of_toOption {a : Except ε α} {x : α} (h : a.toOption = some x) : a = .ok x := by
  cases a with
  | error e => cases h
  | ok y =>
      cases h
      rfl

/-- The error of what failed. -/
def error? : Except ε α → Option ε
  | .error e => some e
  | .ok _ => none

theorem eq_error_of_error? {a : Except ε α} {e : ε} (h : error? a = some e) : a = .error e := by
  cases a with
  | error e' =>
      cases h
      rfl
  | ok x => cases h

/-- What is made of an outcome is a result if the outcome is. -/
theorem map_eq_ok_iff {a : Except ε α} {f : α → β} {b : β} :
    f <$> a = .ok b ↔ ∃ x, a = .ok x ∧ f x = b := by
  cases a <;> simp [Functor.map, Except.map]

/-- Items have results if the first one has and the others have. -/
theorem mapM_cons_eq_ok_iff {f : α → Outcome β} {a : α} {items : List α} {bs : List β} :
    (a :: items).mapM f = .ok bs ↔
      ∃ b rest, f a = .ok b ∧ items.mapM f = .ok rest ∧ bs = b :: rest := by
  rw [List.mapM_cons, bind_eq_ok_iff]
  simp only [bind_eq_ok_iff, pure, Except.pure, Except.ok.injEq, eq_comm (b := bs)]
  constructor
  · rintro ⟨b, hb, rest, hrest, h⟩
    exact ⟨b, rest, hb, hrest, h⟩
  · rintro ⟨b, rest, hb, hrest, h⟩
    exact ⟨b, hb, rest, hrest, h⟩

/-- A scan has a result if its first step has and the others go on from there. -/
theorem foldlM_cons_eq_ok_iff {f : β → α → Outcome β} {a : α} {items : List α} {first last : β} :
    (a :: items).foldlM f first = .ok last ↔
      ∃ next, f first a = .ok next ∧ items.foldlM f next = .ok last := by
  rw [List.foldlM_cons, bind_eq_ok_iff]

/-- A fold within a fold goes through all parts, one after the other. -/
theorem foldlM_flatMap {f : β → γ → Outcome β} {g : α → List γ} {items : List α} {first : β} :
    (items.flatMap g).foldlM f first = items.foldlM (fun b a => (g a).foldlM f b) first := by
  induction items generalizing first with
  | nil => rfl
  | cons a items ih =>
      rw [List.flatMap_cons, List.foldlM_append, List.foldlM_cons]
      simp only [ih]

/-- What one step of a fold preserves holds after all of them. -/
theorem foldlM_preserves {I : List α → β → Prop} {f : β → α → Outcome β}
    (hstep : ∀ {seen b a b'}, I seen b → f b a = .ok b' → I (seen ++ [a]) b')
    {seen items : List α} {first last : β} (hfirst : I seen first)
    (h : items.foldlM f first = .ok last) : I (seen ++ items) last := by
  induction items generalizing seen first with
  | nil =>
      cases h
      simpa using hfirst
  | cons a items ih =>
      obtain ⟨next, hnext, hlast⟩ := foldlM_cons_eq_ok_iff.mp h
      rw [List.append_cons]
      exact ih (hstep hfirst hnext) hlast

/-- A fold fails at one of its steps, up to which it has succeeded. -/
theorem exists_of_foldlM_eq_error {f : β → α → Outcome β} {items : List α} {first : β}
    {e : Failure} (h : items.foldlM f first = .error e) :
    ∃ before a after b, items = before ++ a :: after ∧ before.foldlM f first = .ok b ∧
      f b a = .error e := by
  induction items generalizing first with
  | nil => cases h
  | cons a items ih =>
      rw [List.foldlM_cons] at h
      cases hnext : f first a with
      | error e' =>
          rw [hnext] at h
          cases h
          exact ⟨[], a, items, first, rfl, rfl, hnext⟩
      | ok next =>
          rw [hnext] at h
          obtain ⟨before, a', after, b, rfl, hbefore, hfails⟩ := ih h
          exact ⟨a :: before, a', after, b, rfl,
            foldlM_cons_eq_ok_iff.mpr ⟨next, hnext, hbefore⟩, hfails⟩

/-- Each value has one result. -/
theorem length_of_mapM {f : α → Outcome β} {items : List α} {bs : List β}
    (h : items.mapM f = .ok bs) : bs.length = items.length := by
  induction items generalizing bs with
  | nil =>
      cases h
      rfl
  | cons a items ih =>
      obtain ⟨b, rest, -, hrest, rfl⟩ := mapM_cons_eq_ok_iff.mp h
      rw [List.length_cons, List.length_cons, ih hrest]

/-- Each result is the one of a value. -/
theorem exists_of_mem_mapM {f : α → Outcome β} {items : List α} {bs : List β}
    (h : items.mapM f = .ok bs) {b : β} (hb : b ∈ bs) : ∃ a ∈ items, f a = .ok b := by
  induction items generalizing bs with
  | nil =>
      cases h
      cases hb
  | cons a items ih =>
      obtain ⟨first, rest, hfirst, hrest, rfl⟩ := mapM_cons_eq_ok_iff.mp h
      obtain rfl | hmem := List.mem_cons.mp hb
      · exact ⟨a, .head _, hfirst⟩
      · obtain ⟨a', ha', hresult⟩ := ih hrest hmem
        exact ⟨a', .tail _ ha', hresult⟩

/-- Each value has one of the results. -/
theorem exists_of_mem_of_mapM {f : α → Outcome β} {items : List α} {bs : List β}
    (h : items.mapM f = .ok bs) {a : α} (ha : a ∈ items) : ∃ b ∈ bs, f a = .ok b := by
  induction items generalizing bs with
  | nil => cases ha
  | cons first items ih =>
      obtain ⟨b, rest, hb, hrest, rfl⟩ := mapM_cons_eq_ok_iff.mp h
      obtain rfl | hmem := List.mem_cons.mp ha
      · exact ⟨b, .head _, hb⟩
      · obtain ⟨b', hb', hresult⟩ := ih hrest hmem
        exact ⟨b', .tail _ hb', hresult⟩

/-- The results are those of the values, one by one. -/
theorem mapM_eq_ok_iff_forall₂ {f : α → Outcome β} {items : List α} {bs : List β} :
    items.mapM f = .ok bs ↔ List.Forall₂ (fun a b => f a = .ok b) items bs := by
  induction items generalizing bs with
  | nil => simp [List.forall₂_nil_left_iff, pure, Except.pure, eq_comm]
  | cons a items ih =>
      rw [mapM_cons_eq_ok_iff, List.forall₂_cons_left_iff]
      simp only [ih]

/-- The computation fails where one of its values does. -/
theorem exists_of_mapM_eq_error {f : α → Outcome β} {items : List α} {e : Failure}
    (h : items.mapM f = .error e) : ∃ a ∈ items, f a = .error e := by
  induction items with
  | nil => cases h
  | cons a items ih =>
      rw [List.mapM_cons] at h
      cases hfirst : f a with
      | error e' =>
          rw [hfirst] at h
          cases h
          exact ⟨a, .head _, hfirst⟩
      | ok b =>
          cases hrest : items.mapM f with
          | error e' =>
              rw [hfirst, hrest] at h
              cases h
              obtain ⟨a', ha', hfails⟩ := ih hrest
              exact ⟨a', .tail _ ha', hfails⟩
          | ok bs =>
              rw [hfirst, hrest] at h
              cases h

/-- Where each value has a result, all of them have theirs. -/
theorem mapM_eq_ok_filterMap {f : α → Outcome β} {items : List α}
    (h : ∀ a ∈ items, ∃ b, f a = .ok b) :
    items.mapM f = .ok (items.filterMap fun a => (f a).toOption) := by
  induction items with
  | nil => rfl
  | cons a items ih =>
      obtain ⟨b, hb⟩ := h a (.head _)
      rw [List.mapM_cons, ih fun a' ha' => h a' (.tail _ ha'), List.filterMap_cons, hb]
      rfl

/-- A fold that combines what each value results in combines all results, if each value has one. -/
theorem foldlM_eq_ok_iff {f : β → α → Outcome β} {g : α → Outcome γ} {combine : β → γ → β}
    (hf : ∀ b a, f b a = combine b <$> g a) {items : List α} {first last : β} :
    items.foldlM f first = .ok last ↔
      ∃ results, items.mapM g = .ok results ∧ last = results.foldl combine first := by
  induction items generalizing first with
  | nil =>
      constructor
      · intro h
        cases h
        exact ⟨[], rfl, rfl⟩
      · rintro ⟨results, h, rfl⟩
        cases h
        rfl
  | cons a items ih =>
      simp only [foldlM_cons_eq_ok_iff, mapM_cons_eq_ok_iff, ih, hf, map_eq_ok_iff]
      constructor
      · rintro ⟨next, ⟨c, hc, rfl⟩, rest, hrest, rfl⟩
        exact ⟨c :: rest, ⟨c, rest, hc, hrest, rfl⟩, rfl⟩
      · rintro ⟨_, ⟨c, rest, hc, hrest, rfl⟩, rfl⟩
        exact ⟨_, ⟨c, hc, rfl⟩, rest, hrest, rfl⟩

end Rollout.Outcome
