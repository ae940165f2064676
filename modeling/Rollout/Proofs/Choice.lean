/-!
# Rollout.Proofs.Choice

Going through several things and keeping one, which a later one replaces only if its key is greater.

* `FirstMax` — the first one of the greatest; `firstMax_append_iff`, `FirstMax.exists_of_flatMap`,
  `firstMax_filterMap_iff` — where it is found among things in several parts, or among some of them;
  `FirstMax.unique` — there is only one;
* `FirstMax.next`, `FirstMax.foldl` — one step of going through them, and all steps;
* `Chosen` — what has been kept on the way, if there was anything;
* `SameChoice` — lists that differ in things that come again, from which the same one is kept.
-/

namespace Rollout

variable {α β κ : Type} [LT κ] [LE κ] {key : α → κ}

/-! ## the first of the greatest -/

/-- One of several is the first of the greatest: those before it are less, and those after it are not
greater. -/
def FirstMax (key : α → κ) (items : List α) (a : α) : Prop :=
  ∃ before after, items = before ++ a :: after ∧ (∀ b ∈ before, key b < key a) ∧
    ∀ b ∈ after, key b ≤ key a

theorem FirstMax.mem {items : List α} {a : α} (h : FirstMax key items a) : a ∈ items := by
  obtain ⟨before, after, rfl, -, -⟩ := h
  simp

theorem firstMax_singleton (a : α) : FirstMax key [a] a := ⟨[], [], rfl, by simp, by simp⟩

/-- The first of the greatest among things in two parts is the one of the first part, unless all of
that part are less than the one of the second. -/
theorem firstMax_append_iff {xs ys : List α} {a : α} :
    FirstMax key (xs ++ ys) a ↔
      FirstMax key xs a ∧ (∀ b ∈ ys, key b ≤ key a) ∨
        FirstMax key ys a ∧ ∀ b ∈ xs, key b < key a := by
  constructor
  · rintro ⟨before, after, hsplit, hbefore, hafter⟩
    obtain ⟨middle, rfl, rfl⟩ | ⟨middle, rfl, htail⟩ := List.append_eq_append_iff.mp hsplit
    · exact .inr ⟨⟨middle, after, rfl, fun b hb => hbefore b (by simp [hb]), hafter⟩,
        fun b hb => hbefore b (by simp [hb])⟩
    · cases middle with
      | nil => exact .inr ⟨⟨[], after, htail.symm, by simp, hafter⟩, by simpa using hbefore⟩
      | cons c middle =>
          obtain ⟨rfl, rfl⟩ := List.cons.inj htail
          exact .inl ⟨⟨before, middle, rfl, hbefore, fun b hb => hafter b (by simp [hb])⟩,
            fun b hb => hafter b (by simp [hb])⟩
  · rintro (⟨hx, hys⟩ | ⟨hy, hxs⟩)
    · obtain ⟨before, after, rfl, hbefore, hafter⟩ := hx
      refine ⟨before, after ++ ys, by simp, hbefore, fun b hb => ?_⟩
      exact (List.mem_append.mp hb).elim (hafter b) (hys b)
    · obtain ⟨before, after, rfl, hbefore, hafter⟩ := hy
      refine ⟨xs ++ before, after, by simp, fun b hb => ?_, hafter⟩
      exact (List.mem_append.mp hb).elim (hxs b) (hbefore b)

/-- Among things in groups, the first of the greatest is the one of its group; those of earlier
groups are less, and those of later groups are not greater. -/
theorem FirstMax.exists_of_flatMap {groups : List β} {f : β → List α} {a : α}
    (h : FirstMax key (groups.flatMap f) a) :
    ∃ before g after, groups = before ++ g :: after ∧ FirstMax key (f g) a ∧
      (∀ g' ∈ before, ∀ b ∈ f g', key b < key a) ∧ ∀ g' ∈ after, ∀ b ∈ f g', key b ≤ key a := by
  induction groups with
  | nil => cases h.mem
  | cons g rest ih =>
      obtain ⟨hg, hrest⟩ | ⟨hrest, hg⟩ := firstMax_append_iff.mp h
      · exact ⟨[], g, rest, rfl, hg, by simp,
          fun g' hg' b hb => hrest b (List.mem_flatMap.mpr ⟨g', hg', hb⟩)⟩
      · obtain ⟨before, g', after, rfl, hg', hbefore, hafter⟩ := ih hrest
        refine ⟨g :: before, g', after, rfl, hg', fun g'' hg'' => ?_, hafter⟩
        obtain rfl | hg'' := List.mem_cons.mp hg''
        · exact hg
        · exact hbefore g'' hg''

/-- Where the first of the greatest is found among what some of several things come to. -/
theorem firstMax_filterMap_iff {f : β → Option α} {items : List β} {a : α} :
    FirstMax key (items.filterMap f) a ↔
      ∃ before x after, items = before ++ x :: after ∧ f x = some a ∧
        (∀ y ∈ before, ∀ b, f y = some b → key b < key a) ∧
        ∀ y ∈ after, ∀ b, f y = some b → key b ≤ key a := by
  constructor
  · rintro ⟨before, after, hsplit, hbefore, hafter⟩
    obtain ⟨front, rest, rfl, rfl, hrest⟩ := List.filterMap_eq_append_iff.mp hsplit
    obtain ⟨skipped, x, back, rfl, hskipped, hx, rfl⟩ := List.filterMap_eq_cons_iff.mp hrest
    refine ⟨front ++ skipped, x, back, (List.append_assoc ..).symm, hx, fun y hy b hb => ?_,
      fun y hy b hb => hafter b (List.mem_filterMap.mpr ⟨y, hy, hb⟩)⟩
    obtain hy | hy := List.mem_append.mp hy
    · exact hbefore b (List.mem_filterMap.mpr ⟨y, hy, hb⟩)
    · rw [hskipped y hy] at hb
      cases hb
  · rintro ⟨before, x, after, rfl, hx, hbefore, hafter⟩
    refine ⟨before.filterMap f, after.filterMap f, ?_, fun b hb => ?_, fun b hb => ?_⟩
    · rw [List.filterMap_append, List.filterMap_cons_some hx]
    · obtain ⟨y, hy, hb⟩ := List.mem_filterMap.mp hb
      exact hbefore y hy b hb
    · obtain ⟨y, hy, hb⟩ := List.mem_filterMap.mp hb
      exact hafter y hy b hb

/-! ## what is kept on the way -/

/-- What has been kept of several things: nothing if there are none, and otherwise the first of the
greatest. -/
def Chosen (key : α → κ) (items : List α) : Option α → Prop
  | none => items = []
  | some a => FirstMax key items a

/-- Nothing is chosen only if there is nothing to choose from. -/
theorem Chosen.eq_none_iff {items : List α} {kept : Option α} (h : Chosen key items kept) :
    kept = none ↔ items = [] := by
  cases kept with
  | none => exact ⟨fun _ => h, fun _ => rfl⟩
  | some a =>
      have hne : items ≠ [] := List.ne_nil_of_mem (FirstMax.mem h)
      simp [hne]

section LinearOrder

variable [Std.IsLinearOrder κ] [Std.LawfulOrderLT κ]

/-- No other item has a greater key. -/
theorem FirstMax.le {items : List α} {a b : α} (h : FirstMax key items a) (hb : b ∈ items) :
    key b ≤ key a := by
  obtain ⟨before, after, rfl, hbefore, hafter⟩ := h
  obtain hb | hb := List.mem_append.mp hb
  · exact Std.le_of_lt (hbefore b hb)
  · obtain rfl | hb := List.mem_cons.mp hb
    · exact Std.le_refl (key b)
    · exact hafter b hb

/-- The one that has been kept is kept if the next one is not greater, and replaced if it is. -/
theorem FirstMax.next [DecidableLT κ] {items : List α} {a : α} (h : FirstMax key items a) (b : α) :
    FirstMax key (items ++ [b]) (if key a < key b then b else a) := by
  by_cases hlt : key a < key b
  · rw [if_pos hlt]
    exact firstMax_append_iff.mpr (.inr ⟨firstMax_singleton b,
      fun c hc => Std.lt_of_le_of_lt (h.le hc) hlt⟩)
  · rw [if_neg hlt]
    exact firstMax_append_iff.mpr (.inl ⟨h, by simpa using Std.not_lt.mp hlt⟩)

/-- The first thing is kept, and from then on one step is as for `FirstMax`. -/
theorem Chosen.next [DecidableLT κ] {items : List α} {kept : Option α} (h : Chosen key items kept)
    (b : α) :
    FirstMax key (items ++ [b]) (kept.elim b fun a => if key a < key b then b else a) := by
  cases kept with
  | none =>
      obtain rfl : items = [] := h
      exact firstMax_singleton b
  | some a => exact FirstMax.next h b

/-- Going through further things keeps the first of the greatest of all. -/
theorem FirstMax.foldl [DecidableLT κ] {items : List α} {a : α} (h : FirstMax key items a)
    (rest : List α) :
    FirstMax key (items ++ rest) (rest.foldl (fun a b => if key a < key b then b else a) a) := by
  induction rest generalizing items a with
  | nil => simpa using h
  | cons b rest ih =>
      rw [List.append_cons]
      exact ih (h.next b)

/-- There is only one first of the greatest. -/
theorem FirstMax.unique {items : List α} {a b : α} (ha : FirstMax key items a)
    (hb : FirstMax key items b) : a = b := by
  obtain ⟨before, after, rfl, hbefore, hafter⟩ := ha
  obtain ⟨hb, hle⟩ | ⟨hb, -⟩ := firstMax_append_iff.mp hb
  · have hge : key a ≤ key b := hle a (.head _)
    exact absurd hge (Std.not_le.mpr (hbefore b hb.mem))
  · rw [← List.singleton_append] at hb
    obtain ⟨hb, -⟩ | ⟨hb, hlt⟩ := firstMax_append_iff.mp hb
    · exact (List.mem_singleton.mp hb.mem).symm
    · exact absurd (hafter b hb.mem) (Std.not_le.mpr (hlt a (.head _)))

/-- There is only one thing to choose. -/
theorem Chosen.unique {items : List α} {kept kept' : Option α} (h : Chosen key items kept)
    (h' : Chosen key items kept') : kept = kept' := by
  cases kept with
  | none => exact (h'.eq_none_iff.mpr h).symm
  | some a =>
      cases kept' with
      | none => exact h.eq_none_iff.mpr h'
      | some b => rw [FirstMax.unique h h']

end LinearOrder

/-! ## things that come again -/

/-- Two lists of the same things with the same first ones of the greatest. -/
structure SameChoice (key : α → κ) (xs ys : List α) : Prop where
  mem (a : α) : a ∈ xs ↔ a ∈ ys
  first (a : α) : FirstMax key xs a ↔ FirstMax key ys a

namespace SameChoice

theorem refl (xs : List α) : SameChoice key xs xs := ⟨fun _ => .rfl, fun _ => .rfl⟩

theorem symm {xs ys : List α} (h : SameChoice key xs ys) : SameChoice key ys xs :=
  ⟨fun a => (h.mem a).symm, fun a => (h.first a).symm⟩

theorem trans {xs ys zs : List α} (h : SameChoice key xs ys) (h' : SameChoice key ys zs) :
    SameChoice key xs zs :=
  ⟨fun a => (h.mem a).trans (h'.mem a), fun a => (h.first a).trans (h'.first a)⟩

/-- Lists of the same choice may be put after each other. -/
theorem append {xs xs' ys ys' : List α} (hx : SameChoice key xs xs')
    (hy : SameChoice key ys ys') : SameChoice key (xs ++ ys) (xs' ++ ys') where
  mem a := by rw [List.mem_append, List.mem_append, hx.mem, hy.mem]
  first a := by simp only [firstMax_append_iff, hx.first, hy.first, hx.mem, hy.mem]

/-- And so may lists for each item of another one. -/
theorem flatMap {groups : List β} {f g : β → List α}
    (h : ∀ b ∈ groups, SameChoice key (f b) (g b)) :
    SameChoice key (groups.flatMap f) (groups.flatMap g) := by
  induction groups with
  | nil => exact refl []
  | cons b rest ih =>
      exact (h b (.head _)).append (ih fun b' hb' => h b' (.tail _ hb'))

/-- From lists of the same choice, the same is chosen. -/
theorem chosen {xs ys : List α} (h : SameChoice key xs ys) {kept : Option α}
    (hx : Chosen key xs kept) : Chosen key ys kept := by
  cases kept with
  | none =>
      obtain rfl : xs = [] := hx
      exact List.eq_nil_iff_forall_not_mem.mpr fun a ha => List.not_mem_nil ((h.mem a).mpr ha)
  | some a => exact (h.first a).mp hx

variable [Std.IsLinearOrder κ] [Std.LawfulOrderLT κ]

/-- Things that come again at the end. -/
theorem append_of_subset {xs ys : List α} (h : ys ⊆ xs) : SameChoice key (xs ++ ys) xs where
  mem a := by simpa using @h a
  first a := by
    rw [firstMax_append_iff]
    constructor
    · rintro (⟨hx, -⟩ | ⟨hy, hlt⟩)
      · exact hx
      · exact absurd (hlt a (h hy.mem)) Std.lt_irrefl
    · exact fun hx => .inl ⟨hx, fun b hb => hx.le (h hb)⟩

/-- It does not matter how often one thing comes again. -/
theorem replicate (m n : Nat) (a : α) :
    SameChoice key (List.replicate (m + 1) a) (List.replicate (n + 1) a) := by
  have hone (k : Nat) : SameChoice key ([a] ++ List.replicate k a) [a] :=
    append_of_subset fun b hb => by simp [List.eq_of_mem_replicate hb]
  rw [List.replicate_succ, List.replicate_succ]
  exact (hone m).trans (hone n).symm

end SameChoice

end Rollout
