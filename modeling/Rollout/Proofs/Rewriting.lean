import Rollout.Proofs.Contents

/-!
# Rollout.Proofs.Rewriting

Documents in which a value is set time and again.

* `IsTree` — documents that can be written as a text and read again: no map has a key twice, or stands
  in several places;
* `marks_inKeyOrder`, `marks_setEntry` — what becomes of the maps of a document;
* `IsTree.set?`, `IsTree.inKeyOrder` — a tree stays one when a value is set in it, and when its keys are
  sorted;
* `SameContents` — documents that contain the same;
* `SameBut.again`, `SameBut.congr` — what is set last counts, and nothing else has changed;
* `SameBut.get?` — it is what is looked up.
-/

namespace Rollout

namespace Document

/-- A document without a key twice in a map, and without a map in several places. -/
structure IsTree (d : Document) : Prop where
  keysDiffer : d.KeysDiffer
  unshared : d.Unshared

/-- Two documents contain the same. -/
def SameContents (d d' : Document) : Prop := ∀ path f, Shows d' path f ↔ Shows d path f

/-- Of two documents with the same contents, both are maps or neither is. -/
theorem SameContents.isMap {d d' : Document} (h : d.SameContents d') (hd : d.isMap = true) :
    d'.isMap = true := by
  obtain ⟨w, hw, hface⟩ := (h [] (.map none [])).mpr (by
    cases d with
    | map mark entries => exact ⟨_, reaches_nil.mpr rfl, rfl⟩
    | _ => cases hd)
  obtain rfl := reaches_nil.mp hw
  cases d' with
  | map mark entries => rfl
  | _ => cases hface

/-! ## marks -/

theorem marksOfEntries_eq_flatMap (entries : List (Document × Document)) :
    marksOfEntries entries = entries.flatMap fun e => e.2.marks := by
  induction entries with
  | nil => rfl
  | cons e rest ih =>
      obtain ⟨k, v⟩ := e
      rw [marksOfEntries, ih, List.flatMap_cons]

/-- Entries in another order have the same marks. -/
theorem marksOfEntries_perm {entries entries' : List (Document × Document)}
    (h : entries.Perm entries') : (marksOfEntries entries).Perm (marksOfEntries entries') := by
  rw [marksOfEntries_eq_flatMap, marksOfEntries_eq_flatMap]
  exact h.flatMap_right _

mutual

/-- Sorting the keys of a document leaves its maps, perhaps in other places. -/
theorem marks_inKeyOrder (d : Document) (h : d.KeysDiffer) : d.inKeyOrder.marks.Perm d.marks := by
  match d with
  | list items =>
      rw [inKeyOrder, marks, marks]
      exact marksOfList_inKeyOrder items fun v hv => by
        obtain ⟨i, hi⟩ := List.getElem?_of_mem hv
        exact h.item hi
  | map mark entries =>
      have hkeys : (inKeyOrderEntries entries).Pairwise Apart := by
        rw [inKeyOrderEntries_eq_map]
        exact List.pairwise_map.mpr h.own
      rw [inKeyOrder, marks, marks]
      refine .append_left _ ((marksOfEntries_perm (ofEntries_sortEntries_perm hkeys)).trans ?_)
      exact marksOfEntries_inKeyOrder entries fun e he => h.value (k := e.1) he
  | null | bool _ | int _ | float _ | text _ | bytes _ | date _ | time _ | endless =>
      exact .refl _
  | set members => exact .refl _

theorem marksOfList_inKeyOrder (items : List Document) (h : ∀ v ∈ items, v.KeysDiffer) :
    (marksOfList (inKeyOrderList items)).Perm (marksOfList items) := by
  match items with
  | [] => exact .refl _
  | d :: rest =>
      rw [inKeyOrderList, marksOfList, marksOfList]
      exact (marks_inKeyOrder d (h d (.head _))).append
        (marksOfList_inKeyOrder rest fun v hv => h v (.tail _ hv))

theorem marksOfEntries_inKeyOrder (entries : List (Document × Document))
    (h : ∀ e ∈ entries, e.2.KeysDiffer) :
    (marksOfEntries (inKeyOrderEntries entries)).Perm (marksOfEntries entries) := by
  match entries with
  | [] => exact .refl _
  | (k, v) :: rest =>
      rw [inKeyOrderEntries, marksOfEntries, marksOfEntries]
      exact (marks_inKeyOrder v (h (k, v) (.head _))).append
        (marksOfEntries_inKeyOrder rest fun e he => h e (.tail _ he))

end

/-- Setting a value whose maps stood there before adds no maps. -/
theorem marks_setEntry {key : String} {value : Document} {entries : List (Document × Document)}
    (h : value.marks.Sublist (((valueOf? key entries).map marks).getD [])) :
    (marksOfEntries (setEntry key value entries)).Sublist (marksOfEntries entries) := by
  induction entries with
  | nil =>
      change (value.marks ++ []).Sublist []
      rw [List.append_nil]
      exact h
  | cons e rest ih =>
      obtain ⟨k, v⟩ := e
      by_cases hk : k = text key
      · subst hk
        rw [valueOf?_cons_self] at h
        rw [setEntry_cons_self, marksOfEntries, marksOfEntries]
        exact h.append_right _
      · rw [valueOf?_cons_of_ne hk] at h
        rw [setEntry_cons_of_ne hk, marksOfEntries, marksOfEntries]
        exact (ih h).append_left _

/-! ## trees -/

/-- The keys of a map or a set stay different when they are sorted. -/
theorem ownKeysDiffer_inKeyOrder {d : Document} (h : d.OwnKeysDiffer) :
    d.inKeyOrder.OwnKeysDiffer := by
  cases d with
  | map mark entries =>
      have hkeys : (inKeyOrderEntries entries).Pairwise Apart := by
        rw [inKeyOrderEntries_eq_map]
        exact List.pairwise_map.mpr h
      exact hkeys.perm (ofEntries_sortEntries_perm hkeys).symm Apart.symm
  | set members =>
      have hmembers : ofEntries (members.map (·, null)) = members.map (·, null) :=
        ofEntries_of_apart h
      simp only [inKeyOrder, hmembers, OwnKeysDiffer, List.map_map, Function.comp_def, List.map_id']
      exact h
  | _ => exact h

/-- A tree is one with its keys in order, too. -/
theorem IsTree.inKeyOrder {d : Document} (h : d.IsTree) : d.inKeyOrder.IsTree := by
  refine ⟨fun path w hw => ?_, ?_⟩
  · obtain ⟨u, hu, rfl⟩ := (reaches_inKeyOrder_iff h.keysDiffer).mp hw
    exact ownKeysDiffer_inKeyOrder (h.keysDiffer.reached hu)
  · exact (marks_inKeyOrder d h.keysDiffer).nodup_iff.mpr h.unshared

/-- A tree stays one when a value without maps is set in it. -/
theorem IsTree.set? {d changed : Document} {outer inner : String} {value : Document}
    (h : d.IsTree) (hvalue : value.KeysDiffer) (hmarks : value.marks = [])
    (hset : d.set? outer inner value = some changed) : changed.IsTree := by
  obtain ⟨mark, entries, innerMark, inside, rfl, hinner⟩ := maps_of_set? hset
  rw [set?_of_unshared h.unshared hinner] at hset
  obtain rfl := Option.some.inj hset
  have hinside : (map innerMark inside).KeysDiffer :=
    h.keysDiffer.value ((mem_iff_valueOf? h.keysDiffer.own).mpr hinner)
  refine ⟨keysDiffer_setEntry h.keysDiffer (keysDiffer_setEntry hinside hvalue), ?_⟩
  -- The value brings no maps, so those in the new document have stood in the old one.
  have hvalues : (marksOfEntries (setEntry inner value inside)).Sublist (marksOfEntries inside) :=
    marks_setEntry (by rw [hmarks]; exact List.nil_sublist _)
  have hentries : (marksOfEntries
      (setEntry outer (map innerMark (setEntry inner value inside)) entries)).Sublist
      (marksOfEntries entries) := by
    refine marks_setEntry ?_
    rw [hinner]
    exact hvalues.append_left _
  exact h.unshared.sublist (hentries.append_left _)

/-- The keys of a map differ in depth if its own do, and those of its values. -/
theorem keysDiffer_map {mark : Option Nat} {entries : List (Document × Document)}
    (h : entries.Pairwise Apart) (hvalues : ∀ e ∈ entries, e.2.KeysDiffer) :
    (map mark entries).KeysDiffer := by
  intro path w hw
  match path with
  | [] =>
    obtain rfl := reaches_nil.mp hw
    exact h
  | .place _ :: _ => exact hw.elim
  | .key k :: path =>
    obtain ⟨v, hv, hw⟩ := reaches_map_key.mp hw
    exact hvalues (k, v) hv path w hw

/-! ## what is set last -/

namespace SameBut

variable {outer inner : String} {value value' d d₁ d₂ : Document}

/-- A value that is set in the place of another one. -/
theorem again (h : SameBut outer inner value d d₁) (h' : SameBut outer inner value' d₁ d₂) :
    SameBut outer inner value' d d₂ :=
  ⟨h'.there, fun path f hpath => (h'.elsewhere path f hpath).trans (h.elsewhere path f hpath)⟩

/-- A document with the same contents has the same change. -/
theorem congr (h : SameBut outer inner value d d₁) (h' : SameContents d₁ d₂) :
    SameBut outer inner value d d₂ :=
  ⟨fun path f => (h' _ f).trans (h.there path f),
    fun path f hpath => (h' path f).trans (h.elsewhere path f hpath)⟩

/-- The value that has been set is the one that is looked up. -/
theorem get? {n : Int} {d' : Document} (h : SameBut outer inner (.int n) d d') (hd' : d'.KeysDiffer) :
    ∃ v, d'.get? outer = some v ∧ v.isMap = true ∧ v.get? inner = some (.int n) := by
  obtain ⟨w, hw, hface⟩ := (h.there [] (.int n)).mpr ⟨.int n, reaches_nil.mpr rfl, rfl⟩
  cases d' with
  | map mark entries =>
      obtain ⟨v, hv, hw⟩ := reaches_map_key.mp hw
      cases v with
      | map mark' inside =>
          obtain ⟨u, hu, hw⟩ := reaches_map_key.mp hw
          obtain rfl := reaches_nil.mp hw
          obtain rfl : u = .int n := by cases u <;> cases hface; rfl
          exact ⟨_, (mem_iff_valueOf? hd'.own).mp hv, rfl,
            (mem_iff_valueOf? (hd'.value hv).own).mp hu⟩
      | _ => exact hw.elim
  | _ => exact hw.elim

end SameBut

end Document

end Rollout
