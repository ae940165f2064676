import Rollout.Document.Order

/-!
# Rollout.Proofs.Contents

What a document contains, whatever the order of its keys.

* `Reaches`, `Shows` — what stands at the end of a path into a document;
* `KeysDiffer`, `Unshared` — documents in which no map has a key twice, and in which no map stands in
  several places;
* `sorted_perm`, `shows_inKeyOrder` — sorting the keys of a document changes nothing that it
  contains;
* `sameBut_set?` — setting a value under two keys changes what stands there, and nothing else.
-/

namespace Rollout

/-! ## sorting -/

section

variable {α : Type} (before : α → α → Bool)

/-- A stretch and what comes after it are the whole list. -/
theorem stretch_append (follows : α → α → Bool) (a : α) (rest : List α) :
    (stretch follows a rest).1 ++ (stretch follows a rest).2 = a :: rest := by
  induction rest generalizing a with
  | nil => rfl
  | cons b rest ih =>
      rw [stretch]
      split
      · rw [List.cons_append, ih b]
      · rfl

/-- The first run and what comes after it are the list, perhaps in another order. -/
theorem firstRun_perm (members : List α) :
    ((firstRun before members).1 ++ (firstRun before members).2).Perm members := by
  match members with
  | [] => exact .nil
  | [a] => exact .refl _
  | a :: b :: rest =>
    rw [firstRun]
    split
    · have hwhole := stretch_append (fun x y => before y x) a (b :: rest)
      exact ((List.reverse_perm _).append_right _).trans (.of_eq hwhole)
    · exact .of_eq (stretch_append _ a (b :: rest))

/-- Putting an entry in its place loses none. -/
theorem putInPlace_perm (others : List α) (a : α) :
    (putInPlace before others a).Perm (a :: others) := by
  rw [putInPlace]
  have hwhole := List.take_append_drop (placeFor before a others.toArray 0 others.length) others
  exact List.perm_middle.trans (.cons a (.of_eq hwhole))

/-- A sorted list has the members of the list, whatever its order is. -/
theorem sorted_perm (members : List α) : (sorted before members).Perm members := by
  have hput (run more : List α) : (more.foldl (putInPlace before) run).Perm (run ++ more) := by
    induction more generalizing run with
    | nil => rw [List.foldl_nil, List.append_nil]
    | cons a more ih =>
        rw [List.foldl_cons]
        have hfirst := (putInPlace_perm before run a).append_right more
        exact (ih _).trans (hfirst.trans List.perm_middle.symm)
  exact (hput _ _).trans (firstRun_perm before members)

end

namespace Document

/-! ## keys -/

theorem sameSize_comm (a b : Document) : sameSize a b = sameSize b a := by
  unfold sameSize
  cases a.size? <;> cases b.size? <;> simp [eq_comm]

theorem sameKey_comm (a b : Document) : sameKey a b = sameKey b a := by
  cases a <;> cases b <;>
    simp only [sameKey, DateTime.comparable, Bool.beq_comm, eq_comm]
  case float.float x y =>
    cases x <;> cases y
    case nan.nan => rfl
    all_goals exact sameSize_comm _ _
  all_goals exact sameSize_comm _ _

/-- Two entries of a map have different keys. -/
def Apart (a b : Document × Document) : Prop := sameKey a.1 b.1 = false

theorem Apart.symm {a b : Document × Document} (h : Apart a b) : Apart b a := by
  rw [Apart, sameKey_comm]
  exact h

theorem sameSize_text (k : Document) (s : String) : sameSize k (text s) = false := by
  have hnone : (text s).size? = none := rfl
  rw [sameSize, hnone]
  cases k.size? <;> rfl

/-- Only a text is the same key as a text. -/
theorem sameKey_text_iff {k : Document} {s : String} : sameKey k (text s) = true ↔ k = text s := by
  cases k with
  | text a => simp [sameKey]
  | float x => cases x <;> simp [sameKey, sameSize_text]
  | _ => simp [sameKey, sameSize_text]

theorem not_apart_text (key : String) (u v : Document) : ¬ Apart (text key, u) (text key, v) := by
  rw [Apart, sameKey_text_iff.mpr rfl]
  exact Bool.noConfusion

/-- A new key comes last. -/
theorem insert_of_apart {key value : Document} {entries : List (Document × Document)}
    (h : ∀ e ∈ entries, Apart e (key, value)) :
    insert key value entries = entries ++ [(key, value)] := by
  induction entries with
  | nil => rfl
  | cons e rest ih =>
      have hfirst : sameKey e.1 key = false := h e (.head _)
      rw [insert, hfirst, ih fun e' he => h e' (.tail _ he)]
      rfl

/-- Entries with different keys are a map as they are. -/
theorem ofEntries_of_apart {entries : List (Document × Document)} (h : entries.Pairwise Apart) :
    ofEntries entries = entries := by
  have hfold (done : List (Document × Document)) (hall : (done ++ entries).Pairwise Apart) :
      entries.foldl (fun done e => insert e.1 e.2 done) done = done ++ entries := by
    clear h
    induction entries generalizing done with
    | nil => rw [List.foldl_nil, List.append_nil]
    | cons e rest ih =>
        have hnew : ∀ e' ∈ done, Apart e' e := by
          intro e' he
          exact (List.pairwise_append.mp hall).2.2 e' he e (.head _)
        rw [List.append_cons] at hall
        rw [List.foldl_cons, insert_of_apart hnew, ih _ hall, ← List.append_cons]
  exact hfold [] h

/-- Sorting entries keeps all of them. -/
theorem sortEntries_perm (entries : List (Document × Document)) :
    (sortEntries entries).Perm entries := by
  unfold sortEntries
  split
  · exact sorted_perm _ _
  · exact .refl _

/-- Sorting entries with different keys leaves the same entries. -/
theorem ofEntries_sortEntries_perm {entries : List (Document × Document)}
    (h : entries.Pairwise Apart) : (ofEntries (sortEntries entries)).Perm entries := by
  have hperm := sortEntries_perm entries
  rw [ofEntries_of_apart (h.perm hperm.symm Apart.symm)]
  exact hperm

/-! ## paths -/

/-- A step into a document. -/
inductive Into where
  | key (k : Document)
  | place (i : Nat)

/-- A path leads from a document to another one within it. -/
def Reaches : Document → List Into → Document → Prop
  | d, [], w => d = w
  | map _ entries, .key k :: path, w => ∃ v, (k, v) ∈ entries ∧ Reaches v path w
  | list items, .place i :: path, w => ∃ v, items[i]? = some v ∧ Reaches v path w
  | _, _, _ => False

/-- A document without what is in it. -/
def face : Document → Document
  | list _ => list []
  | map _ _ => map none []
  | d => d

/-- What stands at the end of a path, apart from what is further in. -/
def Shows (d : Document) (path : List Into) (f : Document) : Prop :=
  ∃ w, Reaches d path w ∧ w.face = f

@[simp] theorem reaches_nil {d w : Document} : Reaches d [] w ↔ d = w := by
  cases d <;> rfl

@[simp] theorem reaches_map_key {mark : Option Nat} {entries : List (Document × Document)}
    {k w : Document} {path : List Into} :
    Reaches (map mark entries) (.key k :: path) w ↔ ∃ v, (k, v) ∈ entries ∧ Reaches v path w :=
  Iff.rfl

@[simp] theorem reaches_list_place {items : List Document} {i : Nat} {w : Document}
    {path : List Into} :
    Reaches (list items) (.place i :: path) w ↔ ∃ v, items[i]? = some v ∧ Reaches v path w :=
  Iff.rfl

/-- A map has no key twice, and a set no member. -/
def OwnKeysDiffer : Document → Prop
  | map _ entries => entries.Pairwise Apart
  | set members => (members.map (·, null)).Pairwise Apart
  | _ => True

/-- In a document, no map has a key twice, and no set a member. -/
def KeysDiffer (d : Document) : Prop := ∀ path w, Reaches d path w → w.OwnKeysDiffer

theorem KeysDiffer.own {d : Document} (h : d.KeysDiffer) : d.OwnKeysDiffer :=
  h [] d (reaches_nil.mpr rfl)

/-- The keys of a value in a map differ if those of the map do in depth. -/
theorem KeysDiffer.value {mark : Option Nat} {entries : List (Document × Document)}
    {k v : Document} (h : (map mark entries).KeysDiffer) (hv : (k, v) ∈ entries) : v.KeysDiffer :=
  fun path w hw => h (.key k :: path) w ⟨v, hv, hw⟩

/-- So do those of an item in a list. -/
theorem KeysDiffer.item {items : List Document} {i : Nat} {v : Document}
    (h : (list items).KeysDiffer) (hv : items[i]? = some v) : v.KeysDiffer :=
  fun path w hw => h (.place i :: path) w ⟨v, hv, hw⟩

/-- And those of everything that a path leads to. -/
theorem KeysDiffer.reached {d w : Document} {path : List Into} (h : d.KeysDiffer)
    (hw : Reaches d path w) : w.OwnKeysDiffer := h path w hw

/-- A number can be set anywhere. -/
theorem keysDiffer_int (n : Int) : (int n).KeysDiffer := by
  intro path w hw
  match path with
  | [] =>
    obtain rfl := reaches_nil.mp hw
    trivial
  | .key _ :: _ | .place _ :: _ => exact hw.elim

/-! ## sorting the keys of a document -/

theorem inKeyOrderList_eq_map (items : List Document) :
    inKeyOrderList items = items.map inKeyOrder := by
  induction items with
  | nil => rfl
  | cons d rest ih => rw [inKeyOrderList, ih, List.map_cons]

theorem inKeyOrderEntries_eq_map (entries : List (Document × Document)) :
    inKeyOrderEntries entries = entries.map fun e => (e.1, e.2.inKeyOrder) := by
  induction entries with
  | nil => rfl
  | cons e rest ih => rw [inKeyOrderEntries, ih, List.map_cons]

/-- The entries of a map whose keys have been sorted. -/
theorem mem_inKeyOrder_iff {entries : List (Document × Document)} (h : entries.Pairwise Apart)
    {k v : Document} :
    (k, v) ∈ ofEntries (sortEntries (inKeyOrderEntries entries)) ↔
      ∃ u, (k, u) ∈ entries ∧ u.inKeyOrder = v := by
  rw [inKeyOrderEntries_eq_map]
  have hkeys : (entries.map fun e => (e.1, e.2.inKeyOrder)).Pairwise Apart :=
    List.pairwise_map.mpr h
  rw [(ofEntries_sortEntries_perm hkeys).mem_iff, List.mem_map]
  constructor
  · rintro ⟨⟨k', u⟩, hu, heq⟩
    obtain ⟨rfl, rfl⟩ := Prod.mk.inj heq
    exact ⟨u, hu, rfl⟩
  · rintro ⟨u, hu, rfl⟩
    exact ⟨(k, u), hu, rfl⟩

/-- The same paths lead into a document and into the one with its keys sorted. -/
theorem reaches_inKeyOrder_iff {d : Document} (h : d.KeysDiffer) {path : List Into}
    {w : Document} :
    Reaches d.inKeyOrder path w ↔ ∃ u, Reaches d path u ∧ u.inKeyOrder = w := by
  induction path generalizing d with
  | nil => simp
  | cons step path ih =>
      cases d with
      | map mark entries =>
          cases step with
          | place i => simp [inKeyOrder, Reaches]
          | key k =>
              simp only [inKeyOrder, reaches_map_key, mem_inKeyOrder_iff h.own]
              constructor
              · rintro ⟨_, ⟨u, hu, rfl⟩, hw⟩
                obtain ⟨x, hx, rfl⟩ := (ih (h.value hu)).mp hw
                exact ⟨x, ⟨u, hu, hx⟩, rfl⟩
              · rintro ⟨x, ⟨u, hu, hx⟩, rfl⟩
                exact ⟨_, ⟨u, hu, rfl⟩, (ih (h.value hu)).mpr ⟨x, hx, rfl⟩⟩
      | list items =>
          cases step with
          | key k => simp [inKeyOrder, Reaches]
          | place i =>
              simp only [inKeyOrder, inKeyOrderList_eq_map, reaches_list_place, List.getElem?_map,
                Option.map_eq_some_iff]
              constructor
              · rintro ⟨_, ⟨u, hu, rfl⟩, hw⟩
                obtain ⟨x, hx, rfl⟩ := (ih (h.item hu)).mp hw
                exact ⟨x, ⟨u, hu, hx⟩, rfl⟩
              · rintro ⟨x, ⟨u, hu, hx⟩, rfl⟩
                exact ⟨_, ⟨u, hu, rfl⟩, (ih (h.item hu)).mpr ⟨x, hx, rfl⟩⟩
      | _ => cases step <;> simp [inKeyOrder, Reaches]

/-- Sorting the keys does not change what a document looks like from outside. -/
theorem face_inKeyOrder {d : Document} (h : d.OwnKeysDiffer) : d.inKeyOrder.face = d.face := by
  cases d with
  | set members =>
      have hmembers : ofEntries (members.map (·, null)) = members.map (·, null) :=
        ofEntries_of_apart h
      simp [inKeyOrder, face, hmembers, Function.comp_def]
  | _ => simp [inKeyOrder, face]

/-- Sorting the keys of a document changes nothing that it contains. -/
theorem shows_inKeyOrder {d : Document} (h : d.KeysDiffer) {path : List Into} {f : Document} :
    Shows d.inKeyOrder path f ↔ Shows d path f := by
  constructor
  · rintro ⟨w, hw, rfl⟩
    obtain ⟨u, hu, rfl⟩ := (reaches_inKeyOrder_iff h).mp hw
    exact ⟨u, hu, (face_inKeyOrder (h.reached hu)).symm⟩
  · rintro ⟨u, hu, rfl⟩
    exact ⟨_, (reaches_inKeyOrder_iff h).mpr ⟨u, hu, rfl⟩, face_inKeyOrder (h.reached hu)⟩

/-! ## setting a value -/

mutual

/-- The marks of the maps in a document, each as often as its map stands there. -/
def marks : Document → List Nat
  | list items => marksOfList items
  | map mark entries => mark.toList ++ marksOfEntries entries
  | _ => []

def marksOfList : List Document → List Nat
  | [] => []
  | d :: ds => marks d ++ marksOfList ds

def marksOfEntries : List (Document × Document) → List Nat
  | [] => []
  | (_, v) :: rest => marks v ++ marksOfEntries rest

end

/-- No map stands in several places of a document. -/
def Unshared (d : Document) : Prop := d.marks.Nodup

mutual

/-- Where a map does not stand, replacing it changes nothing. -/
theorem substitute_of_not_mem {m : Nat} {whole : Document} (d : Document) (h : m ∉ d.marks) :
    substitute m whole d = d := by
  match d with
  | list items =>
      rw [substitute, substituteList_of_not_mem items h]
  | map mark entries =>
      rw [marks, List.mem_append, not_or] at h
      obtain ⟨hmark, hentries⟩ := h
      have hother : mark ≠ some m := by
        rintro rfl
        simp at hmark
      rw [substitute, if_neg hother, substituteEntries_of_not_mem entries hentries]
  | null | bool _ | int _ | float _ | text _ | bytes _ | date _ | time _ | set _
  | endless => rfl

/-- Where a mark does not occur, nothing is substituted for it. -/
theorem substituteList_of_not_mem {m : Nat} {whole : Document} (items : List Document)
    (h : m ∉ marksOfList items) : substituteList m whole items = items := by
  match items with
  | [] => rfl
  | d :: rest =>
      rw [marksOfList, List.mem_append, not_or] at h
      rw [substituteList, substitute_of_not_mem d h.1, substituteList_of_not_mem rest h.2]

theorem substituteEntries_of_not_mem {m : Nat} {whole : Document}
    (entries : List (Document × Document)) (h : m ∉ marksOfEntries entries) :
    substituteEntries m whole entries = entries := by
  match entries with
  | [] => rfl
  | (k, v) :: rest =>
      rw [marksOfEntries, List.mem_append, not_or] at h
      rw [substituteEntries, substitute_of_not_mem v h.1, substituteEntries_of_not_mem rest h.2]

end

theorem valueOf?_cons_self (key : String) (v : Document) (rest : List (Document × Document)) :
    valueOf? key ((text key, v) :: rest) = some v := by
  rw [valueOf?, if_pos rfl]

theorem valueOf?_cons_of_ne {key : String} {k : Document} (h : k ≠ text key) (v : Document)
    (rest : List (Document × Document)) : valueOf? key ((k, v) :: rest) = valueOf? key rest := by
  cases k with
  | text a =>
      have ha : a ≠ key := fun heq => h (congrArg text heq)
      rw [valueOf?, if_neg ha]
  | _ => rfl

theorem setEntry_cons_self (key : String) (value v : Document)
    (rest : List (Document × Document)) :
    setEntry key value ((text key, v) :: rest) = (text key, value) :: rest := by
  rw [setEntry, insert, if_pos (sameKey_text_iff.mpr rfl)]

theorem setEntry_cons_of_ne {key : String} {k : Document} (h : k ≠ text key) (value v : Document)
    (rest : List (Document × Document)) :
    setEntry key value ((k, v) :: rest) = (k, v) :: setEntry key value rest := by
  rw [setEntry, insert, if_neg fun hsame => h (sameKey_text_iff.mp hsame)]
  rfl

/-- In entries with different keys, the value under a key is the only one there. -/
theorem mem_iff_valueOf? {key : String} {entries : List (Document × Document)}
    (h : entries.Pairwise Apart) {v : Document} :
    (text key, v) ∈ entries ↔ valueOf? key entries = some v := by
  induction entries with
  | nil => simp [valueOf?]
  | cons e rest ih =>
      obtain ⟨k, u⟩ := e
      obtain ⟨hfirst, hrest⟩ := List.pairwise_cons.mp h
      by_cases hk : k = text key
      · subst hk
        have hnone : (text key, v) ∉ rest := fun hmem => not_apart_text key u v (hfirst _ hmem)
        rw [valueOf?_cons_self, List.mem_cons]
        simp [hnone, eq_comm]
      · rw [valueOf?_cons_of_ne hk, List.mem_cons, ih hrest]
        simp [Ne.symm hk]

/-- Setting the value under a key of different keys changes this entry, and no other one. -/
theorem mem_setEntry_iff {key : String} {value : Document}
    {entries : List (Document × Document)} (h : entries.Pairwise Apart) {k v : Document} :
    (k, v) ∈ setEntry key value entries ↔
      k = text key ∧ v = value ∨ k ≠ text key ∧ (k, v) ∈ entries := by
  induction entries with
  | nil =>
      simp [setEntry, insert]
  | cons e rest ih =>
      obtain ⟨k', u⟩ := e
      obtain ⟨hfirst, hrest⟩ := List.pairwise_cons.mp h
      by_cases hk' : k' = text key
      · subst hk'
        have hother : (k, v) ∈ rest → k ≠ text key := by
          rintro hmem rfl
          exact not_apart_text key u v (hfirst _ hmem)
        rw [setEntry_cons_self, List.mem_cons, List.mem_cons, Prod.mk.injEq, Prod.mk.injEq]
        constructor
        · rintro (hnew | hmem)
          · exact .inl hnew
          · exact .inr ⟨hother hmem, .inr hmem⟩
        · rintro (hnew | ⟨hne, ⟨heq, -⟩ | hmem⟩)
          · exact .inl hnew
          · exact absurd heq hne
          · exact .inr hmem
      · rw [setEntry_cons_of_ne hk', List.mem_cons, List.mem_cons, ih hrest, Prod.mk.injEq]
        constructor
        · rintro (⟨rfl, rfl⟩ | hnew | ⟨hne, hmem⟩)
          · exact .inr ⟨hk', .inl ⟨rfl, rfl⟩⟩
          · exact .inl hnew
          · exact .inr ⟨hne, .inr hmem⟩
        · rintro (hnew | ⟨hne, hold | hmem⟩)
          · exact .inr (.inl hnew)
          · exact .inl hold
          · exact .inr (.inr ⟨hne, hmem⟩)

/-- Different keys stay different when a value is set. -/
theorem apart_setEntry {key : String} {value : Document} {entries : List (Document × Document)}
    (h : entries.Pairwise Apart) : (setEntry key value entries).Pairwise Apart := by
  induction entries with
  | nil => exact List.pairwise_singleton _ _
  | cons e rest ih =>
      obtain ⟨k, u⟩ := e
      obtain ⟨hfirst, hrest⟩ := List.pairwise_cons.mp h
      by_cases hk : k = text key
      · subst hk
        rw [setEntry_cons_self]
        exact List.pairwise_cons.mpr ⟨hfirst, hrest⟩
      · rw [setEntry_cons_of_ne hk]
        refine List.pairwise_cons.mpr ⟨?_, ih hrest⟩
        rintro ⟨k', v'⟩ hmem
        obtain ⟨rfl, rfl⟩ | ⟨-, hmem⟩ := (mem_setEntry_iff hrest).mp hmem
        · rw [Apart, ← Bool.not_eq_true, sameKey_text_iff]
          exact hk
        · exact hfirst _ hmem

/-- A mark in a value occurs among those of all entries. -/
theorem mem_marksOfEntries {m : Nat} {key : String} {v : Document}
    {entries : List (Document × Document)} (hm : m ∈ marks v)
    (hvalue : valueOf? key entries = some v) : m ∈ marksOfEntries entries := by
  induction entries with
  | nil => contradiction
  | cons e rest ih =>
      obtain ⟨k, u⟩ := e
      rw [marksOfEntries, List.mem_append]
      by_cases hk : k = text key
      · subst hk
        rw [valueOf?_cons_self] at hvalue
        obtain rfl := Option.some.inj hvalue
        exact .inl hm
      · rw [valueOf?_cons_of_ne hk] at hvalue
        exact .inr (ih hvalue)

/-- Where no map is shared, replacing the one under a key is setting the value there. -/
theorem substituteEntries_eq_setEntry {m : Nat} {key : String} {whole : Document}
    {inside entries : List (Document × Document)} (h : (marksOfEntries entries).Nodup)
    (hvalue : valueOf? key entries = some (map (some m) inside)) :
    substituteEntries m whole entries = setEntry key whole entries := by
  induction entries with
  | nil => contradiction
  | cons e rest ih =>
      obtain ⟨k, v⟩ := e
      rw [marksOfEntries] at h
      obtain ⟨-, hrest, hapart⟩ := List.nodup_append.mp h
      by_cases hk : k = text key
      · subst hk
        rw [valueOf?_cons_self] at hvalue
        obtain rfl := Option.some.inj hvalue
        have hm : m ∉ marksOfEntries rest := fun hmem => hapart m (by simp [marks]) m hmem rfl
        rw [setEntry_cons_self, substituteEntries, substituteEntries_of_not_mem rest hm, substitute,
          if_pos rfl]
      · rw [valueOf?_cons_of_ne hk] at hvalue
        have hm : m ∈ marksOfEntries rest := mem_marksOfEntries (by simp [marks]) hvalue
        have hv : m ∉ marks v := fun hmem => hapart m hmem m hm rfl
        rw [setEntry_cons_of_ne hk, substituteEntries, substitute_of_not_mem v hv, ih hrest hvalue]

/-- Where no map is shared, a value is set under two keys by setting it in the inner map. -/
theorem set?_of_unshared {outer inner : String} {value : Document} {mark : Option Nat}
    {entries : List (Document × Document)} (h : (map mark entries).Unshared)
    {innerMark : Option Nat} {inside : List (Document × Document)}
    (hvalue : valueOf? outer entries = some (map innerMark inside)) :
    (map mark entries).set? outer inner value =
      some (map mark (setEntry outer (map innerMark (setEntry inner value inside)) entries)) := by
  unfold set?
  rw [get?_map, hvalue]
  cases innerMark with
  | none => rfl
  | some m =>
      rw [Unshared, marks] at h
      obtain ⟨-, hentries, hapart⟩ := List.nodup_append.mp h
      have hother : mark ≠ some m := by
        rintro rfl
        exact hapart m (by simp) m (mem_marksOfEntries (by simp [marks]) hvalue) rfl
      simp only
      rw [substitute, if_neg hother, substituteEntries_eq_setEntry hentries hvalue]

section

variable {mark mark' : Option Nat} {key : String} {value : Document}
  {entries : List (Document × Document)} {path : List Into} {f : Document}

/-- What a map shows below a key is shown by an entry with this key. -/
theorem shows_map_key {k : Document} :
    Shows (map mark entries) (.key k :: path) f ↔ ∃ v, (k, v) ∈ entries ∧ Shows v path f := by
  simp only [Shows, reaches_map_key]
  constructor
  · rintro ⟨w, ⟨v, hv, hw⟩, hf⟩
    exact ⟨v, hv, w, hw, hf⟩
  · rintro ⟨v, hv, w, hw, hf⟩
    exact ⟨w, ⟨v, hv, hw⟩, hf⟩

/-- If keys differ, that is the value of the key. -/
theorem shows_value (h : entries.Pairwise Apart) {v : Document}
    (hvalue : valueOf? key entries = some v) :
    Shows (map mark entries) (.key (text key) :: path) f ↔ Shows v path f := by
  simp only [shows_map_key, mem_iff_valueOf? h, hvalue, Option.some.injEq]
  exact exists_eq_left'

/-- Setting an entry makes its value show below the key. -/
theorem shows_setEntry_self (h : entries.Pairwise Apart) :
    Shows (map mark (setEntry key value entries)) (.key (text key) :: path) f ↔
      Shows value path f := by
  simp [shows_map_key, mem_setEntry_iff h]

/-- What shows below other keys stays. -/
theorem shows_setEntry_of_ne (h : entries.Pairwise Apart) {k : Document} (hk : k ≠ text key) :
    Shows (map mark (setEntry key value entries)) (.key k :: path) f ↔
      Shows (map mark' entries) (.key k :: path) f := by
  simp [shows_map_key, mem_setEntry_iff h, hk]

/-- Setting a value changes nothing but what stands under its key. -/
theorem shows_setEntry (h : entries.Pairwise Apart)
    (hpath : ∀ rest, path = .key (text key) :: rest → False) :
    Shows (map mark (setEntry key value entries)) path f ↔ Shows (map mark' entries) path f := by
  match path with
  | [] => simp [Shows, face]
  | .place i :: rest => simp [Shows, Reaches]
  | .key k :: rest =>
    have hk : k ≠ text key := by
      rintro rfl
      exact hpath rest rfl
    exact shows_setEntry_of_ne h hk

/-- Keys still differ when an entry is set. -/
theorem keysDiffer_setEntry (h : (map mark entries).KeysDiffer) (hv : value.KeysDiffer) :
    (map mark' (setEntry key value entries)).KeysDiffer := by
  intro path w hw
  match path with
  | [] =>
    obtain rfl := reaches_nil.mp hw
    exact apart_setEntry h.own
  | .place i :: rest => exact hw.elim
  | .key k :: rest =>
    obtain ⟨v, hmem, hw⟩ := hw
    obtain ⟨-, rfl⟩ | ⟨-, hmem⟩ := (mem_setEntry_iff h.own).mp hmem
    · exact hv rest w hw
    · exact h.value hmem rest w hw

end

/-- A document that is another one except for the value under two keys. -/
structure SameBut (outer inner : String) (value old new : Document) : Prop where
  there (path : List Into) (f : Document) :
    Shows new (.key (text outer) :: .key (text inner) :: path) f ↔ Shows value path f
  elsewhere (path : List Into) (f : Document) :
    ¬ [.key (text outer), .key (text inner)] <+: path → (Shows new path f ↔ Shows old path f)

/-- Setting a value under two keys changes what stands there, and nothing else. -/
theorem sameBut_setEntry {outer inner : String} {value : Document}
    {mark innerMark : Option Nat} {entries inside : List (Document × Document)}
    (h : (map mark entries).KeysDiffer)
    (hvalue : valueOf? outer entries = some (map innerMark inside)) :
    SameBut outer inner value (map mark entries)
      (map mark (setEntry outer (map innerMark (setEntry inner value inside)) entries)) := by
  have hinside : inside.Pairwise Apart := (h.value ((mem_iff_valueOf? h.own).mpr hvalue)).own
  refine ⟨fun path f => ?_, fun path f hpath => ?_⟩
  · rw [shows_setEntry_self h.own, shows_setEntry_self hinside]
  · by_cases houter : ∃ rest, path = .key (text outer) :: rest
    · obtain ⟨rest, rfl⟩ := houter
      have hrest : ∀ more, rest = .key (text inner) :: more → False := by
        rintro more rfl
        exact hpath ⟨more, rfl⟩
      rw [shows_setEntry_self h.own, shows_value h.own hvalue]
      exact shows_setEntry hinside hrest
    · exact shows_setEntry h.own fun rest hrest => houter ⟨rest, hrest⟩

/-- A value can only be set under two keys of a map within a map. -/
theorem maps_of_set? {d changed : Document} {outer inner : String} {value : Document}
    (h : d.set? outer inner value = some changed) :
    ∃ mark entries innerMark inside, d = map mark entries ∧
      valueOf? outer entries = some (map innerMark inside) := by
  cases d with
  | map mark entries =>
      unfold set? at h
      rw [get?_map] at h
      cases hget : valueOf? outer entries with
      | none => simp [hget] at h
      | some v =>
          cases v with
          | map innerMark inside => exact ⟨mark, entries, innerMark, inside, rfl, hget⟩
          | _ => simp [hget] at h
  | _ => simp [set?, get?] at h

/-- The same holds with the keys sorted. -/
theorem sameBut_set? {d changed : Document} {outer inner : String} {value : Document}
    (hdiffer : d.KeysDiffer) (hunshared : d.Unshared) (hvalue : value.KeysDiffer)
    (h : d.set? outer inner value = some changed) :
    SameBut outer inner value d changed.inKeyOrder := by
  obtain ⟨mark, entries, innerMark, inside, rfl, hinner⟩ := maps_of_set? h
  rw [set?_of_unshared hunshared hinner] at h
  obtain rfl := Option.some.inj h
  have hinside : (map innerMark inside).KeysDiffer :=
    hdiffer.value ((mem_iff_valueOf? hdiffer.own).mpr hinner)
  have hwhole : (map innerMark (setEntry inner value inside)).KeysDiffer :=
    keysDiffer_setEntry hinside hvalue
  have hchanged :
      (map mark (setEntry outer (map innerMark (setEntry inner value inside)) entries)).KeysDiffer :=
    keysDiffer_setEntry hdiffer hwhole
  have hsame : SameBut outer inner value (map mark entries) _ := sameBut_setEntry hdiffer hinner
  exact ⟨fun path f => (shows_inKeyOrder hchanged).trans (hsame.there path f),
    fun path f hpath => (shows_inKeyOrder hchanged).trans (hsame.elsewhere path f hpath)⟩

end Document

end Rollout
