import Mathlib.Data.List.Pairwise
import Mathlib.Logic.Relation
import Rollout.Proofs.Kinds

/-!
# Rollout.Proofs.Tolerance

What decoding does not look at: keys that are no members of a record, nulls, and which of its names a
member has.

* `Rewording`, `Revision` — changes of the entries of a record, and of one of the records that a
  document is read as;
* `Rewording.sameMember`, `Revision.alike` — a revised document reads as it did;
* `MisplacedNull`, `MisplacedNull.refused` — a null among labels or in a list has no reading;
* `Tolerant`, `Kind.tolerant` — what decoding a kind of record comes to in both cases.
-/

namespace Rollout

open Document

/-! ## revisions -/

/-- The keys of entries. -/
def keysOf (entries : List (Document × Document)) : List Document := entries.map (·.1)

/-- A change of the entries of a record which says nothing new about its members. -/
inductive Rewording (members : List (List String × Shape)) :
    List (Document × Document) → List (Document × Document) → Prop where
  /-- An entry is added under a key that is no name of a member. -/
  | unknown {before after : List (Document × Document)} {key value : Document} :
    (∀ m ∈ members, ∀ name ∈ m.1, key ≠ text name) →
    Rewording members (before ++ after) (before ++ (key, value) :: after)
  /-- A null is added under a key that is not there. -/
  | null {before after : List (Document × Document)} {key : Document} :
    key ∉ keysOf (before ++ after) →
    Rewording members (before ++ after) (before ++ (key, .null) :: after)
  /-- A member that is there under one of its names, and under no other, gets another one of them and
  maybe another place. -/
  | renamed {before after before' after' : List (Document × Document)} {m : List String × Shape}
      {name name' : String} {value : Document} :
    m ∈ members → name ∈ m.1 → name' ∈ m.1 → before ++ after = before' ++ after' →
    (∀ other ∈ m.1, text other ∉ keysOf (before ++ after)) →
    Rewording members (before ++ (text name, value) :: after)
      (before' ++ (text name', value) :: after')

/-- A change of a document that is read as a shape: one of the records that are read in it is
reworded. -/
inductive Revision : Shape → Document → Document → Prop where
  | here {k : Kind} {mark : Option Nat} {entries entries' : List (Document × Document)} :
    Rewording k.members entries entries' →
    Revision (.record k) (map mark entries) (map mark entries')
  | member {k : Kind} {mark : Option Nat} {before after : List (Document × Document)}
      {m : List String × Shape} {name : String} {v v' : Document} :
    m ∈ k.members → name ∈ m.1 → Revision m.2 v v' →
    Revision (.record k) (map mark (before ++ (text name, v) :: after))
      (map mark (before ++ (text name, v') :: after))
  | item {k : Kind} {before after : List Document} {d d' : Document} :
    Revision (.record k) d d' →
    Revision (.records k) (list (before ++ d :: after)) (list (before ++ d' :: after))

/-! ## looking up -/

/-- A key is looked for in the first entries, and then in the others. -/
theorem valueOf?_append (name : String) (before after : List (Document × Document)) :
    valueOf? name (before ++ after) = (valueOf? name before).or (valueOf? name after) := by
  induction before with
  | nil => rfl
  | cons entry before ih =>
      obtain ⟨k, v⟩ := entry
      by_cases hk : k = text name
      · rw [hk, List.cons_append, valueOf?_cons_self, valueOf?_cons_self, Option.some_or]
      · rw [List.cons_append, valueOf?_cons_of_ne hk, valueOf?_cons_of_ne hk, ih]

/-- An entry under another key changes nothing. -/
theorem valueOf?_insert_of_ne {key : Document} {name : String} (h : key ≠ text name)
    (value : Document) (before after : List (Document × Document)) :
    valueOf? name (before ++ (key, value) :: after) = valueOf? name (before ++ after) := by
  rw [valueOf?_append, valueOf?_append, valueOf?_cons_of_ne h]

/-- Under a key that is not there stands nothing. -/
theorem valueOf?_eq_none {name : String} {entries : List (Document × Document)}
    (h : text name ∉ keysOf entries) : valueOf? name entries = none := by
  induction entries with
  | nil => rfl
  | cons entry rest ih =>
      obtain ⟨k, v⟩ := entry
      rw [keysOf, List.map_cons, List.mem_cons, not_or] at h
      rw [valueOf?_cons_of_ne fun hk => h.1 hk.symm, ih h.2]

/-- A value is found under its key if the key is not there otherwise. -/
theorem valueOf?_insert_self {name : String} {before after : List (Document × Document)}
    (h : text name ∉ keysOf (before ++ after)) (value : Document) :
    valueOf? name (before ++ (text name, value) :: after) = some value := by
  have hbefore : text name ∉ keysOf before := fun hmem =>
    h (by rw [keysOf, List.map_append]; exact List.mem_append_left _ hmem)
  rw [valueOf?_append, valueOf?_eq_none hbefore, valueOf?_cons_self, Option.none_or]

/-! ## members -/

/-- The value under a name, unless it is null. -/
def shown? (d : Document) (name : String) : Option Document := (d.get? name).filter (!·.isNull)

theorem Shape.rel_alike_refl (s : Shape) (v? : Option Document) : Option.Rel s.Alike v? v? := by
  cases v? with
  | none => exact .none
  | some v => exact .some (.refl s v)

/-- Searches that are alike at each item find things that are alike. -/
theorem findSome?_rel {α β : Type} {R : β → β → Prop} {f g : α → Option β} {items : List α}
    (h : ∀ a ∈ items, Option.Rel R (f a) (g a)) :
    Option.Rel R (items.findSome? f) (items.findSome? g) := by
  induction items with
  | nil => exact .none
  | cons a rest ih =>
      obtain ⟨ha, hrest⟩ := List.forall_mem_cons.mp h
      rw [List.findSome?_cons, List.findSome?_cons]
      generalize f a = b?, g a = b'? at ha
      cases ha with
      | none => exact ih hrest
      | some hb => exact .some hb

/-- What is found at one place only is found. -/
theorem findSome?_eq_of_mem {α β : Type} {f : α → Option β} {items : List α} {a : α}
    (ha : a ∈ items) (hother : ∀ b ∈ items, b ≠ a → f b = none) : items.findSome? f = f a := by
  cases hfound : items.findSome? f with
  | none => exact (List.findSome?_eq_none_iff.mp hfound a ha).symm
  | some x =>
      obtain ⟨b, hb, hx⟩ := List.exists_of_findSome?_eq_some hfound
      by_cases hba : b = a
      · rw [← hba, hx]
      · rw [hother b hb hba] at hx
        cases hx

/-- Documents that show the same under all names of a member have the same in its place. -/
theorem sameMember_of_shown {m : List String × Shape} {d d' : Document}
    (h : ∀ name ∈ m.1, Option.Rel m.2.Alike (shown? d name) (shown? d' name)) : SameMember m d d' :=
  findSome?_rel h

/-- An entry under another key changes nothing of what is shown. -/
theorem shown?_insert_of_ne {key : Document} {name : String} (h : key ≠ text name)
    (mark : Option Nat) (value : Document) (before after : List (Document × Document)) :
    shown? (map mark (before ++ (key, value) :: after)) name =
      shown? (map mark (before ++ after)) name := by
  rw [shown?, shown?, get?_map, get?_map, valueOf?_insert_of_ne h]

/-- A member that stands under one of its names is found there. -/
theorem field?_insert {names : List String} {name : String}
    {before after : List (Document × Document)} (hname : name ∈ names)
    (habsent : ∀ other ∈ names, text other ∉ keysOf (before ++ after)) (mark : Option Nat)
    (value : Document) :
    (map mark (before ++ (text name, value) :: after)).field? names =
      (some value).filter (!·.isNull) := by
  have hothers : ∀ other ∈ names, other ≠ name →
      shown? (map mark (before ++ (text name, value) :: after)) other = none := by
    intro other hother hne
    have hkey : text name ≠ text other := fun h => hne (Document.text.inj h).symm
    rw [shown?_insert_of_ne hkey, shown?, get?_map, valueOf?_eq_none (habsent other hother)]
    rfl
  refine (findSome?_eq_of_mem hname hothers).trans ?_
  rw [shown?, get?_map, valueOf?_insert_self (habsent name hname)]

/-- The names of a member tell it from the others. -/
theorem Kind.eq_of_mem_names {k : Kind} {m m' : List String × Shape} {name : String}
    (hm : m ∈ k.members) (hm' : m' ∈ k.members) (hname : name ∈ m.1) (hname' : name ∈ m'.1) :
    m = m' := by
  by_contra hne
  have : Std.Symm fun m other : List String × Shape => ∀ name ∈ m.1, name ∉ other.1 :=
    ⟨fun _ _ h name hname hname' => h name hname' hname⟩
  exact k.pairwise_members.forall hm hm' hne name hname hname'

/-- Entries that are reworded have the same members. -/
theorem Rewording.sameMember {k : Kind} {entries entries' : List (Document × Document)}
    (h : Rewording k.members entries entries') (mark : Option Nat) :
    ∀ m ∈ k.members, SameMember m (map mark entries) (map mark entries') := by
  intro m hm
  cases h with
  | unknown hkey =>
      refine sameMember_of_shown fun name hname => ?_
      rw [shown?_insert_of_ne (hkey m hm name hname)]
      exact m.2.rel_alike_refl _
  | @null before after key habsent =>
      refine sameMember_of_shown fun name _ => ?_
      by_cases hkey : key = text name
      · -- Neither what is not there nor a null counts.
        subst hkey
        rw [shown?, shown?, get?_map, get?_map, valueOf?_eq_none habsent,
          valueOf?_insert_self habsent]
        exact .none
      · rw [shown?_insert_of_ne hkey]
        exact m.2.rel_alike_refl _
  | @renamed before after before' after' m' name name' value hm' hname hname' hrest habsent =>
      by_cases hsame : m = m'
      · subst hsame
        have habsent' := habsent
        rw [hrest] at habsent'
        rw [SameMember, field?_insert hname habsent, field?_insert hname' habsent']
        exact m.2.rel_alike_refl _
      · refine sameMember_of_shown fun other hother => ?_
        have hne {name : String} (hname : name ∈ m'.1) : text name ≠ text other := fun h =>
          hsame (Kind.eq_of_mem_names hm hm' hother (Document.text.inj h ▸ hname))
        rw [shown?_insert_of_ne (hne hname), shown?_insert_of_ne (hne hname'), hrest]
        exact m.2.rel_alike_refl _

/-! ## revised documents -/

/-- What is revised is no null. -/
theorem Revision.isNull_eq_false {s : Shape} {d d' : Document} (h : Revision s d d') :
    d.isNull = false ∧ d'.isNull = false := by
  cases h <;> exact ⟨rfl, rfl⟩

/-- A revised document reads as it did. -/
theorem Revision.alike {s : Shape} {d d' : Document} (h : Revision s d d') : s.Alike d d' := by
  induction h with
  | here hreworded => exact (Kind.recordRead _).same rfl (hreworded.sameMember _)
  | @member k mark before after m name v v' hm hname hrevision ih =>
      refine (Kind.recordRead k).same rfl fun m' hm' => sameMember_of_shown fun other hother => ?_
      by_cases hkey : text name = text other
      · obtain rfl := Document.text.inj hkey
        obtain rfl := Kind.eq_of_mem_names hm' hm hother hname
        obtain ⟨hv, hv'⟩ := hrevision.isNull_eq_false
        rw [shown?, shown?, get?_map, get?_map, valueOf?_append, valueOf?_append,
          valueOf?_cons_self, valueOf?_cons_self]
        -- An entry in front under the same name hides the one that is revised.
        cases valueOf? name before with
        | some hidden => exact Shape.rel_alike_refl _ _
        | none =>
            rw [Option.none_or, Option.none_or, Option.filter_some_pos (by simp [hv]),
              Option.filter_some_pos (by simp [hv'])]
            exact .some ih
      · rw [shown?_insert_of_ne hkey, shown?_insert_of_ne hkey]
        exact Shape.rel_alike_refl _ _
  | @item k before after d d' _ ih =>
      have hread : k.read? d = k.read? d' := ih
      change (before ++ d :: after).mapM k.read? = (before ++ d' :: after).mapM k.read?
      rw [List.mapM_append, List.mapM_append, List.mapM_cons, List.mapM_cons, hread]

/-! ## nulls that count -/

/-- A collection of documents: a list or a set. -/
inductive Collects : Document → List Document → Prop where
  | list (items : List Document) : Collects (.list items) items
  | set (items : List Document) : Collects (.set items) items

/-- A document that is read as a shape has a null where none can be left out: under a label, or in a list
of texts or of records. -/
inductive MisplacedNull : Shape → Document → Prop where
  | label {mark : Option Nat} {entries : List (Document × Document)} {key : Document} :
    (key, .null) ∈ entries → MisplacedNull .labels (map mark entries)
  | text {d : Document} {items : List Document} : Collects d items → .null ∈ items →
    MisplacedNull .texts d
  | record {k : Kind} {d : Document} {items : List Document} : Collects d items → .null ∈ items →
    MisplacedNull (.records k) d
  | item {k : Kind} {d d' : Document} {items : List Document} : Collects d items → d' ∈ items →
    MisplacedNull (.record k) d' → MisplacedNull (.records k) d
  | member {k : Kind} {d v : Document} {m : List String × Shape} : m ∈ k.members →
    d.field? m.1 = some v → MisplacedNull m.2 v → MisplacedNull (.record k) d

/-- One item that cannot be read is enough for the list not to be. -/
theorem mapM_eq_none_of_mem {α β : Type} {f : α → Option β} {items : List α} {a : α}
    (ha : a ∈ items) (h : f a = none) : items.mapM f = none := by
  obtain ⟨before, after, rfl⟩ := List.append_of_mem ha
  rw [List.mapM_append, List.mapM_cons, h]
  cases before.mapM f <;> rfl

theorem Collects.asList?_eq_none {α : Type} {read : Document → Option α} {d d' : Document}
    {items : List Document} (h : Collects d items) (hmem : d' ∈ items) (hread : read d' = none) :
    d.asList? read = none := by
  cases h <;> exact mapM_eq_none_of_mem hmem hread

theorem isNull_of_field? {d v : Document} {names : List String} (h : d.field? names = some v) :
    d.isNull = false := by
  obtain ⟨name, -, hshown⟩ := List.exists_of_findSome?_eq_some h
  cases d with
  | null => cases hshown
  | _ => rfl

/-- A null that counts leaves nothing to be read. -/
theorem MisplacedNull.refused {s : Shape} {d : Document} (h : MisplacedNull s d) : s.Refused d := by
  induction h with
  | @label mark entries key hmem =>
      rw [Shape.Refused, asLabels?, mapM_eq_none_of_mem hmem]
      · rfl
      · change (key.asText?.bind fun name => Option.none.bind fun value => some (name, value)) = none
        cases key.asText? <;> rfl
  | text hitems hmem => exact hitems.asList?_eq_none hmem rfl
  | @record k _ _ hitems hmem => exact hitems.asList?_eq_none hmem ((Kind.recordRead k).map rfl)
  | item hitems hmem _ ih => exact hitems.asList?_eq_none hmem ih
  | @member k d v m hm hv _ ih => exact (Kind.recordRead k).none ⟨m, hm, v, hv, ih⟩

/-! ## decoding -/

/-- Decoding tells documents apart by their members only, and a null that counts is an error. -/
structure Tolerant (k : Kind) (what : String) : Prop where
  /-- Any number of revisions, made or undone, changes nothing: there is the same record, or again
  none. -/
  revised {d d' : Document} : Relation.EqvGen (Revision (.record k)) d d' →
    (Resource.decode d what : Outcome k.Record) = Resource.decode d' what
  refused {d : Document} : MisplacedNull (.record k) d →
    (Resource.decode d what : Outcome k.Record) = .error (.malformed (.shape what))
  /-- Where there is no record, the document is at fault. -/
  malformed {d : Document} {e : Failure} : (Resource.decode d what : Outcome k.Record) = .error e →
    ∃ cause, e = .malformed cause

/-- A revision is read as the same record, or not at all for the same reason. -/
theorem Revision.decode_eq {k : Kind} {d d' : Document} (h : Revision (.record k) d d')
    (what : String) : (Resource.decode d what : Outcome k.Record) = Resource.decode d' what := by
  have hread : (Resource.read? d : Option k.Record) = Resource.read? d' := h.alike
  obtain ⟨hd, hd'⟩ := h.isNull_eq_false
  rw [Resource.decode, Resource.decode, hd, hd', hread]

/-- A null that is misplaced is a malformed shape. -/
theorem MisplacedNull.decode_eq {k : Kind} {d : Document} (h : MisplacedNull (.record k) d)
    (what : String) :
    (Resource.decode d what : Outcome k.Record) = .error (.malformed (.shape what)) := by
  have hread : (Resource.read? d : Option k.Record) = none := h.refused
  have hnull : d.isNull = false := by
    cases h with
    | member _ hv _ => exact isNull_of_field? hv
  rw [Resource.decode, hnull, hread]
  rfl

/-- Reading a resource fails for nothing else than its form. -/
theorem Resource.malformed_of_decode {α : Type} [Resource α] {d : Document} {what : String}
    {e : Failure} (h : (Resource.decode d what : Outcome α) = .error e) :
    ∃ cause, e = .malformed cause := by
  unfold Resource.decode at h
  split at h
  · exact ⟨_, (Except.error.inj h).symm⟩
  · split at h
    · cases h
    · exact ⟨_, (Except.error.inj h).symm⟩

/-- Every kind is decoded by the members of its records alone, and without nulls in their labels and
lists. -/
theorem Kind.tolerant (k : Kind) (what : String) : Tolerant k what := by
  constructor
  case revised =>
    intro d d' h
    induction h with
    | rel d d' h => exact h.decode_eq what
    | refl d => rfl
    | symm d d' _ ih => exact ih.symm
    | trans d₁ d₂ d₃ _ _ ih₁ ih₂ => exact ih₁.trans ih₂
  case refused => exact fun h => h.decode_eq what
  case malformed => exact Resource.malformed_of_decode

end Rollout
