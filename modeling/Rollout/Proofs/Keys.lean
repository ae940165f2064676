import Rollout.Proofs.Activity
import Rollout.Proofs.Contents
import Rollout.Proofs.Outcomes

/-!
# Rollout.Proofs.Keys

Documents that are read from texts have no key twice.

* `Values.Proper` — the values of a graph while they are made: keys are scalars, and no collection has
  a key twice;
* `Keeps` — activities that keep them so; `keeps_value`, `keeps_keyed`, `keeps_fill` and
  `keeps_fillAhead` are those that make values;
* `Document.Distinct` — no map has a key twice, numbers that are none apart: two of them may be
  different keys, although they look the same once they are documents;
* `Yaml.distinct_document` — a text holds such a document;
* `distinct_getResource` — so is a resource that a cluster answers as a text.
-/

namespace Rollout

namespace Document

/-! ## documents without a key twice -/

/-- The keys of a map, or the members of a set. -/
def keys : Document → List Document
  | map _ entries => entries.map (·.1)
  | set members => members
  | _ => []

/-- No other documents are in a document. -/
def IsSimple : Document → Prop
  | list _ | set _ | map _ _ => False
  | _ => True

/-- In a document, no map has a key twice and no set a member, unless it is a number that is none. -/
def Distinct (d : Document) : Prop :=
  ∀ path w, Reaches d path w →
    w.keys.Pairwise fun a b => sameKey a b = true → a = float .nan

/-- The keys of a document differ if no two of them are the same key. -/
theorem ownKeysDiffer_iff {d : Document} :
    d.OwnKeysDiffer ↔ d.keys.Pairwise fun a b => sameKey a b = false := by
  cases d with
  | map mark entries =>
      exact (List.pairwise_map (R := fun a b => sameKey a b = false) (f := Prod.fst)).symm
  | set members =>
      exact List.pairwise_map
  | _ => simp [OwnKeysDiffer, keys]

/-- No key in a document is a number that is none. -/
def HasPlainKeys (d : Document) : Prop := ∀ path w, Reaches d path w → float .nan ∉ w.keys

/-- Without numbers that are none among its keys, such a document has no key twice. -/
theorem Distinct.keysDiffer {d : Document} (h : d.Distinct) (hnan : d.HasPlainKeys) :
    d.KeysDiffer := by
  intro path w hw
  rw [ownKeysDiffer_iff]
  refine (h path w hw).imp_of_mem fun {a b} ha _ hab => ?_
  rw [Bool.eq_false_iff]
  intro hsame
  exact hnan path w hw (hab hsame ▸ ha)

/-- The number that is none is the same key as itself only. -/
theorem sameKey_nan_iff {d : Document} : sameKey d (float .nan) = true ↔ d = float .nan := by
  have hnone : sameSize d (float .nan) = false := by
    have hsize : (float .nan).size? = none := rfl
    rw [sameSize, hsize]
    cases d.size? <;> rfl
  cases d with
  | float x => cases x <;> simp [sameKey, hnone]
  | _ => simp [sameKey, hnone]

/-- A simple document has no keys that could be the same. -/
theorem IsSimple.distinct {d : Document} (h : d.IsSimple) : d.Distinct := by
  intro path w hw
  cases path with
  | nil =>
      obtain rfl := reaches_nil.mp hw
      cases d with
      | list | set | map => exact h.elim
      | _ => exact .nil
  | cons step path =>
      cases d with
      | list | set | map => exact h.elim
      | _ => cases step <;> exact hw.elim

/-- The members of a set differ, but for the number that is none. -/
theorem distinct_set {members : List Document}
    (h : members.Pairwise fun a b => sameKey a b = true → a = float .nan) :
    (set members).Distinct := by
  intro path w hw
  cases path with
  | nil =>
      obtain rfl := reaches_nil.mp hw
      exact h
  | cons step path => cases step <;> exact hw.elim

theorem distinct_list {items : List Document} (h : ∀ d ∈ items, d.Distinct) :
    (list items).Distinct := by
  intro path w hw
  match path with
  | [] =>
    obtain rfl := reaches_nil.mp hw
    exact .nil
  | .key _ :: _ => exact hw.elim
  | .place _ :: path =>
    obtain ⟨v, hv, hw⟩ := reaches_list_place.mp hw
    exact h v (List.mem_of_getElem? hv) path w hw

/-- The keys of a map differ, but for the number that is none. -/
theorem distinct_map {mark : Option Nat} {entries : List (Document × Document)}
    (h : entries.Pairwise fun a b => sameKey a.1 b.1 = true → a.1 = float .nan)
    (hvalues : ∀ e ∈ entries, e.2.Distinct) : (map mark entries).Distinct := by
  intro path w hw
  match path with
  | [] =>
    obtain rfl := reaches_nil.mp hw
    exact List.pairwise_map.mpr h
  | .place _ :: _ => exact hw.elim
  | .key k :: path =>
    obtain ⟨v, hv, hw⟩ := reaches_map_key.mp hw
    exact hvalues (k, v) hv path w hw

end Document

namespace Yaml

/-! ## values -/

/-- A scalar is simple, and has an origin only if it is a number that is none. -/
def Value.Proper : Value → Prop
  | scalar origin d => d.IsSimple ∧ (origin ≠ none → d = .float .nan)
  | collection _ => True
  | pair first second => Proper first ∧ Proper second

/-- Two values are different keys. -/
def Value.Apart (a b : Value) : Prop := sameKey a b = false

/-- A key of a collection. -/
def Value.IsKey (v : Value) : Prop := v.Proper ∧ ∃ origin d, v = .scalar origin d

/-- The keys of a collection are different. -/
structure ProperKeys (keys : List Value) : Prop where
  apart : keys.Pairwise Value.Apart
  isKey : ∀ k ∈ keys, k.IsKey

/-- What is in a collection has different keys. -/
def Filling.Proper : Filling → Prop
  | list items => ∀ v ∈ items, v.Proper
  | set members => ProperKeys members
  | map entries => ProperKeys (entries.map (·.1)) ∧ ∀ e ∈ entries, e.2.Proper

/-- Everything that is made is proper. -/
structure Values.Proper (s : Values) : Prop where
  made : ∀ v, some v ∈ s.made → v.Proper
  fillings : ∀ filling, some filling ∈ s.fillings → filling.Proper

/-- The keys after adding an entry: the same, or one more. -/
theorem keys_insert (key value : Value) (entries : List (Value × Value)) :
    (Value.insert key value entries).map (·.1) = entries.map (·.1) ∨
      (Value.insert key value entries).map (·.1) = entries.map (·.1) ++ [key] ∧
        ∀ e ∈ entries, e.1.Apart key := by
  induction entries with
  | nil => exact .inr ⟨rfl, fun e he => nomatch he⟩
  | cons e rest ih =>
      obtain ⟨k, v⟩ := e
      rw [Value.insert]
      cases hsame : Value.sameKey k key with
      | true => exact .inl rfl
      | false =>
          simp only [Bool.false_eq_true, if_false, List.map_cons]
          obtain h | ⟨h, hapart⟩ := ih
          · exact .inl (by rw [h])
          · refine .inr ⟨by rw [h, List.cons_append], fun e he => ?_⟩
            obtain rfl | he := List.mem_cons.mp he
            · exact hsame
            · exact hapart e he

/-- Inserting an entry brings in one value. -/
theorem snd_of_mem_insert {key value : Value} {entries : List (Value × Value)} {e : Value × Value}
    (h : e ∈ Value.insert key value entries) : e.2 = value ∨ ∃ e' ∈ entries, e'.2 = e.2 := by
  induction entries with
  | nil => exact .inl (by rw [List.mem_singleton.mp h])
  | cons e' rest ih =>
      obtain ⟨k, v⟩ := e'
      rw [Value.insert] at h
      split at h
      · obtain rfl | he := List.mem_cons.mp h
        · exact .inl rfl
        · exact .inr ⟨e, .tail _ he, rfl⟩
      · obtain rfl | he := List.mem_cons.mp h
        · exact .inr ⟨_, .head _, rfl⟩
        · exact (ih he).imp_right fun ⟨e', he', heq⟩ => ⟨e', .tail _ he', heq⟩

/-- Adding an entry keeps the keys different. -/
theorem proper_insert {key value : Value} {entries : List (Value × Value)}
    (h : (Filling.map entries).Proper) (hkey : key.IsKey) (hvalue : value.Proper) :
    (Filling.map (Value.insert key value entries)).Proper := by
  obtain ⟨⟨hapart, hkeys⟩, hvalues⟩ := h
  refine ⟨?_, fun e he => ?_⟩
  · obtain heq | ⟨heq, hnew⟩ := keys_insert key value entries
    · rw [heq]
      exact ⟨hapart, hkeys⟩
    · rw [heq]
      refine ⟨List.pairwise_append.mpr ⟨hapart, List.pairwise_singleton _ _, ?_⟩, fun k hk => ?_⟩
      · intro a ha b hb
        obtain ⟨e, he, rfl⟩ := List.mem_map.mp ha
        rw [List.mem_singleton.mp hb]
        exact hnew e he
      · obtain hk | hk := List.mem_append.mp hk
        · exact hkeys k hk
        · rw [List.mem_singleton.mp hk]
          exact hkey
  · obtain h | ⟨e', he', h⟩ := snd_of_mem_insert he
    · rw [h]
      exact hvalue
    · rw [← h]
      exact hvalues e' he'

/-! ## making values -/

variable {α β : Type}

/-- An activity keeps the values proper, and results in something of a kind. -/
def Keeps (m : Make α) (P : α → Prop) : Prop :=
  ∀ s a s', m.run s = .ok (a, s') → s.Proper → s'.Proper ∧ P a

namespace Keeps

variable {P : α → Prop} {Q : β → Prop} {a : α}

theorem pure (h : P a) : Keeps (pure a : Make α) P := by
  intro s b s' hrun hs
  cases hrun
  exact ⟨hs, h⟩

theorem throw (fault : Fault) : Keeps (throw fault : Make α) P := by
  intro s b s' hrun
  cases hrun

/-- What comes from a failure or a value keeps what holds of the value. -/
theorem lift {x : Except Fault α} (h : ∀ a, x = .ok a → P a) : Keeps (liftM x : Make α) P := by
  intro s b s' hrun hs
  cases x with
  | error fault => cases hrun
  | ok a =>
      cases hrun
      exact ⟨hs, h _ rfl⟩

theorem get : Keeps (get : Make Values) Values.Proper := by
  intro s b s' hrun hs
  cases hrun
  exact ⟨hs, hs⟩

/-- A change keeps values proper if it makes proper ones of them. -/
theorem modify {f : Values → Values} (h : ∀ s, s.Proper → (f s).Proper) :
    Keeps (modify f : Make Unit) fun _ => True := by
  intro s b s' hrun hs
  cases hrun
  exact ⟨h s hs, trivial⟩

theorem set {s : Values} (h : s.Proper) : Keeps (set s : Make Unit) fun _ => True := by
  intro s₀ b s' hrun hs
  cases hrun
  exact ⟨h, trivial⟩

/-- What holds along two steps holds of the second one's value. -/
theorem bind {m : Make α} {f : α → Make β} (hm : Keeps m P) (hf : ∀ a, P a → Keeps (f a) Q) :
    Keeps (m >>= f) Q := by
  intro s b s' hrun hs
  rw [StateT.run_bind] at hrun
  cases hfirst : m.run s with
  | error fault =>
      rw [hfirst] at hrun
      cases hrun
  | ok first =>
      obtain ⟨a, s₁⟩ := first
      rw [hfirst] at hrun
      obtain ⟨hs₁, ha⟩ := hm s a s₁ hfirst hs
      exact hf a ha s₁ b s' hrun hs₁

/-- What holds of each value that is made holds of all of them. -/
theorem mapM {f : α → Make β} (hf : ∀ a, Keeps (f a) Q) (items : List α) :
    Keeps (items.mapM f) fun bs => ∀ b ∈ bs, Q b := by
  induction items with
  | nil => exact pure fun b hb => nomatch hb
  | cons a rest ih =>
      rw [List.mapM_cons]
      refine (hf a).bind fun b hb => ih.bind fun bs hbs => pure fun c hc => ?_
      obtain rfl | hc := List.mem_cons.mp hc
      · exact hb
      · exact hbs c hc

/-- What each step of a loop keeps holds at its end. -/
theorem foldlM {f : β → α → Make β} (hf : ∀ b a, Q b → Keeps (f b a) Q) (items : List α) {b : β}
    (hb : Q b) : Keeps (items.foldlM f b) Q := by
  induction items generalizing b with
  | nil => exact pure hb
  | cons a rest ih =>
      rw [List.foldlM_cons]
      exact (hf b a hb).bind fun c hc => ih hc

theorem forM {f : α → Make Unit} (hf : ∀ a, Keeps (f a) fun _ => True) (items : List α) :
    Keeps (items.forM f) fun _ => True := by
  induction items with
  | nil => exact pure trivial
  | cons a rest ih => exact (hf a).bind fun _ _ => ih

end Keeps

/-- The value of a scalar is simple. -/
theorem isSimple_of_scalarValue {tag : Tag} {codes : List Nat} {d : Document}
    (h : scalarValue tag codes = .ok d) : d.IsSimple := by
  cases tag with
  | null =>
      cases h
      trivial
  | bool =>
      simp only [scalarValue] at h
      split at h <;> cases h
      trivial
  | int =>
      obtain ⟨n, -, rfl⟩ := Outcome.map_eq_ok_iff.mp h
      trivial
  | float =>
      obtain ⟨x, -, rfl⟩ := Outcome.map_eq_ok_iff.mp h
      trivial
  | binary =>
      simp only [scalarValue] at h
      split at h <;> cases h
      trivial
  | timestamp =>
      obtain ⟨t, -, rfl⟩ := Outcome.map_eq_ok_iff.mp h
      cases t <;> trivial
  | str =>
      cases h
      trivial
  | _ => cases h

/-- Only a number that is none is told apart by its origin. -/
theorem eq_nan_of_isNewNan {tag : Tag} {codes : List Nat} {d : Document}
    (h : isNewNan tag codes d = true) : d = .float .nan := by
  unfold isNewNan at h
  split at h
  · rfl
  · cases h

/-- A scalar can be a key. -/
theorem isKey_of_scalar {g : Graph} {n : Ref} {v : Value} (h : g.scalar n = .ok v) : v.IsKey := by
  have hmade {codes : List Nat} (h : (scalarValue (g.tag n) codes >>= fun d =>
      pure (Value.scalar (if isNewNan (g.tag n) codes d then some n else none) d)) = .ok v) :
      v.IsKey := by
    obtain ⟨d, hd, h⟩ := Outcome.bind_eq_ok_iff.mp h
    cases h
    refine ⟨⟨isSimple_of_scalarValue hd, fun horigin => ?_⟩, _, _, rfl⟩
    split at horigin
    · exact eq_nan_of_isNewNan ‹_›
    · exact (horigin rfl).elim
  unfold Graph.scalar at h
  simp only at h
  split at h
  · cases h
  · obtain ⟨codes, -, h⟩ := Outcome.bind_eq_ok_iff.mp h
    split at h
    · cases h
    · exact hmade h

/-- A value that is kept is proper if it is. -/
theorem proper_keep {s : Values} {n : Ref} {v : Value} (hs : s.Proper) (hv : v.Proper) :
    ({ s with made := s.made.setIfInBounds n (some v) } : Values).Proper := by
  refine ⟨fun w hw => ?_, hs.fillings⟩
  obtain hw | hw := Array.mem_or_eq_of_mem_setIfInBounds hw
  · exact hs.made w hw
  · obtain rfl := Option.some.inj hw
    exact hv

/-- Values stay proper when one of them is filled properly. -/
theorem proper_fillWith {s : Values} {n : Ref} {filling : Filling} (hs : s.Proper)
    (hfilling : filling.Proper) :
    ({ s with fillings := s.fillings.setIfInBounds n (some filling) } : Values).Proper := by
  refine ⟨hs.made, fun other hother => ?_⟩
  obtain h | h := Array.mem_or_eq_of_mem_setIfInBounds hother
  · exact hs.fillings other h
  · obtain rfl := Option.some.inj h
    exact hfilling

theorem mem_of_getD {xs : Array (Option α)} {n : Nat} {a : α} (h : xs.getD n none = some a) :
    some a ∈ xs := by
  rw [Array.getD_eq_getD_getElem?] at h
  cases hx : xs[n]? with
  | none =>
      rw [hx] at h
      cases h
  | some x =>
      rw [hx] at h
      obtain rfl : x = some a := h
      exact Array.mem_of_getElem? hx

/-- The value of a node is proper. -/
theorem keeps_value (n : Ref) : Keeps (Values.value n) Value.Proper := by
  refine Keeps.get.bind fun s hs => ?_
  have hkeep {v : Value} (hv : v.Proper) : Keeps (Values.keep n v >>= fun _ => pure v) Value.Proper :=
    (Keeps.modify fun s hs => proper_keep hs hv).bind fun _ _ => Keeps.pure hv
  split
  case h_1 v hv =>
    exact Keeps.pure (hs.made v (mem_of_getD hv))
  case h_2 =>
    simp only
    split
    · refine Keeps.bind (P := fun _ => True) (Keeps.modify fun s hs => ⟨hs.made, hs.fillings⟩)
        fun _ _ => ?_
      exact hkeep trivial
    · exact (Keeps.lift fun v hv => (isKey_of_scalar hv).1).bind fun v hv => hkeep hv

theorem keeps_flatEntries (n : Ref) : Keeps (Values.flatEntries n) fun _ => True := by
  refine Keeps.get.bind fun s hs => ?_
  simp only
  split
  · exact Keeps.bind (P := fun _ => False) (Keeps.throw _) fun _ h => h.elim
  · refine Keeps.bind (P := fun _ => True) (Keeps.lift fun _ _ => trivial) fun g _ => ?_
    have hgraph : Keeps (modify fun s => { s with graph := g }) fun _ => True :=
      Keeps.modify fun s hs => ⟨hs.made, hs.fillings⟩
    exact hgraph.bind fun _ _ => Keeps.pure trivial

theorem keeps_items (n : Ref) : Keeps (Values.items n) fun _ => True := by
  refine Keeps.get.bind fun s hs => ?_
  split
  · exact Keeps.pure trivial
  · exact Keeps.throw _

theorem keeps_onlyEntry (n : Ref) : Keeps (Values.onlyEntry n) fun _ => True := by
  refine Keeps.get.bind fun s hs => ?_
  split
  · exact Keeps.pure trivial
  · exact Keeps.throw _

/-- A map is made with keys that differ. -/
theorem keeps_keyed (entries : List (Ref × Ref)) :
    Keeps (Values.keyed entries) fun made => (Filling.map made).Proper := by
  refine Keeps.foldlM (fun done entry hdone => ?_) entries ⟨⟨.nil, fun k hk => nomatch hk⟩, fun e he => nomatch he⟩
  obtain ⟨key, v⟩ := entry
  refine (keeps_value key).bind fun k hk => ?_
  cases k with
  | scalar origin d =>
      exact (keeps_value v).bind fun w hw =>
        Keeps.pure (proper_insert hdone ⟨hk, origin, d, rfl⟩ hw)
  | _ => exact Keeps.throw _

theorem keeps_fillWith (n : Ref) {filling : Filling} (h : filling.Proper) :
    Keeps (Values.fillWith n filling) fun _ => True :=
  Keeps.modify fun _ hs => proper_fillWith hs h

/-- Filling a node keeps values proper. -/
theorem keeps_fill (n : Ref) : Keeps (Values.fill n) fun _ => True := by
  refine Keeps.get.bind fun s hs => ?_
  split
  case h_1 =>
    exact (keeps_items n).bind fun items _ =>
      (Keeps.mapM keeps_value items).bind fun made hmade => keeps_fillWith n hmade
  case h_2 =>
    exact (keeps_flatEntries n).bind fun entries _ =>
      (keeps_keyed entries).bind fun made hmade => keeps_fillWith n hmade
  case h_3 =>
    exact (keeps_flatEntries n).bind fun entries _ =>
      (keeps_keyed entries).bind fun made hmade => keeps_fillWith n hmade.1
  case h_4 =>
    refine (keeps_items n).bind fun items _ =>
      (Keeps.mapM (Q := Value.Proper) (fun item => ?_) items).bind fun made hmade =>
        keeps_fillWith n hmade
    refine (keeps_onlyEntry item).bind fun entry _ => ?_
    obtain ⟨first, second⟩ := entry
    exact (keeps_value first).bind fun a ha => (keeps_value second).bind fun b hb =>
      Keeps.pure ⟨ha, hb⟩

/-- So does filling all those that wait. -/
theorem keeps_fillAhead (fuel : Nat) : Keeps (Values.fillAhead fuel) fun _ => True := by
  induction fuel with
  | zero => exact Keeps.pure trivial
  | succ fuel ih =>
      refine Keeps.get.bind fun s hs => ?_
      split
      · exact Keeps.pure trivial
      · have hahead : Keeps (set { s with ahead := [] }) fun _ => True :=
          Keeps.set ⟨hs.made, hs.fillings⟩
        exact hahead.bind fun _ _ => (Keeps.forM keeps_fill _).bind fun _ _ => ih

/-- Nothing has been filled at the start. -/
theorem proper_start (g : Graph) : (Values.start g).Proper := by
  refine ⟨fun v hv => ?_, fun filling hfilling => ?_⟩
  · cases (Array.mem_replicate.mp hv).2
  · cases (Array.mem_replicate.mp hfilling).2

/-- All values of a graph are proper. -/
theorem proper_ofGraph {g : Graph} {root : Ref} {v : Value} {fillings : Array (Option Filling)}
    (h : Values.ofGraph g root = .ok (v, fillings)) :
    v.Proper ∧ ∀ filling, some filling ∈ fillings → filling.Proper := by
  unfold Values.ofGraph at h
  obtain ⟨⟨v', s⟩, hrun, h⟩ := Outcome.bind_eq_ok_iff.mp h
  cases h
  have hkeeps : Keeps (do
      let v ← Values.value root
      Values.fillAhead (g.size + 1)
      return v : Make Value) Value.Proper :=
    (keeps_value root).bind fun v hv => (keeps_fillAhead _).bind fun _ _ => Keeps.pure hv
  obtain ⟨hs, hv⟩ := hkeeps _ _ _ hrun (proper_start g)
  exact ⟨hv, hs.fillings⟩

/-! ## the documents of values -/

/-- All documents of an array are distinct. -/
def AllDistinct (made : Array Document) : Prop := ∀ d ∈ made, d.Distinct

theorem distinct_getD {made : Array Document} (h : AllDistinct made) (n : Nat) :
    (made.getD n .endless).Distinct := by
  rw [Array.getD_eq_getD_getElem?]
  cases hd : made[n]? with
  | none => exact Document.IsSimple.distinct trivial
  | some d => exact h d (Array.mem_of_getElem? hd)

/-- A proper value is a document whose keys differ if those made so far do. -/
theorem distinct_value {made : Array Document} (h : AllDistinct made) {v : Value}
    (hv : v.Proper) : (v.document made).Distinct := by
  induction v with
  | scalar origin d => exact hv.1.distinct
  | collection n => exact distinct_getD h n
  | pair first second ihfirst ihsecond =>
      refine Document.distinct_list fun d hd => ?_
      obtain rfl | hd := List.mem_cons.mp hd
      · exact ihfirst hv.1
      · rw [List.mem_singleton.mp hd]
        exact ihsecond hv.2

/-- Different keys are different as documents, numbers that are none apart. -/
theorem sameKey_document {made : Array Document} {a b : Value} (hapart : a.Apart b)
    (ha : a.IsKey) (hb : b.IsKey)
    (hsame : Document.sameKey (a.document made) (b.document made) = true) :
    a.document made = .float .nan := by
  obtain ⟨ha, o, x, rfl⟩ := ha
  obtain ⟨hb, p, y, rfl⟩ := hb
  have hsame : Document.sameKey x y = true := hsame
  by_cases ho : o = none
  · have hp : p ≠ none := by
      intro hp
      simp [Value.Apart, Value.sameKey, ho, hp, hsame] at hapart
    rw [hb.2 hp] at hsame
    exact Document.sameKey_nan_iff.mp hsame
  · exact ha.2 ho

/-- Proper keys are documents that differ, but for the number that is none. -/
theorem ProperKeys.documents {made : Array Document} {keys : List Value} (h : ProperKeys keys) :
    (keys.map (·.document made)).Pairwise fun a b =>
      Document.sameKey a b = true → a = .float .nan := by
  refine List.pairwise_map.mpr (h.apart.imp_of_mem fun ha hb hapart => ?_)
  exact sameKey_document hapart (h.isKey _ ha) (h.isKey _ hb)

/-- A proper filling becomes a document whose keys differ. -/
theorem distinct_filling {made : Array Document} (h : AllDistinct made) (n : Ref)
    {filling : Filling} (hfilling : filling.Proper) : (filling.document made n).Distinct := by
  cases filling with
  | list items =>
      refine Document.distinct_list fun d hd => ?_
      obtain ⟨v, hv, rfl⟩ := List.mem_map.mp hd
      exact distinct_value h (hfilling v hv)
  | set members => exact Document.distinct_set hfilling.documents
  | map entries =>
      refine Document.distinct_map ?_ fun e he => ?_
      · have hkeys : ((entries.map (·.1)).map (·.document made)).Pairwise fun a b =>
            Document.sameKey a b = true → a = .float .nan := hfilling.1.documents
        rw [List.map_map] at hkeys
        exact List.pairwise_map.mpr (List.pairwise_map.mp hkeys)
      · obtain ⟨⟨k, v⟩, hv, rfl⟩ := List.mem_map.mp he
        exact distinct_value h (hfilling.2 _ hv)

/-- A round makes distinct documents from distinct ones. -/
theorem allDistinct_round {fillings : Array (Option Filling)} {made : Array Document}
    (hfillings : ∀ filling, some filling ∈ fillings → filling.Proper) (h : AllDistinct made) :
    AllDistinct (round fillings made) := by
  unfold round
  induction List.range fillings.size with
  | nil => exact h
  | cons n rest ih =>
      rw [List.foldr_cons]
      cases hfilling : fillings.getD n none with
      | none => exact ih
      | some filling =>
          intro d hd
          obtain hd | rfl := Array.mem_or_eq_of_mem_setIfInBounds hd
          · exact ih d hd
          · exact distinct_filling ih n (hfillings filling (mem_of_getD hfilling))

/-- All documents that are made are distinct. -/
theorem allDistinct_documents {fillings : Array (Option Filling)}
    (h : ∀ filling, some filling ∈ fillings → filling.Proper) :
    AllDistinct (documents fillings) := by
  have hrounds (count : Nat) {made : Array Document} (hmade : AllDistinct made) :
      AllDistinct (rounds fillings count made) := by
    induction count generalizing made with
    | zero => exact hmade
    | succ count ih => exact ih (allDistinct_round h hmade)
  refine hrounds _ fun d hd => ?_
  rw [(Array.mem_replicate.mp hd).2]
  exact Document.IsSimple.distinct trivial

/-- No map that a text holds has a key twice. -/
theorem distinct_document {s : String} {d : Document} (h : document s = .ok d) : d.Distinct := by
  unfold document at h
  obtain ⟨graph, -, h⟩ := Outcome.bind_eq_ok_iff.mp h
  cases graph with
  | none =>
      cases h
      exact Document.IsSimple.distinct trivial
  | some graph =>
      obtain ⟨g, root⟩ := graph
      obtain ⟨⟨v, fillings⟩, hmade, h⟩ := Outcome.bind_eq_ok_iff.mp h
      cases h
      obtain ⟨hv, hfillings⟩ := proper_ofGraph hmade
      exact distinct_value (allDistinct_documents hfillings) hv

end Yaml

/-! ## resources -/

namespace Client

/-- A document in an answer that is a text. -/
theorem distinct_yaml {url s : String} {d : Document} (h : (Answer.yaml ⟨url, .text s⟩) = .ok d) :
    d.Distinct := by
  unfold Answer.yaml at h
  simp only at h
  cases hd : Yaml.document s with
  | error fault =>
      rw [hd] at h
      cases h
  | ok d' =>
      rw [hd] at h
      simp only at h
      split at h <;> cases h
      exact Yaml.distinct_document hd

variable {σ : Type} [Cluster σ]

/-- A request is answered with a text. -/
def AnswersText (w : WebRequest) (c : σ) : Prop :=
  ∃ status s, (Cluster.web w c).1 = .answer status (.text s)

section

variable {path : String} {params : Labels} {r : Run σ} {w : WebRequest} {d : Document}
  (hw : prepared r.session path (some params) .get = .ok w) (htext : AnswersText w r.cluster)

include hw htext

/-- The keys of a document that has been fetched differ. -/
theorem distinct_getResource? {allowMissing : Bool}
    (h : ((getResource? path allowMissing params).eval r).1 = .ok (some d)) : d.Distinct := by
  obtain ⟨status, s, hreply⟩ := htext
  rw [eval_getResource?, hw, sending, hreply] at h
  simp only [webResult] at h
  split at h
  · cases h
  split at h
  · simp only [Except.bind, yamlOf] at h
    cases hd : Answer.yaml ⟨w.target.text, .text s⟩ with
    | error e =>
        rw [hd] at h
        cases h
    | ok d' =>
        rw [hd] at h
        cases h
        exact distinct_yaml hd
  · cases h

/-- A resource that is answered as a text has no key twice. -/
theorem distinct_getResource (h : ((getResource path params).eval r).1 = .ok d) : d.Distinct := by
  unfold getResource at h
  rw [eval_bind] at h
  rcases hfound : (getResource? path false params).eval r with ⟨e | found, r'⟩
  · rw [hfound] at h
    cases h
  · rw [hfound] at h
    cases h
    cases found with
    | none => exact Document.IsSimple.distinct trivial
    | some d => exact distinct_getResource? hw htext (congrArg Prod.fst hfound)

end

end Client

end Rollout
