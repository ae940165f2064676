import Rollout.Access

/-!
# Rollout.Proofs.Grants

What a review of rules grants, said without the table of grants: requirements are met exactly if
the rules that hold for whole kinds of resources list them.

* `PolicyRule.Covers` — a rule holds for all resources of a kind;
* `RulesReview.Lists` — such a rule is among the entries of a review;
* `isSome_lookup_ofReview`, `allows_ofReview` — a kind is in the table, and a verb with it, exactly
  if a rule that the review lists says so;
* `permits_ofReview` — the same for requirements, whatever else the review contains.
-/

namespace Rollout

/-! ## rules that count -/

/-- A rule is about whole kinds of resources, and neither about single resources nor about other
addresses. -/
def PolicyRule.IsGeneral (rule : PolicyRule) : Prop := rule.names = [] ∧ rule.urls = []

/-- A rule holds for all resources of a kind.  One without groups is about the group without a
name. -/
def PolicyRule.Covers (rule : PolicyRule) (kind : ResourceKind) : Prop :=
  rule.IsGeneral ∧ kind.resource ∈ rule.resources ∧
    (kind.group ∈ rule.groups ∨ rule.groups = [] ∧ kind.group = "")

/-- An entry of a review is an object that can be read as a rule. -/
def IsRule (entry : Document) (rule : PolicyRule) : Prop :=
  entry.isMap = true ∧ Resource.read? entry = some rule

/-- A review has an entry that is a rule for all resources of a kind. -/
def RulesReview.Lists (review : RulesReview) (kind : ResourceKind) (rule : PolicyRule) : Prop :=
  ∃ entry ∈ review.status.rules, IsRule entry rule ∧ rule.Covers kind

/-- Only objects can be read as rules. -/
theorem isRule_iff {entry : Document} {rule : PolicyRule} :
    IsRule entry rule ↔ Resource.read? entry = some rule := by
  constructor
  · exact fun h => h.2
  · intro h
    cases hmap : entry.isMap with
    | true => exact ⟨hmap, h⟩
    | false =>
        have hnone : (Resource.read? entry : Option PolicyRule) = none := by
          simp [Resource.read?, Document.record, hmap]
        rw [hnone] at h
        contradiction

namespace Grants

/-! ## adding to the table -/

/-- A verb is granted on a kind of resource. -/
def Allows (grants : Grants) (kind : ResourceKind) (verb : String) : Prop :=
  ∃ verbs, grants.lookup kind = some verbs ∧ verb ∈ verbs

/-- The first entry of a table counts if it is the one that is looked up. -/
theorem lookup_cons_eq_ite (kind k : ResourceKind) (verbs : List String) (rest : Grants) :
    List.lookup k ((kind, verbs) :: rest) =
      if k = kind then some verbs else rest.lookup k := by
  rw [List.lookup_cons]
  by_cases hk : k = kind
  · simp [hk]
  · rw [if_neg hk, beq_eq_false_iff_ne.mpr hk]

/-- Adding verbs to a kind changes its own entry, and no other one. -/
theorem lookup_add (grants : Grants) (kind k : ResourceKind) (verbs : List String) :
    (grants.add kind verbs).lookup k =
      if k = kind then some (((grants.lookup kind).getD [] ++ verbs).eraseDups)
      else grants.lookup k := by
  induction grants with
  | nil => rw [add, lookup_cons_eq_ite]; rfl
  | cons entry rest ih =>
      obtain ⟨k', vs⟩ := entry
      by_cases hkind : k' = kind
      · subst hkind
        rw [add, if_pos rfl, lookup_cons_eq_ite, lookup_cons_eq_ite, lookup_cons_eq_ite]
        by_cases hk : k = k' <;> simp [hk]
      · have hkind' : ¬kind = k' := fun h => hkind h.symm
        rw [add, if_neg hkind, lookup_cons_eq_ite, lookup_cons_eq_ite, lookup_cons_eq_ite, ih]
        by_cases hk : k = k'
        · subst hk
          simp [hkind]
        · simp [hk, hkind']

/-- Adding verbs for a kind adds an entry for this kind only. -/
theorem isSome_lookup_add (grants : Grants) (kind k : ResourceKind) (verbs : List String) :
    ((grants.add kind verbs).lookup k).isSome ↔ (grants.lookup k).isSome ∨ k = kind := by
  rw [lookup_add]
  by_cases hk : k = kind <;> simp [hk]

/-- It allows these verbs, beside what was allowed before. -/
theorem allows_add (grants : Grants) (kind k : ResourceKind) (verbs : List String) (verb : String) :
    (grants.add kind verbs).Allows k verb ↔ grants.Allows k verb ∨ k = kind ∧ verb ∈ verbs := by
  unfold Allows
  rw [lookup_add]
  by_cases hk : k = kind
  · subst hk
    cases hold : grants.lookup k with
    | none => simp
    | some vs => simp
  · simp [hk]

/-! ## adding rules -/

/-- What holds after a fold held before it, or was brought about by one of the members, if that is
so for every single step. -/
theorem foldl_iff {α β : Type} {f : β → α → β} {P : β → Prop} {Q : α → Prop}
    (step : ∀ b a, P (f b a) ↔ P b ∨ Q a) (members : List α) (b : β) :
    P (members.foldl f b) ↔ P b ∨ ∃ a ∈ members, Q a := by
  induction members generalizing b with
  | nil => simp
  | cons a rest ih =>
      rw [List.foldl_cons, ih, step]
      simp [or_assoc]

/-- The kinds of resources that a rule is about. -/
def kindsOf (rule : PolicyRule) : List ResourceKind :=
  rule.resources.flatMap fun r =>
    (if rule.groups = [] then [""] else rule.groups).map fun g => ResourceKind.mk g r

/-- A rule is about the kinds of its resources in its groups. -/
theorem mem_kindsOf (rule : PolicyRule) (kind : ResourceKind) :
    kind ∈ kindsOf rule ↔ kind.resource ∈ rule.resources ∧
      (kind.group ∈ rule.groups ∨ rule.groups = [] ∧ kind.group = "") := by
  obtain ⟨group, resource⟩ := kind
  simp only [kindsOf, List.mem_flatMap, List.mem_map, ResourceKind.mk.injEq]
  by_cases hg : rule.groups = []
  · simp only [hg]
    grind
  · simp only [hg]
    grind

theorem addRule_of_isGeneral {rule : PolicyRule} (h : rule.IsGeneral) (grants : Grants) :
    grants.addRule rule =
      (kindsOf rule).foldl (fun grants kind => grants.add kind rule.verbs) grants := by
  rw [addRule, if_neg (by simp [h.1, h.2])]
  rfl

/-- A rule for single names or for URLs grants nothing. -/
theorem addRule_of_not_isGeneral {rule : PolicyRule} (h : ¬rule.IsGeneral) (grants : Grants) :
    grants.addRule rule = grants := by
  rw [addRule, if_pos]
  rwa [PolicyRule.IsGeneral, Classical.not_and_iff_not_or_not] at h

/-- A rule adds entries for the kinds that it covers. -/
theorem isSome_lookup_addRule (grants : Grants) (rule : PolicyRule) (k : ResourceKind) :
    ((grants.addRule rule).lookup k).isSome ↔ (grants.lookup k).isSome ∨ rule.Covers k := by
  by_cases h : rule.IsGeneral
  · rw [addRule_of_isGeneral h]
    rw [foldl_iff (P := fun g : Grants => (g.lookup k).isSome = true) (Q := (k = ·))
      fun g kind => isSome_lookup_add g kind k rule.verbs]
    simp [PolicyRule.Covers, h, mem_kindsOf]
  · rw [addRule_of_not_isGeneral h]
    simp [PolicyRule.Covers, h]

/-- It allows its verbs on these. -/
theorem allows_addRule (grants : Grants) (rule : PolicyRule) (k : ResourceKind) (verb : String) :
    (grants.addRule rule).Allows k verb ↔
      grants.Allows k verb ∨ rule.Covers k ∧ verb ∈ rule.verbs := by
  by_cases h : rule.IsGeneral
  · rw [addRule_of_isGeneral h]
    rw [foldl_iff (P := fun g : Grants => g.Allows k verb)
      (Q := fun kind => k = kind ∧ verb ∈ rule.verbs)
      fun g kind => allows_add g kind k rule.verbs verb]
    have hmem : (∃ kind ∈ kindsOf rule, k = kind ∧ verb ∈ rule.verbs) ↔
        k ∈ kindsOf rule ∧ verb ∈ rule.verbs := by grind
    rw [hmem, mem_kindsOf, PolicyRule.Covers]
    simp [h]
  · rw [addRule_of_not_isGeneral h]
    simp [PolicyRule.Covers, h]

/-! ## whole reviews -/

/-- A kind of resource is in the table exactly if the review lists a rule for it. -/
theorem isSome_lookup_ofReview (review : RulesReview) (k : ResourceKind) :
    ((ofReview review).lookup k).isSome ↔ ∃ rule, review.Lists k rule := by
  rw [ofReview, foldl_iff (P := fun g : Grants => (g.lookup k).isSome = true)
    fun g rule => isSome_lookup_addRule g rule k]
  simp only [List.mem_filterMap, RulesReview.Lists, isRule_iff]
  simp
  grind

/-- A verb is granted on a kind of resource exactly if the review lists a rule that says so. -/
theorem allows_ofReview (review : RulesReview) (k : ResourceKind) (verb : String) :
    (ofReview review).Allows k verb ↔ ∃ rule, review.Lists k rule ∧ verb ∈ rule.verbs := by
  rw [ofReview, foldl_iff (P := fun g : Grants => g.Allows k verb)
    fun g rule => allows_addRule g rule k verb]
  simp only [List.mem_filterMap, RulesReview.Lists, isRule_iff]
  have hempty : ¬Allows [] k verb := by simp [Allows]
  grind

/-- A requirement is met if its kind is in the table, and all of its verbs with it. -/
theorem meets_iff (grants : Grants) (r : Requirement) :
    grants.meets r = true ↔
      (grants.lookup r.kind).isSome ∧ ∀ verb ∈ r.verbs, grants.Allows r.kind verb := by
  unfold meets Allows
  cases grants.lookup r.kind with
  | none => simp
  | some verbs => simp

/-- Requirements are met exactly if, for each of them, the review lists a rule for its kind, and a
rule for each of its verbs, which need not be the same one.  So what counts about a review is which
general rules are among its entries: neither their order and number nor any other entry matters. -/
theorem permits_ofReview (review : RulesReview) (required : List Requirement) :
    ((ofReview review).permits required = true ↔
      ∀ r ∈ required, (∃ rule, review.Lists r.kind rule) ∧
        ∀ verb ∈ r.verbs, ∃ rule, review.Lists r.kind rule ∧ verb ∈ rule.verbs) ∧
    ∀ other : RulesReview,
      (∀ entry, (∃ rule, IsRule entry rule ∧ rule.IsGeneral) →
        (entry ∈ other.status.rules ↔ entry ∈ review.status.rules)) →
      (ofReview other).permits required = (ofReview review).permits required := by
  have hexact (rr : RulesReview) : (ofReview rr).permits required = true ↔
      ∀ r ∈ required, (∃ rule, rr.Lists r.kind rule) ∧
        ∀ verb ∈ r.verbs, ∃ rule, rr.Lists r.kind rule ∧ verb ∈ rule.verbs := by
    rw [permits, List.all_eq_true]
    refine forall₂_congr fun r _ => ?_
    rw [meets_iff, isSome_lookup_ofReview]
    simp only [allows_ofReview]
  refine ⟨hexact review, fun other hsame => ?_⟩
  have hlists : other.Lists = review.Lists := by
    funext kind rule
    refine propext (exists_congr fun entry => ?_)
    refine and_congr_left fun h => hsame entry ⟨rule, h.1, h.2.1⟩
  rw [Bool.eq_iff_iff, hexact, hexact, hlists]

end Grants

end Rollout
