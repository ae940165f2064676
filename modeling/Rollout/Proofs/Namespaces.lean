import Mathlib.Data.List.DropRight
import Rollout.Environment
import Rollout.Proofs.Outcomes

/-!
# Rollout.Proofs.Namespaces

The environments that a config map lists: all of them, or none.

* `Trims`, `trims_trimList` — what trimming leaves;
* `namespaceLines`, `namespaceIn_eq` — the last line that gives a namespace counts, and all of them
  need a colon;
* `GivesNamespace`, `LacksNamespace`, `namespaceIn_cases` — a text gives a namespace or lacks one;
* `AllOrNone`, `allOrNone_environments` — what the environments of a config map come to.
-/

namespace Rollout

/-! ## trimming -/

/-- Nothing is left exactly of characters that all belong to the class. -/
theorem trimList_eq_nil_iff {p : Char → Bool} {cs : List Char} :
    Text.trimList p cs = [] ↔ ∀ c ∈ cs, p c = true := by
  have hright : Text.trimList p cs = [] ↔ ∀ c ∈ cs.dropWhile p, p c = true :=
    List.rdropWhile_eq_nil_iff
  rw [hright, ← List.dropWhile_eq_nil_iff, List.dropWhile_idempotent, List.dropWhile_eq_nil_iff]

/-- Characters begin and end with none that is blank. -/
structure IsTrimmed (cs : List Char) : Prop where
  head : ∀ c, cs.head? = some c → Text.isBlank c = false
  last : ∀ c, cs.getLast? = some c → Text.isBlank c = false

/-- What is left of characters without the blank ones at both ends. -/
def Trims (cs trimmed : List Char) : Prop :=
  IsTrimmed trimmed ∧ ∃ left right, cs = left ++ trimmed ++ right ∧
    (∀ c ∈ left, Text.isBlank c = true) ∧ ∀ c ∈ right, Text.isBlank c = true

/-- Trimming blanks leaves what stands between them. -/
theorem trims_trimList (cs : List Char) : Trims cs (Text.trimList Text.isBlank cs) := by
  have hsplit : cs.dropWhile Text.isBlank = Text.trimList Text.isBlank cs ++
      (cs.dropWhile Text.isBlank).rtakeWhile Text.isBlank :=
    List.rdropWhile_append_rtakeWhile.symm
  refine ⟨⟨fun c hc => ?_, fun c hc => ?_⟩, cs.takeWhile Text.isBlank,
    (cs.dropWhile Text.isBlank).rtakeWhile Text.isBlank, ?_, fun c hc => List.mem_takeWhile_imp hc,
    fun c hc => List.mem_rtakeWhile_imp hc⟩
  · refine Text.head?_dropWhile _ cs c ?_
    rw [hsplit, List.head?_append, hc]
    rfl
  · exact Text.getLast?_dropRight _ _ c hc
  · rw [List.append_assoc, ← hsplit, List.takeWhile_append_dropWhile]

/-- Of blank characters alone nothing is left. -/
theorem Trims.eq_nil {cs trimmed : List Char} (h : Trims cs trimmed)
    (hblank : ∀ c ∈ cs, Text.isBlank c = true) : trimmed = [] := by
  obtain ⟨⟨hhead, -⟩, left, right, rfl, -, -⟩ := h
  match trimmed with
  | [] => rfl
  | c :: rest =>
      have hnot := hhead c rfl
      rw [hblank c (by simp)] at hnot
      cases hnot

/-! ## the lines of a text -/

/-- The lines of a text that begin with the word. -/
def namespaceLines (text : String) : List (List Char) :=
  (lines text).filter (namespaceWord <+: ·)

/-- What a line has after its first colon, trimmed. -/
def valueOf (line : List Char) : String :=
  String.ofList (Text.trimList Text.isBlank ((line.dropWhile (· ≠ ':')).drop 1))

theorem dropWhile_append_colon {key : List Char} (hkey : ':' ∉ key) (value : List Char) :
    (key ++ ':' :: value).dropWhile (· ≠ ':') = ':' :: value := by
  rw [List.dropWhile_append_of_pos fun c hc => by simpa using ne_of_mem_of_not_mem hc hkey]
  rfl

/-- The value of a line is what comes after its first colon, trimmed. -/
theorem valueOf_append {key value : List Char} (hkey : ':' ∉ key) :
    valueOf (key ++ ':' :: value) = String.ofList (Text.trimList Text.isBlank value) := by
  rw [valueOf, dropWhile_append_colon hkey]
  rfl

/-- What is found by a line, after what has been found before. -/
def foundBy (found : String) (line : List Char) : Outcome String :=
  if namespaceWord <+: line then
    if ':' ∈ line then .ok (valueOf line) else .error (.misconfigured .environments)
  else .ok found

/-- The lines of a text are gone through in their order. -/
theorem namespaceIn_eq_foldlM (text : String) :
    namespaceIn text = (lines text).foldlM foundBy "" := by
  unfold namespaceIn
  congr 1
  funext found line
  rw [foundBy, ite_not]
  refine if_congr (eq_comm.trans List.prefix_iff_eq_take.symm) ?_ rfl
  by_cases hcolon : ':' ∈ line
  · obtain ⟨key, value, rfl, hkey⟩ := List.eq_append_cons_of_mem hcolon
    rw [if_pos hcolon, valueOf_append hkey, dropWhile_append_colon hkey]
  · have hnone : line.dropWhile (· ≠ ':') = [] :=
      List.dropWhile_eq_nil_iff.mpr fun c hc => by simpa using ne_of_mem_of_not_mem hc hcolon
    rw [if_neg hcolon, hnone]

/-- The last line that begins with the word counts, and each of them needs a colon. -/
theorem foldlM_foundBy (ls : List (List Char)) (found : String) :
    ls.foldlM foundBy found =
      if ∀ line ∈ ls.filter (namespaceWord <+: ·), ':' ∈ line then
        .ok (((ls.filter (namespaceWord <+: ·)).getLast?.map valueOf).getD found)
      else .error (.misconfigured .environments) := by
  -- What has been found before is kept only while no line begins with the word.
  induction ls generalizing found with
  | nil => rfl
  | cons line rest ih =>
      rw [List.foldlM_cons, foundBy]
      by_cases hword : namespaceWord <+: line
      · rw [if_pos hword, List.filter_cons_of_pos (by simpa using hword)]
        by_cases hcolon : ':' ∈ line
        · rw [if_pos hcolon, List.getLast?_cons]
          simp only [List.forall_mem_cons, hcolon, true_and]
          exact (ih _).trans (by rw [Option.map_some, Option.getD_some, Option.getD_map])
        · rw [if_neg hcolon, if_neg fun h => hcolon (h line (.head _))]
          rfl
      · rw [if_neg hword, List.filter_cons_of_neg (by simpa using hword)]
        exact ih found

/-- The last line that begins with the word gives the namespace, if all of these lines have a colon. -/
theorem namespaceIn_eq (text : String) :
    namespaceIn text =
      if ∀ line ∈ namespaceLines text, ':' ∈ line then
        .ok (((namespaceLines text).getLast?.map valueOf).getD "")
      else .error (.misconfigured .environments) := by
  rw [namespaceIn_eq_foldlM, foldlM_foundBy, namespaceLines]

/-! ## texts that give a namespace -/

/-- The text gives a namespace.  All lines that begin with the word have a colon, and what the last
one has after its first colon is the namespace, up to white space around it. -/
structure GivesNamespace (text ns : String) : Prop where
  colons : ∀ line ∈ namespaceLines text, ':' ∈ line
  last : ∃ key value, (namespaceLines text).getLast? = some (key ++ ':' :: value) ∧ ':' ∉ key ∧
    Trims value ns.toList
  ne_empty : ns ≠ ""

/-- The text gives no namespace. -/
inductive LacksNamespace (text : String) : Prop where
  | noColon {line : List Char} : line ∈ lines text → namespaceWord <+: line → ':' ∉ line →
    LacksNamespace text
  | noLine : (∀ line ∈ lines text, ¬ namespaceWord <+: line) → LacksNamespace text
  | blank {key value : List Char} :
    (namespaceLines text).getLast? = some (key ++ ':' :: value) → ':' ∉ key →
    (∀ c ∈ value, Text.isBlank c = true) → LacksNamespace text

theorem mem_namespaceLines {text : String} {line : List Char} :
    line ∈ namespaceLines text ↔ line ∈ lines text ∧ namespaceWord <+: line := by
  rw [namespaceLines, List.mem_filter, decide_eq_true_eq]

/-- The same line has only one first colon. -/
theorem eq_of_append_colon {key value key' value' : List Char} (hkey : ':' ∉ key)
    (hkey' : ':' ∉ key') (h : key ++ ':' :: value = key' ++ ':' :: value') : value = value' := by
  have hdrop := congrArg (List.dropWhile (· ≠ ':')) h
  rw [dropWhile_append_colon hkey, dropWhile_append_colon hkey'] at hdrop
  exact (List.cons.inj hdrop).2

/-- A text gives a namespace or lacks one, not both. -/
theorem not_lacksNamespace {text ns : String} (h : GivesNamespace text ns) :
    ¬ LacksNamespace text := by
  obtain ⟨hcolons, ⟨key, value, hlast, hkey, hvalue⟩, hne⟩ := h
  intro hlacks
  cases hlacks with
  | noColon hline hword hcolon => exact hcolon (hcolons _ (mem_namespaceLines.mpr ⟨hline, hword⟩))
  | noLine hnone =>
      obtain ⟨hline, hword⟩ := mem_namespaceLines.mp (List.mem_of_getLast? hlast)
      exact hnone _ hline hword
  | blank hlast' hkey' hblank =>
      obtain rfl := eq_of_append_colon hkey hkey' (Option.some.inj (hlast.symm.trans hlast'))
      exact hne (String.toList_eq_nil_iff.mp (hvalue.eq_nil hblank))

/-- A text gives a namespace, which is found, or it lacks one.  Then nothing is found, or a line without
a colon is an error of the configuration. -/
theorem namespaceIn_cases (text : String) :
    (∃ ns, GivesNamespace text ns ∧ namespaceIn text = .ok ns) ∨
      LacksNamespace text ∧
        (namespaceIn text = .ok "" ∨ namespaceIn text = .error (.misconfigured .environments)) := by
  rw [namespaceIn_eq]
  by_cases hcolons : ∀ line ∈ namespaceLines text, ':' ∈ line
  · rw [if_pos hcolons]
    cases hlast : (namespaceLines text).getLast? with
    | none =>
        refine .inr ⟨.noLine fun line hline hword => ?_, .inl rfl⟩
        rw [List.getLast?_eq_none_iff] at hlast
        exact List.not_mem_nil (hlast ▸ mem_namespaceLines.mpr ⟨hline, hword⟩)
    | some line =>
        obtain ⟨key, value, rfl, hkey⟩ :=
          List.eq_append_cons_of_mem (hcolons line (List.mem_of_getLast? hlast))
        rw [Option.map_some, Option.getD_some, valueOf_append hkey]
        by_cases hblank : ∀ c ∈ value, Text.isBlank c = true
        · rw [trimList_eq_nil_iff.mpr hblank]
          exact .inr ⟨.blank hlast hkey hblank, .inl rfl⟩
        · have hne : String.ofList (Text.trimList Text.isBlank value) ≠ "" := by
            rw [Ne, ← String.toList_inj, String.toList_ofList]
            exact mt trimList_eq_nil_iff.mp hblank
          refine .inl ⟨_, ⟨hcolons, ⟨key, value, hlast, hkey, ?_⟩, hne⟩, rfl⟩
          rw [String.toList_ofList]
          exact trims_trimList value
  · rw [if_neg hcolons]
    simp only [not_forall] at hcolons
    obtain ⟨line, hmem, hcolon⟩ := hcolons
    obtain ⟨hline, hword⟩ := mem_namespaceLines.mp hmem
    exact .inr ⟨.noColon hline hword hcolon, .inr rfl⟩

/-! ## the environments of a config map -/

/-- What an entry of a config map comes to: an environment and its namespace. -/
def listed (entry : String × String) : Outcome (String × String) := do
  let ns ← namespaceIn entry.2
  if ns = "" then throw (.misconfigured (.noNamespace entry.1)) else return (entry.1, ns)

/-- An entry is listed with the namespace that its text gives.  One that gives none is an error of the
configuration. -/
theorem listed_cases (entry : String × String) :
    (∃ ns, GivesNamespace entry.2 ns ∧ listed entry = .ok (entry.1, ns)) ∨
      LacksNamespace entry.2 ∧ ∃ cause, listed entry = .error (.misconfigured cause) := by
  unfold listed
  obtain ⟨ns, hgives, hfound⟩ | ⟨hlacks, hnone | hfails⟩ := namespaceIn_cases entry.2
  · refine .inl ⟨ns, hgives, ?_⟩
    simp only [hfound, bind, Except.bind, if_neg hgives.ne_empty]
    rfl
  · rw [hnone]
    exact .inr ⟨hlacks, _, rfl⟩
  · rw [hfails]
    exact .inr ⟨hlacks, _, rfl⟩

/-- An environment is listed under its name, with the namespace that its text gives. -/
theorem listed_eq_ok {entry given : String × String} (h : listed entry = .ok given) :
    entry.1 = given.1 ∧ GivesNamespace entry.2 given.2 := by
  obtain ⟨ns, hgives, hlisted⟩ | ⟨-, cause, hfails⟩ := listed_cases entry
  · rw [h] at hlisted
    cases hlisted
    exact ⟨rfl, hgives⟩
  · rw [h] at hfails
    cases hfails

/-- It cannot be listed only if its text lacks a namespace. -/
theorem listed_eq_error {entry : String × String} {e : Failure} (h : listed entry = .error e) :
    LacksNamespace entry.2 ∧ ∃ cause, e = .misconfigured cause := by
  obtain ⟨ns, -, hlisted⟩ | ⟨hlacks, cause, hfails⟩ := listed_cases entry
  · rw [h] at hlisted
    cases hlisted
  · rw [h] at hfails
    exact ⟨hlacks, cause, Except.error.inj hfails⟩

/-- What the environments of a config map come to. -/
structure AllOrNone (m : ConfigMap) (result : Outcome Labels) : Prop where
  /-- All environments are listed, in their order, each with the namespace that its text gives. -/
  complete {found : Labels} : result = .ok found →
    m.metadata.labels.lookup "provider" = some environmentsProvider ∧
      found.map (·.1) = m.data.map (·.1) ∧
      List.Forall₂ (fun entry given => entry.1 = given.1 ∧ GivesNamespace entry.2 given.2)
        m.data found
  /-- Otherwise the configuration is at fault. -/
  misconfigured {e : Failure} : result = .error e → ∃ cause, e = .misconfigured cause
  /-- With the provider that is expected, that takes a text without a namespace. -/
  fails_iff : m.metadata.labels.lookup "provider" = some environmentsProvider →
    ((∃ e, result = .error e) ↔ ∃ entry ∈ m.data, LacksNamespace entry.2)

/-- The environments are listed one by one. -/
theorem environments_eq {m : ConfigMap}
    (hprovider : m.metadata.labels.lookup "provider" = some environmentsProvider) (user : String) :
    environments m user = m.data.mapM listed := by
  unfold environments
  rw [if_neg (not_not.mpr hprovider)]
  rfl

/-- A config map of another provider is refused. -/
theorem environments_eq_of_other {m : ConfigMap}
    (hprovider : m.metadata.labels.lookup "provider" ≠ some environmentsProvider) (user : String) :
    environments m user = .error (.misconfigured (.provider user)) := by
  unfold environments
  rw [if_pos hprovider]

/-- All environments are listed, or none. -/
theorem allOrNone_environments (m : ConfigMap) (user : String) :
    AllOrNone m (environments m user) := by
  by_cases hprovider : m.metadata.labels.lookup "provider" = some environmentsProvider
  · rw [environments_eq hprovider]
    constructor
    case complete =>
      intro found hfound
      have hall := (Outcome.mapM_eq_ok_iff_forall₂.mp hfound).imp fun _ _ => listed_eq_ok
      have hnames : List.Forall₂ (· = ·) (m.data.map (·.1)) (found.map (·.1)) := by
        rw [List.forall₂_map_left_iff, List.forall₂_map_right_iff]
        exact hall.imp fun _ _ h => h.1
      rw [List.forall₂_eq_eq_eq] at hnames
      exact ⟨hprovider, hnames.symm, hall⟩
    case misconfigured =>
      intro e he
      obtain ⟨entry, -, hfails⟩ := Outcome.exists_of_mapM_eq_error he
      exact (listed_eq_error hfails).2
    case fails_iff =>
      refine fun _ => ⟨fun ⟨e, he⟩ => ?_, fun ⟨entry, hentry, hlacks⟩ => ?_⟩
      · obtain ⟨entry, hentry, hfails⟩ := Outcome.exists_of_mapM_eq_error he
        exact ⟨entry, hentry, (listed_eq_error hfails).1⟩
      · cases hfound : m.data.mapM listed with
        | error e => exact ⟨e, rfl⟩
        | ok found =>
            obtain ⟨given, -, hgiven⟩ := Outcome.exists_of_mem_of_mapM hfound hentry
            exact absurd hlacks (not_lacksNamespace (listed_eq_ok hgiven).2)
  · rw [environments_eq_of_other hprovider]
    exact ⟨nofun, fun h => ⟨_, (Except.error.inj h).symm⟩, fun h => absurd h hprovider⟩

end Rollout
