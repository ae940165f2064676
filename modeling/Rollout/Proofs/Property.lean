import Rollout.Proofs.Namespaces

/-!
# Rollout.Proofs.Property

Environments whose text has the line `namespace: …`, among lines with other keys.

* `keyOf`, `Shown`, `HasProperty` — one line has the key `namespace` and a text, and the others have
  different keys;
* `getLast?_filter_append_cons`, `namespaceIn_of_last` — the last line that begins with the word counts,
  whatever its key is;
* `ListsAs` — an environment is listed with a namespace, if no other one is at fault;
* `PropertyCourse`, `propertyCourse` — the property counts unless another key begins with the word;
* `superseded_other` — a line with such a key takes the place of the property.
-/

namespace Rollout

/-! ## keys -/

/-- What a line has in front of its first colon; all of it if there is none. -/
def keyOf (line : List Char) : List Char := line.takeWhile (· ≠ ':')

/-- The line that gives a text as the namespace. -/
def propertyLine (text : List Char) : List Char := namespaceWord ++ ':' :: text

/-- A text without the blank characters at both ends. -/
def stripped (text : List Char) : String := String.ofList (Text.trimList Text.isBlank text)

/-- Some character of a text is not blank. -/
def Shown (text : List Char) : Prop := ∃ c ∈ text, Text.isBlank c = false

-- By the characters of the text, not by all there are.
instance : DecidablePred Shown := fun text => List.decidableBEx (Text.isBlank · = false) text

/-- Of the lines of a value, one has the key `namespace` and a text that is not blank.  The lines before
and after it have other keys, if any. -/
structure HasProperty (value : String) (before : List (List Char)) (text : List Char)
    (after : List (List Char)) : Prop where
  lines_eq : lines value = before ++ propertyLine text :: after
  others : ∀ line ∈ before ++ after, keyOf line ≠ namespaceWord
  shown : Shown text

/-- A text that shows something is not empty when blanks are stripped. -/
theorem stripped_ne_empty {text : List Char} (h : Shown text) : stripped text ≠ "" := by
  obtain ⟨c, hc, hshown⟩ := h
  rw [stripped, Ne, ← String.toList_inj, String.toList_ofList]
  intro hnil
  have hblank := trimList_eq_nil_iff.mp hnil c hc
  rw [hshown] at hblank
  cases hblank

/-! ## the line that counts -/

/-- The last value of a class is the one that is followed by none of the class. -/
theorem getLast?_filter_append_cons {α : Type} {p : α → Bool} {a : α} (before : List α)
    {after : List α} (ha : p a = true) (hafter : ∀ b ∈ after, p b = false) :
    ((before ++ a :: after).filter p).getLast? = some a := by
  have hnone : after.filter p = [] := List.filter_eq_nil_iff.mpr fun b hb => by simp [hafter b hb]
  rw [List.filter_append, List.filter_cons_of_pos ha, hnone, List.getLast?_concat]

/-- The last line that begins with the word is the one after which none does. -/
theorem getLast?_namespaceLines {value : String} {before after : List (List Char)}
    {line : List Char} (hlines : lines value = before ++ line :: after)
    (hword : namespaceWord <+: line) (hafter : ∀ other ∈ after, ¬ namespaceWord <+: other) :
    (namespaceLines value).getLast? = some line := by
  rw [namespaceLines, hlines]
  exact getLast?_filter_append_cons before (decide_eq_true hword)
    fun other hother => decide_eq_false (hafter other hother)

/-- It is the one that gives the namespace. -/
theorem namespaceIn_of_last {value : String} {before after : List (List Char)} {line : List Char}
    (hlines : lines value = before ++ line :: after)
    (hcolons : ∀ other ∈ lines value, namespaceWord <+: other → ':' ∈ other)
    (hword : namespaceWord <+: line) (hafter : ∀ other ∈ after, ¬ namespaceWord <+: other) :
    namespaceIn value = .ok (valueOf line) := by
  have hall : ∀ other ∈ namespaceLines value, ':' ∈ other := fun other hother =>
    hcolons other (mem_namespaceLines.mp hother).1 (mem_namespaceLines.mp hother).2
  rw [namespaceIn_eq, if_pos hall, getLast?_namespaceLines hlines hword hafter]
  rfl

/-- The value of a line of the property is its text, stripped. -/
theorem valueOf_propertyLine (text : List Char) : valueOf (propertyLine text) = stripped text :=
  valueOf_append (by decide)

/-! ## environments -/

/-- An environment is listed with a namespace.  If no environment is listed, another one is at fault. -/
structure ListsAs (m : ConfigMap) (user name value ns : String) : Prop where
  found {all : Labels} : environments m user = .ok all → (name, ns) ∈ all
  blameless {e : Failure} : environments m user = .error e →
    ∃ entry ∈ m.data, entry ≠ (name, value) ∧ LacksNamespace entry.2

variable {m : ConfigMap} {user name value : String}

/-- An environment is listed as the namespace that is found in its value. -/
theorem listsAs_of_namespaceIn {ns : String}
    (hprovider : m.metadata.labels.lookup "provider" = some environmentsProvider)
    (hentry : (name, value) ∈ m.data) (h : namespaceIn value = .ok ns) (hne : ns ≠ "") :
    ListsAs m user name value ns := by
  have hlisted : listed (name, value) = .ok (name, ns) := by
    simp only [listed, h, bind, Except.bind, if_neg hne]
    rfl
  constructor
  case found =>
    intro all hall
    rw [environments_eq hprovider] at hall
    obtain ⟨given, hgiven, hfound⟩ := Outcome.exists_of_mem_of_mapM hall hentry
    rw [hlisted] at hfound
    exact Except.ok.inj hfound ▸ hgiven
  case blameless =>
    intro e he
    rw [environments_eq hprovider] at he
    obtain ⟨entry, hmem, hfails⟩ := Outcome.exists_of_mapM_eq_error he
    refine ⟨entry, hmem, ?_, (listed_eq_error hfails).1⟩
    rintro rfl
    rw [hlisted] at hfails
    cases hfails

/-- What an environment comes to whose value has the property. -/
structure PropertyCourse (m : ConfigMap) (user name value : String) (before : List (List Char))
    (text : List Char) (after : List (List Char)) : Prop where
  /-- The property counts while no line behind it begins with the word, and none in front of it does
  without a colon.  Nothing else depends on what the other lines are and where they stand. -/
  kept : (∀ line ∈ after, ¬ namespaceWord <+: line) →
    (∀ line ∈ before, namespaceWord <+: line → ':' ∈ line) →
    ListsAs m user name value (stripped text)
  /-- Behind the property, the last line that begins with the word counts, whatever its key is. -/
  replaced {between rest : List (List Char)} {key other : List Char} :
    after = between ++ (key ++ ':' :: other) :: rest → namespaceWord <+: key → ':' ∉ key →
    (∀ line ∈ rest, ¬ namespaceWord <+: line) →
    (∀ line ∈ before ++ after, namespaceWord <+: line → ':' ∈ line) →
    if Shown other then ListsAs m user name value (stripped other)
    else ∃ cause, environments m user = .error (.misconfigured cause)
  /-- A line that begins with the word and has no colon is an error, wherever it stands. -/
  fails {line : List Char} : line ∈ before ++ after → namespaceWord <+: line → ':' ∉ line →
    ∃ cause, environments m user = .error (.misconfigured cause)

/-- One value that lacks a namespace keeps all environments from being listed. -/
theorem exists_error_of_lacksNamespace
    (hprovider : m.metadata.labels.lookup "provider" = some environmentsProvider)
    (hentry : (name, value) ∈ m.data) (h : LacksNamespace value) :
    ∃ cause, environments m user = .error (.misconfigured cause) := by
  have hall := allOrNone_environments m user
  obtain ⟨e, he⟩ := (hall.fails_iff hprovider).mpr ⟨_, hentry, h⟩
  obtain ⟨cause, rfl⟩ := hall.misconfigured he
  exact ⟨cause, he⟩

/-- The lines of a value are that of the property, and those around it. -/
theorem HasProperty.mem_lines_iff {before after : List (List Char)} {text line : List Char}
    (h : HasProperty value before text after) :
    line ∈ lines value ↔ line = propertyLine text ∨ line ∈ before ++ after := by
  rw [h.lines_eq, List.mem_append, List.mem_cons, List.mem_append, or_left_comm]

/-- The property counts, unless another line begins with the word. -/
theorem propertyCourse (user : String) {before after : List (List Char)} {text : List Char}
    (hprovider : m.metadata.labels.lookup "provider" = some environmentsProvider)
    (hentry : (name, value) ∈ m.data) (h : HasProperty value before text after) :
    PropertyCourse m user name value before text after := by
  have hcolons (hothers : ∀ line ∈ before ++ after, namespaceWord <+: line → ':' ∈ line) :
      ∀ line ∈ lines value, namespaceWord <+: line → ':' ∈ line := by
    intro line hline hword
    obtain rfl | hline := h.mem_lines_iff.mp hline
    · exact List.mem_append_right _ (.head _)
    · exact hothers line hline hword
  constructor
  case kept =>
    intro hafter hbefore
    have hall : ∀ line ∈ lines value, namespaceWord <+: line → ':' ∈ line :=
      hcolons fun line hline hword => (List.mem_append.mp hline).elim
        (fun hline => hbefore line hline hword) fun hline => absurd hword (hafter line hline)
    have hin := namespaceIn_of_last h.lines_eq hall (List.prefix_append _ _) hafter
    rw [valueOf_propertyLine] at hin
    exact listsAs_of_namespaceIn hprovider hentry hin (stripped_ne_empty h.shown)
  case replaced =>
    intro between rest key other hafter hword hkey hrest hothers
    have hlines : lines value =
        (before ++ propertyLine text :: between) ++ (key ++ ':' :: other) :: rest := by
      rw [h.lines_eq, hafter, List.append_assoc, List.cons_append]
    have hbegins : namespaceWord <+: key ++ ':' :: other := hword.trans (List.prefix_append _ _)
    split
    next hshown =>
      have hin := namespaceIn_of_last hlines (hcolons hothers) hbegins hrest
      rw [valueOf_append hkey] at hin
      exact listsAs_of_namespaceIn hprovider hentry hin (stripped_ne_empty hshown)
    next hblank =>
      have hlast := getLast?_namespaceLines hlines hbegins hrest
      refine exists_error_of_lacksNamespace hprovider hentry (.blank hlast hkey fun c hc => ?_)
      exact Bool.of_not_eq_false fun hshown => hblank ⟨c, hc, hshown⟩
  case fails =>
    intro line hline hword hcolon
    exact exists_error_of_lacksNamespace hprovider hentry
      (.noColon (h.mem_lines_iff.mpr (.inr hline)) hword hcolon)

/-! ## a key that begins with the word -/

/-- Two environments with a property each.  In front of the first one's, and behind the second one's,
there is a line whose key only begins with the word. -/
def crowded : ConfigMap where
  metadata := { labels := [("provider", "fabric8")] }
  data := [("run", crowded.run), ("stage", crowded.stage)]
where
  run : String := "namespaces: all\nnamespace:  my-run \norder 1"
  stage : String := "namespace: my-stage\nnamespace-old: other"

/-- The first environment has the namespace of its property, and the second one that of the other
line. -/
theorem crowded_course :
    crowded.metadata.labels.lookup "provider" = some environmentsProvider ∧
      HasProperty crowded.run ["namespaces: all".toList] "  my-run ".toList ["order 1".toList] ∧
      HasProperty crowded.stage [] " my-stage".toList ["namespace-old: other".toList] ∧
      ListsAs crowded "my" "run" crowded.run "my-run" ∧
      ListsAs crowded "my" "stage" crowded.stage "other" ∧
      environments crowded "my" = .ok [("run", "my-run"), ("stage", "other")] := by
  have hprovider : crowded.metadata.labels.lookup "provider" = some environmentsProvider := by decide
  have hrun : HasProperty crowded.run ["namespaces: all".toList] "  my-run ".toList
      ["order 1".toList] := by
    constructor <;> decide
  have hstage : HasProperty crowded.stage [] " my-stage".toList ["namespace-old: other".toList] := by
    constructor <;> decide
  have hkept : ListsAs crowded "my" "run" crowded.run "my-run" :=
    (propertyCourse "my" hprovider (.head _) hrun).kept (by decide) (by decide)
  have hbehind : ["namespace-old: other".toList] =
      [] ++ ("namespace-old".toList ++ ':' :: " other".toList) :: [] := by decide
  have hreplaced := (propertyCourse "my" hprovider (.tail _ (.head _)) hstage).replaced hbehind
    (by decide) (by decide) (by decide) (by decide)
  rw [if_pos (by decide)] at hreplaced
  exact ⟨hprovider, hrun, hstage, hkept, hreplaced, Outcome.eq_ok_of_toOption (by decide)⟩

/-- An environment with a property, and a line with another key behind it. -/
def superseded : ConfigMap where
  metadata := { labels := [("provider", "fabric8")] }
  data := [("run", "namespace: my-run\nnamespace-old: other")]

/-- The line with the other key sets the namespace. -/
theorem superseded_other :
    HasProperty "namespace: my-run\nnamespace-old: other" [] " my-run".toList
        ["namespace-old: other".toList] ∧
      stripped " my-run".toList = "my-run" ∧
      environments superseded "my" = .ok [("run", "other")] := by
  refine ⟨?_, by decide, Outcome.eq_ok_of_toOption (by decide)⟩
  constructor <;> decide

end Rollout
