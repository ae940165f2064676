import Rollout.Proofs.Completion
import Rollout.Proofs.Naming

/-!
# Rollout.Proofs.Annotation

Which name the annotation of the latest build gives to a deployment config.

* `NamesFirst`, `NamesNothing`, `Yaml.LacksValue` — what a text may be: one that names a deployment
  config, one that does not, and one that holds a value which cannot be made;
* `RecordNames`, `exists_recordNames` — the name from a text;
* `NamedBy`, `exists_namedBy` — the name from builds;
* `GivesName`, `givesName_of_unmixed` — what the name depends on; `configNameIn_givesName` — the name
  in a cluster.
-/

namespace Rollout

/-! ## texts of annotations -/

/-- A text has the form of a document but holds none, since a value in it cannot be made, or it is
nested too deep. -/
def Yaml.LacksValue (record : String) (fault : Yaml.Fault) : Prop :=
  Yaml.document record = .error fault ∧ fault ≠ .form

/-- A text holds a map with a map of versions of deployments, and this is its first key. -/
def FirstVersion (record : String) (key : Document) : Prop :=
  ∃ mark entries mark' version versions,
    Yaml.document record = .ok (.map mark entries) ∧
    Document.valueOf? servicesKey entries = some (.map mark' ((key, version) :: versions))

/-- The first key of the versions in a text is a name. -/
def NamesFirst (record name : String) : Prop :=
  ∃ key, FirstVersion record key ∧ key.strictText? = some name ∧ name ≠ ""

/-- A text names no deployment config. -/
inductive NamesNothing (record : String) : Prop where
  | notYaml : Yaml.document record = .error .form → NamesNothing record
  | empty : Yaml.document record = .ok .null → NamesNothing record
  | notMap {d : Document} : Yaml.document record = .ok d → d.isMap = false → NamesNothing record
  | noVersions {mark : Option Nat} {entries : List (Document × Document)} :
    Yaml.document record = .ok (.map mark entries) →
    Document.valueOf? servicesKey entries = none → NamesNothing record
  | versionsNotMap {mark : Option Nat} {entries : List (Document × Document)} {d : Document} :
    Yaml.document record = .ok (.map mark entries) →
    Document.valueOf? servicesKey entries = some d → d.isMap = false → NamesNothing record
  | emptyVersions {mark mark' : Option Nat} {entries : List (Document × Document)} :
    Yaml.document record = .ok (.map mark entries) →
    Document.valueOf? servicesKey entries = some (.map mark' []) → NamesNothing record
  | notText {key : Document} :
    FirstVersion record key → key.strictText? = none → NamesNothing record
  | emptyText {key : Document} :
    FirstVersion record key → key.strictText? = some "" → NamesNothing record

/-- The name of a deployment config as a text gives it, or else that of the application. -/
inductive RecordNames (app record : String) : String → Prop where
  | nothing : NamesNothing record → RecordNames app record app
  | first {name : String} : NamesFirst record name → RecordNames app record name

/-- The name that is taken from a text. -/
def nameFrom (app record : String) : Outcome String :=
  match configNamed record with
  | .ok name => .ok ((nonEmpty? name).getD app)
  | .error (.malformed _) => .ok app
  | .error failure => .error failure

section

variable {record : String}

/-- A record that is no YAML has the failure that its fault stands for. -/
theorem configNamed_of_fault {fault : Yaml.Fault} (h : Yaml.document record = .error fault) :
    configNamed record = .error (.ofFault .servicesText fault) := by
  rw [configNamed, h]

/-- In a record that is a map, the name is looked for under its key. -/
theorem configNamed_of_map {mark : Option Nat} {entries : List (Document × Document)}
    (h : Yaml.document record = .ok (.map mark entries)) :
    configNamed record = (Document.valueOf? servicesKey entries).elim (.ok none) firstName := by
  simp [configNamed, h, Document.isNull, Document.isMap]

/-- Without a map of versions there is no name. -/
theorem firstName_of_not_isMap {d : Document} (h : d.isMap = false) : firstName d = .ok none := by
  cases d with
  | map => cases h
  | _ => rfl

/-- Of several versions, the first key is the name, if it is a text. -/
theorem firstName_cons (mark : Option Nat) (key version : Document)
    (versions : List (Document × Document)) :
    firstName (.map mark ((key, version) :: versions)) =
      key.strictText?.elim (.error (.malformed .servicesNoText)) fun name => .ok (some name) := by
  cases key <;> rfl

/-- A record with a first version is named by it. -/
theorem FirstVersion.configNamed_eq {key : Document} (h : FirstVersion record key) :
    configNamed record =
      key.strictText?.elim (.error (.malformed .servicesNoText)) fun name => .ok (some name) := by
  obtain ⟨mark, entries, mark', version, versions, hdocument, hversions⟩ := h
  rw [configNamed_of_map hdocument, hversions, Option.elim_some, firstName_cons]

theorem nonEmpty?_some {name : String} (h : name ≠ "") : nonEmpty? (some name) = some name :=
  nonEmpty?_eq_some_iff.mpr ⟨rfl, h⟩

/-- Another name than the one from a text is none. -/
theorem RecordNames.nameFrom_eq {app name : String} (h : RecordNames app record name) :
    nameFrom app record = .ok name := by
  unfold nameFrom
  cases h with
  | first hfirst =>
      obtain ⟨key, hkey, hname, hne⟩ := hfirst
      rw [hkey.configNamed_eq, hname]
      simp only [Option.elim_some, nonEmpty?_some hne, Option.getD_some]
  | nothing hnothing =>
      cases hnothing with
      | notYaml hfault =>
          rw [configNamed_of_fault hfault]
          rfl
      | empty hnull =>
          rw [configNamed, hnull]
          rfl
      | @notMap d hd hmap =>
          rw [configNamed, hd]
          cases hnull : d.isNull <;> simp [hnull, hmap, nonEmpty?]
      | noVersions hdocument hnone =>
          rw [configNamed_of_map hdocument, hnone]
          rfl
      | versionsNotMap hdocument hversions hmap =>
          rw [configNamed_of_map hdocument, hversions, Option.elim_some, firstName_of_not_isMap hmap]
          rfl
      | emptyVersions hdocument hversions =>
          rw [configNamed_of_map hdocument, hversions]
          rfl
      | notText hkey htext =>
          rw [hkey.configNamed_eq, htext]
          rfl
      | emptyText hkey htext =>
          rw [hkey.configNamed_eq, htext]
          rfl

/-- The first key of some versions is a name or none. -/
theorem recordNames_of_firstVersion (app : String) {key : Document} (h : FirstVersion record key) :
    ∃ name, RecordNames app record name := by
  cases hkey : key.strictText? with
  | none => exact ⟨app, .nothing (.notText h hkey)⟩
  | some name =>
      by_cases hne : name = ""
      · exact ⟨app, .nothing (.emptyText h (hne ▸ hkey))⟩
      · exact ⟨name, .first ⟨key, h, hkey, hne⟩⟩

/-- Each text gives a name, unless it holds a value that cannot be made. -/
theorem exists_recordNames (app : String) (h : ∀ fault, ¬ Yaml.LacksValue record fault) :
    ∃ name, RecordNames app record name := by
  cases hdocument : Yaml.document record with
  | error fault =>
      have hform : fault = .form := Classical.not_not.mp fun hne => h fault ⟨hdocument, hne⟩
      exact ⟨app, .nothing (.notYaml (hform ▸ hdocument))⟩
  | ok d =>
      cases d with
      | map mark entries =>
          cases hversions : Document.valueOf? servicesKey entries with
          | none => exact ⟨app, .nothing (.noVersions hdocument hversions)⟩
          | some versions =>
              cases versions with
              | map mark' versions =>
                  cases versions with
                  | nil => exact ⟨app, .nothing (.emptyVersions hdocument hversions)⟩
                  | cons first rest =>
                      exact recordNames_of_firstVersion app
                        ⟨mark, entries, mark', first.2, rest, hdocument, hversions⟩
              | _ => exact ⟨app, .nothing (.versionsNotMap hdocument hversions rfl)⟩
      | _ => exact ⟨app, .nothing (.notMap hdocument rfl)⟩

/-- A text that holds a value which cannot be made gives no name. -/
theorem nameFrom_of_lacksValue (app : String) {fault : Yaml.Fault}
    (h : Yaml.LacksValue record fault) :
    nameFrom app record = .error (.ofFault .servicesText fault) := by
  obtain ⟨hfault, hne⟩ := h
  rw [nameFrom, configNamed_of_fault hfault]
  cases fault with
  | form => contradiction
  | _ => rfl

end

/-! ## the name from builds -/

/-- The text of the annotation of a build for a namespace. -/
def Build.record? (b : Build) (ns : String) : Option String :=
  b.metadata.annotations.lookup (annotationFor ns)

/-- The name of a deployment config as the latest build gives it, or else that of the application. -/
inductive NamedBy (builds : List Build) (ns app : String) : String → Prop where
  | noBuild : (∀ b, ¬ IsLatest builds b) → NamedBy builds ns app app
  | noRecord {b : Build} : IsLatest builds b → b.record? ns = none → NamedBy builds ns app app
  | record {b : Build} {record name : String} : IsLatest builds b → b.record? ns = some record →
    RecordNames app record name → NamedBy builds ns app name

/-- The latest build, if there is one, has no annotation for a namespace with a value that cannot be
made. -/
def HasValues (builds : List Build) (ns : String) : Prop :=
  ∀ b record, IsLatest builds b → b.record? ns = some record →
    ∀ fault, ¬ Yaml.LacksValue record fault

section

variable {builds : List Build} {ns app : String}

/-- The name is found in the record of the latest build, or it is that of the application. -/
theorem configName_eq (builds : List Build) (ns app : String) :
    configName builds ns app = (latestBuild builds).bind fun b? =>
      (b?.bind (·.record? ns)).elim (.ok app) (nameFrom app) := by
  unfold configName
  cases latestBuild builds with
  | error e => rfl
  | ok b? =>
      cases b? with
      | none => rfl
      | some b =>
          simp only [bind, Except.bind, Option.bind_some, Build.record?]
          cases b.metadata.annotations.lookup (annotationFor ns) with
          | none => rfl
          | some record =>
              simp only [Option.elim_some, nameFrom]
              cases configNamed record with
              | ok name => rfl
              | error e => cases e <;> rfl

/-- The latest build, or that there is none, decides on the name. -/
theorem configName_of_latest {b : Build} (hunmixed : ¬ DateTime.Mixed (completions builds))
    (h : IsLatest builds b) :
    configName builds ns app = (b.record? ns).elim (.ok app) (nameFrom app) := by
  obtain ⟨b', hfound, hlatest⟩ :=
    (completion_latestBuild builds).latest h.completions_ne_nil hunmixed
  obtain rfl := (hlatest b).mp h
  rw [configName_eq, hfound]
  rfl

/-- If no build is the latest one, none has been completed. -/
theorem completions_eq_nil (hunmixed : ¬ DateTime.Mixed (completions builds))
    (h : ∀ b, ¬ IsLatest builds b) : completions builds = [] := by
  by_contra hne
  obtain ⟨b, -, hlatest⟩ := (completion_latestBuild builds).latest hne hunmixed
  exact h b ((hlatest b).mpr rfl)

/-- Another name than the one from the builds is none. -/
theorem NamedBy.configName_eq {name : String} (hunmixed : ¬ DateTime.Mixed (completions builds))
    (h : NamedBy builds ns app name) : configName builds ns app = .ok name := by
  cases h with
  | noBuild hnone =>
      have hnothing := (completion_latestBuild builds).nothing.mpr (completions_eq_nil hunmixed hnone)
      rw [Rollout.configName_eq, hnothing]
      rfl
  | noRecord hlatest hrecord =>
      rw [configName_of_latest hunmixed hlatest, hrecord]
      rfl
  | record hlatest hrecord hnames =>
      rw [configName_of_latest hunmixed hlatest, hrecord]
      exact hnames.nameFrom_eq

/-- Builds give a name. -/
theorem exists_namedBy (app : String) (hvalues : HasValues builds ns) :
    ∃ name, NamedBy builds ns app name := by
  by_cases hnone : ∃ b, IsLatest builds b
  · obtain ⟨b, hlatest⟩ := hnone
    cases hrecord : b.record? ns with
    | none => exact ⟨app, .noRecord hlatest hrecord⟩
    | some record =>
        obtain ⟨name, hname⟩ := exists_recordNames app (hvalues b record hlatest hrecord)
        exact ⟨name, .record hlatest hrecord hname⟩
  · exact ⟨app, .noBuild fun b hb => hnone ⟨b, hb⟩⟩

/-- Where there is a name, no value of the annotation is missing. -/
theorem hasValues_of_ok {name : String} (hunmixed : ¬ DateTime.Mixed (completions builds))
    (h : configName builds ns app = .ok name) : HasValues builds ns := by
  intro b record hlatest hrecord fault hlacks
  rw [configName_of_latest hunmixed hlatest, hrecord, Option.elim_some,
    nameFrom_of_lacksValue app hlacks] at h
  contradiction

end

/-! ## what the name depends on -/

/-- Two builds have the same annotation for a namespace, or ones with the same first version. -/
def SameRecord (ns : String) (b b' : Build) : Prop :=
  b.record? ns = b'.record? ns ∨
    ∃ record record' key, b.record? ns = some record ∧ b'.record? ns = some record' ∧
      FirstVersion record key ∧ FirstVersion record' key

/-- Two builds with the same record give the same name. -/
theorem SameRecord.elim_nameFrom {ns : String} {b b' : Build} (h : SameRecord ns b b')
    (app : String) :
    (b.record? ns).elim (.ok app) (nameFrom app) =
      (b'.record? ns).elim (.ok app) (nameFrom app) := by
  obtain heq | ⟨record, record', key, hrecord, hrecord', hkey, hkey'⟩ := h
  · rw [heq]
  · have hnamed : configNamed record = configNamed record' :=
      hkey.configNamed_eq.trans hkey'.configNamed_eq.symm
    rw [hrecord, hrecord', Option.elim_some, Option.elim_some, nameFrom, nameFrom, hnamed]

/-- Builds give one name.  Of all builds only the latest one matters, and of its annotations only the
first version in the one for the namespace. -/
structure GivesName (builds : List Build) (ns app name : String) : Prop where
  named {other : String} : NamedBy builds ns app other ↔ other = name
  unaffected {builds' : List Build} {b b' : Build} : IsLatest builds b → IsLatest builds' b' →
    ¬ DateTime.Mixed (completions builds') → SameRecord ns b b' →
    configName builds' ns app = .ok name
  reordered {builds' : List Build} : builds.Perm builds' →
    ((completions builds).map DateTime.instant).Nodup → configName builds' ns app = .ok name

/-- Builds give a name unless their times are mixed or a value of the annotation is missing. -/
theorem givesName_of_unmixed {builds : List Build} {ns : String} (app : String)
    (hunmixed : ¬ DateTime.Mixed (completions builds)) (hvalues : HasValues builds ns) :
    ∃ name, configName builds ns app = .ok name ∧ GivesName builds ns app name := by
  obtain ⟨name, hnamed⟩ := exists_namedBy app hvalues
  have hname := hnamed.configName_eq hunmixed
  refine ⟨name, hname, ?_, ?_, ?_⟩
  case refine_1 =>
    intro other
    constructor
    · intro hother
      exact Except.ok.inj ((hother.configName_eq hunmixed).symm.trans hname)
    · rintro rfl
      exact hnamed
  case refine_2 =>
    intro builds' b b' hlatest hlatest' hunmixed' hsame
    rw [← hname, configName_of_latest hunmixed hlatest, configName_of_latest hunmixed' hlatest',
      hsame.elim_nameFrom]
  case refine_3 =>
    intro builds' hperm hdistinct
    rw [← hname, configName_eq, configName_eq, latestBuild_perm hperm hunmixed hdistinct]

/-- Keys that are merged into the versions come before all others. -/
example : (configNamed
    "b: &b\n  merged: '1'\ndeploymentVersions:\n  own: '2'\n  <<: *b\n").toOption =
    some (some "merged") := by
  decide +kernel

/-! ## the name in a cluster -/

namespace Client

variable {σ : Type} [Cluster σ]

/-- After the builds nothing is asked for a name. -/
theorem eval_configNameIn {ns app space : String} {r r' : Run σ} {list : BuildList}
    (hbuilds : (builds r.session.config.userNamespace (buildSelector app space)).eval r =
      (.ok list, r')) :
    (configNameIn ns app space).eval r = (configName list.items ns app, r') := by
  unfold configNameIn
  rw [eval_bind_of_ok (eval_config r), eval_bind_of_ok hbuilds, eval_outcome]

/-- The deployment config of an application has the name that its builds give. -/
theorem configNameIn_givesName {ns app space : String} {r r' : Run σ} {list : BuildList}
    (hbuilds : (builds r.session.config.userNamespace (buildSelector app space)).eval r =
      (.ok list, r'))
    (hunmixed : ¬ DateTime.Mixed (completions list.items)) (hvalues : HasValues list.items ns) :
    ∃ name, (configNameIn ns app space).eval r = (.ok name, r') ∧
      GivesName list.items ns app name := by
  obtain ⟨name, hname, hgives⟩ := givesName_of_unmixed app hunmixed hvalues
  exact ⟨name, by rw [eval_configNameIn hbuilds, hname], hgives⟩

end Client

/-- A client of a cluster with builds that are complete, the latest one in the middle, and one that is
not. -/
def annotated : Run Recorded where
  session := ⟨⟨.cluster "https://api.a.b" "t" "https://api.a.b" "t", "my", none, true, 1⟩, ⟨0, some 0⟩,
    [("run", "my-run")], [], [], false⟩
  cluster := ⟨[], [("GET /oapi/v1/namespaces/my/builds",
    .answer 200 (.document (.object [("kind", .text "BuildList"), ("items", .list [
      build "Complete" "2018-01-01T00:00:00Z" "deploymentVersions:\n  old: '1'\n",
      build "Complete" "2018-01-02T00:00:00Z" "deploymentVersions:\n  app-dc: '2'\n  other: '1'\n",
      build "Complete" "2018-01-01T12:00:00Z" "deploymentVersions:\n  old: '1'\n",
      build "Failed" "2018-01-03T00:00:00Z" "deploymentVersions:\n  failed: '3'\n"])])))]⟩
where
  build (phase time record : String) : Document := .object [
    ("metadata", .object [("annotations", .object [(annotationFor "my-run", .text record)])]),
    ("status", .object [("phase", .text phase), ("completionTimestamp", .text time)])]

open Client in
/-- The name is the first one of the latest build that is complete. -/
theorem annotated_givesName :
    ∃ (list : BuildList) (r' : Run Recorded),
      (Client.builds "my" (buildSelector "app" "space")).eval annotated = (.ok list, r') ∧
      ¬ DateTime.Mixed (completions list.items) ∧ HasValues list.items "my-run" ∧
      (configNameIn "my-run" "app" "space").eval annotated = (.ok "app-dc", r') ∧
      GivesName list.items "my-run" "app" "app-dc" := by
  obtain ⟨list, hbuilds⟩ := exists_eval_eq_ok (r := annotated)
    (m := Client.builds "my" (buildSelector "app" "space")) (by decide +kernel)
  have hoffsets : (((Client.builds "my" (buildSelector "app" "space")).eval annotated).1.toOption.map
      fun (l : BuildList) => (completions l.items).all (·.offset.isSome)) = some true := by
    decide +kernel
  have hname : (((Client.builds "my" (buildSelector "app" "space")).eval annotated).1.toOption.bind
      fun (l : BuildList) => (configName l.items "my-run" "app").toOption) = some "app-dc" := by
    decide +kernel
  rw [hbuilds] at hoffsets hname
  have hunmixed : ¬ DateTime.Mixed (completions list.items) := by
    rintro ⟨-, t, ht, hnone⟩
    have hsome := List.all_eq_true.mp (Option.some.inj hoffsets) t ht
    rw [hnone] at hsome
    contradiction
  have hvalues : HasValues list.items "my-run" :=
    hasValues_of_ok hunmixed (Outcome.eq_ok_of_toOption hname)
  obtain ⟨name, heval, hgives⟩ := configNameIn_givesName (r := annotated) hbuilds hunmixed hvalues
  have hconfigName : (configNameIn "my-run" "app" "space").eval annotated =
    (configName list.items "my-run" "app", _) := eval_configNameIn hbuilds
  rw [Outcome.eq_ok_of_toOption hname, heval] at hconfigName
  cases hconfigName
  exact ⟨list, _, hbuilds, hunmixed, hvalues, heval, hgives⟩

end Rollout
