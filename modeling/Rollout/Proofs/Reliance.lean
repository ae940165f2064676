import Rollout.Proofs.Annotation
import Rollout.Proofs.Confinement

/-!
# Rollout.Proofs.Reliance

How far the operations on deployments get with what an annotation says.

* `configNamed_of_values` — a text gives a name, or none, or is malformed, unless it holds a value that
  cannot be made;
* `configNameIn_of_lacksValue` — such a text leaves the deployment config without a name;
* `ofText_fails` — after one request that has been made, another one fails only for its address;
* `Reliance`, `reliance_of_record` — what comes of an operation.
-/

namespace Rollout

open Client

/-! ## what a text comes to -/

/-- Without a value that cannot be made, a text gives a name or none, or it is malformed. -/
theorem configNamed_of_values {record : String} (h : ∀ fault, ¬ Yaml.LacksValue record fault) :
    (∃ name, configNamed record = .ok name) ∨
      ∃ cause, configNamed record = .error (.malformed cause) := by
  obtain ⟨name, hnames⟩ := exists_recordNames "" h
  have hname : nameFrom "" record = .ok name := hnames.nameFrom_eq
  unfold nameFrom at hname
  cases hnamed : configNamed record with
  | ok found => exact .inl ⟨found, rfl⟩
  | error e =>
      rw [hnamed] at hname
      cases e with
      | malformed cause => exact .inr ⟨cause, rfl⟩
      | _ => contradiction

/-- The failure for want of a value is none that the library names. -/
theorem message?_of_lacksValue {record : String} {fault : Yaml.Fault} (cause : Malformed)
    (h : Yaml.LacksValue record fault) : (Failure.ofFault cause fault).message? = none := by
  obtain ⟨-, hne⟩ := h
  cases fault with
  | form => contradiction
  | _ => rfl

variable {σ : Type} [Cluster σ]

section

variable {space app environment ns record : String} {r r₁ : Run σ} {list : BuildList} {b : Build}

/-- A value that cannot be made leaves the deployment config without a name. -/
theorem configNameIn_of_lacksValue {fault : Yaml.Fault}
    (hbuilds : (builds r.session.config.userNamespace (buildSelector app space)).eval r =
      (.ok list, r₁))
    (hunmixed : ¬ DateTime.Mixed (completions list.items)) (hlatest : IsLatest list.items b)
    (hrecord : b.record? ns = some record) (hlacks : Yaml.LacksValue record fault) :
    (configNameIn ns app space).eval r = (.error (.ofFault .servicesText fault), r₁) := by
  rw [eval_configNameIn hbuilds, configName_of_latest hunmixed hlatest, hrecord, Option.elim_some,
    nameFrom_of_lacksValue app hlacks]

omit [Cluster σ] in
/-- Where one request could be made, a header can be written and the client is open; another one without
parameters fails only for its address. -/
theorem ofText_fails {s : Session} {path path' : String} {params : Option Labels}
    {w : WebRequest} {e : Failure} (hw : prepared s path params .get = .ok w)
    (he : prepared s path' (some []) .get = .error e) :
    Url.Target.ofText (s.config.provider.apiBase ++ path') = .error e := by
  obtain ⟨plain, -, rfl, hwritable, hclosed, -⟩ := prepared_eq_ok_iff.mp hw
  cases htarget : Url.Target.ofText (s.config.provider.apiBase ++ path') with
  | ok plain' =>
      have hmade : prepared s path' (some []) .get =
          .ok ⟨plain'.withParams [], s.config.provider.apiToken, .get⟩ :=
        prepared_eq_ok_iff.mpr ⟨plain', htarget, rfl, hwritable, hclosed, rfl, rfl⟩
      rw [hmade] at he
      contradiction
  | error e' =>
      unfold prepared at he
      rw [htarget] at he
      cases he
      rfl

theorem Guard.exists_configAsk (g : Guard) (ns name : String) :
    ∃ path, g.configAsk ns name = ⟨path, some [], .get⟩ := by
  cases g <;> exact ⟨_, rfl⟩

end

/-! ## what comes of an operation -/

/-- The latest build has an annotation for a namespace.  Asking for the builds is the first request.  If
a value of the annotation cannot be made, then there is no name, and all operations fail for it;
otherwise there is one, and each of them goes on to the deployment config of this name, unless that is
part of no address. -/
structure Reliance (space app environment ns record : String) (r r₁ : Run σ) : Prop where
  asked : ∃ w, (buildsAsk r.session space app).request r.session = .ok w ∧ r₁ = r.afterWeb w
  lacking {fault : Yaml.Fault} : Yaml.LacksValue record fault →
    ∃ e, e.message? = none ∧ configNamed record = .error e ∧
      (configNameIn ns app space).eval r = (.error e, r₁) ∧
      ∀ g : Guard, (g.operation space app environment).perform.eval r = (.error e, r₁)
  readable : (∀ fault, ¬ Yaml.LacksValue record fault) →
    ((∃ name, configNamed record = .ok name) ∨
      ∃ cause, configNamed record = .error (.malformed cause)) ∧
    ∃ name, RecordNames app record name ∧ (configNameIn ns app space).eval r = (.ok name, r₁) ∧
      ∀ g : Guard,
        GoesOn (g.operation space app environment).perform r r₁ (g.configAsk ns name) ∧
        ∀ e, (g.configAsk ns name).request r₁.session = .error e →
          Url.Target.ofText (r.session.config.provider.apiBase ++ (g.configAsk ns name).path) =
            .error e

/-- The operations rely on the values of the annotation that names the deployment config. -/
theorem reliance_of_record {space app environment ns record : String} {r r₁ : Run σ}
    {list : BuildList} {b : Build} (hns : r.session.environments.lookup environment = some ns)
    (hbuilds : (builds r.session.config.userNamespace (buildSelector app space)).eval r =
      (.ok list, r₁))
    (hunmixed : ¬ DateTime.Mixed (completions list.items)) (hlatest : IsLatest list.items b)
    (hrecord : b.record? ns = some record) : Reliance space app environment ns record r r₁ := by
  have hasks : AsksOnly (builds r.session.config.userNamespace (buildSelector app space)) r
      (buildsAsk r.session space app) :=
    (asksOnly_getResource _ _ r).bind fun _ _ => outcome_after _ _
  obtain ⟨w, hw, rfl⟩ := hasks.of_ok hbuilds
  refine ⟨⟨w, hw, rfl⟩, ?_, ?_⟩
  case refine_1 =>
    intro fault hlacks
    have hname := configNameIn_of_lacksValue hbuilds hunmixed hlatest hrecord hlacks
    exact ⟨_, message?_of_lacksValue _ hlacks, configNamed_of_fault hlacks.1, hname,
      fun g => (g.goesOnByName space app environment).unnamed hns hname⟩
  case refine_2 =>
    intro hvalues
    obtain ⟨name, hnames⟩ := exists_recordNames app hvalues
    have hname : (configNameIn ns app space).eval r = (.ok name, r.afterWeb w) := by
      rw [eval_configNameIn hbuilds, configName_of_latest hunmixed hlatest, hrecord,
        Option.elim_some, hnames.nameFrom_eq]
    refine ⟨configNamed_of_values hvalues, name, hnames, hname, fun g => ⟨?_, fun e he => ?_⟩⟩
    · exact (g.goesOnByName space app environment).named hns hname
    · obtain ⟨path, hask⟩ := g.exists_configAsk ns name
      rw [hask] at he ⊢
      exact ofText_fails hw he

/-! ## a date that is none -/

/-- An annotation that names a deployment config, with a date that is none. -/
def misdatedRecord : String := "built: 2018-02-30\ndeploymentVersions:\n  app-dc: '1'\n"

/-- A client of a cluster whose latest build has this annotation. -/
def misdated : Run Recorded where
  session := ⟨⟨.cluster "https://api.a.b" "t" "https://api.a.b" "t", "my", none, true, 1⟩, ⟨0, some 0⟩,
    [("run", "my-run")], [], [], false⟩
  cluster := ⟨[], [("GET /oapi/v1/namespaces/my/builds",
    .answer 200 (.document (.object [("kind", .text "BuildList"), ("items", .list [.object [
      ("metadata", .object [("annotations", .object [
        (annotationFor "my-run", .text misdatedRecord)])]),
      ("status", .object [("phase", .text "Complete"),
        ("completionTimestamp", .text "2018-01-01T00:00:00Z")])]])])))]⟩

/-- No value can be made of the record, which has a date that does not exist. -/
theorem misdated_lacksValue : Yaml.LacksValue misdatedRecord .value := by
  have hfault : Outcome.error? (Yaml.document misdatedRecord) = some .value := by
    decide +kernel
  exact ⟨Outcome.eq_error_of_error? hfault, by decide⟩

/-- The latest build of the application has this record. -/
theorem misdated_builds :
    ∃ (list : BuildList) (r₁ : Run Recorded) (b : Build),
      (builds "my" (buildSelector "app" "space")).eval misdated = (.ok list, r₁) ∧
      ¬ DateTime.Mixed (completions list.items) ∧ IsLatest list.items b ∧
      b.record? "my-run" = some misdatedRecord := by
  obtain ⟨list, hbuilds⟩ := exists_eval_eq_ok (r := misdated)
    (m := builds "my" (buildSelector "app" "space")) (by decide +kernel)
  have hannotated : (((builds "my" (buildSelector "app" "space")).eval misdated).1.toOption.bind
      fun (l : BuildList) => (latestBuild l.items).toOption.join.bind (·.record? "my-run")) =
        some misdatedRecord := by
    decide +kernel
  rw [hbuilds] at hannotated
  obtain ⟨_, hlist, hannotated⟩ := Option.bind_eq_some_iff.mp hannotated
  obtain rfl := Option.some.inj hlist
  obtain ⟨b, hb, hrecord⟩ := Option.bind_eq_some_iff.mp hannotated
  have hfound : latestBuild list.items = .ok (some b) :=
    Outcome.eq_ok_of_toOption (Option.join_eq_some_iff.mp hb)
  obtain ⟨hunmixed, hlatest⟩ := isLatest_of_ok hfound
  exact ⟨list, _, b, hbuilds, hunmixed, hlatest, hrecord⟩

/-- So every operation on the application in this environment fails for it. -/
theorem misdated_reliance :
    ∃ (list : BuildList) (r₁ : Run Recorded) (b : Build),
      misdated.session.environments.lookup "run" = some "my-run" ∧
      (builds "my" (buildSelector "app" "space")).eval misdated = (.ok list, r₁) ∧
      ¬ DateTime.Mixed (completions list.items) ∧ IsLatest list.items b ∧
      b.record? "my-run" = some misdatedRecord ∧
      Reliance "space" "app" "run" "my-run" misdatedRecord misdated r₁ := by
  obtain ⟨list, r₁, b, hbuilds, hunmixed, hlatest, hrecord⟩ := misdated_builds
  exact ⟨list, r₁, b, rfl, hbuilds, hunmixed, hlatest, hrecord,
    reliance_of_record rfl hbuilds hunmixed hlatest hrecord⟩

/-- The date keeps all operations from the deployment config that the annotation names: they fail after
the request for the builds, and not for a cause that the library names. -/
theorem misdated_fails :
    configNamed misdatedRecord = .error (.scalar .value) ∧
      (Failure.scalar .value).message? = none ∧
      ((configNameIn "my-run" "app" "space").eval misdated).1 = .error (.scalar .value) ∧
      ∀ g : Guard, ((g.operation "space" "app" "run").perform.eval misdated).1 =
          .error (.scalar .value) ∧
        ((g.operation "space" "app" "run").perform.eval misdated).2.sent.filterMap addressed? =
          [("GET", "/oapi/v1/namespaces/my/builds")] := by
  obtain ⟨list, r₁, b, hbuilds, hunmixed, hlatest, hrecord⟩ := misdated_builds
  have hnamed := configNamed_of_fault misdated_lacksValue.1
  have hname : (configNameIn "my-run" "app" "space").eval misdated =
      (.error (.ofFault .servicesText .value), r₁) :=
    configNameIn_of_lacksValue hbuilds hunmixed hlatest hrecord misdated_lacksValue
  have hcause : Failure.ofFault .servicesText .value = .scalar .value := rfl
  rw [hcause] at hnamed hname
  have hsent : (((builds "my" (buildSelector "app" "space")).eval misdated).2.sent.filterMap
      addressed?) = [("GET", "/oapi/v1/namespaces/my/builds")] := by
    decide +kernel
  rw [hbuilds] at hsent
  refine ⟨hnamed, rfl, by rw [hname], fun g => ?_⟩
  have hended := (g.goesOnByName "space" "app" "run").unnamed (r := misdated) rfl hname
  rw [hended]
  exact ⟨rfl, hsent⟩

end Rollout
