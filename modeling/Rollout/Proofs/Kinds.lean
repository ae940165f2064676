import Rollout.Proofs.Contents
import Rollout.Resource.Listing

/-!
# Rollout.Proofs.Kinds

The kinds of records that are read from documents, and what they read of a document.

* `Kind`, `Kind.Record` — the kinds, and the type of their records;
* `Shape`, `Kind.members` — the members of a kind, under their names, and what each is read as;
* `Shape.Read`, `MembersRead` — a reading that depends on some members of a document, and that gives
  nothing where one of these cannot be read;
* `Kind.recordRead` — every kind is read by its members.
-/

namespace Rollout

open Document

/-! ## kinds -/

/-- The kinds of records, from the parts of resources to lists of them. -/
inductive Kind where
  | ownerReference
  | metadata
  | configMap
  | podTemplate
  | controllerSpec
  | controllerStatus
  | replicationController
  | controllerList
  | resourceNeeds
  | container
  | podSpec
  | waitingState
  | runningState
  | terminatedState
  | containerState
  | containerStatus
  | podStatus
  | pod
  | podList
  | serviceSpec
  | service
  | serviceList
  | quotaStatus
  | resourceQuota
  | buildConfig
  | buildConfigList
  | buildStatus
  | build
  | buildList
  | deploymentConfig
  | scaleSpec
  | scale
  | backend
  | tls
  | routeSpec
  | ingressCondition
  | ingress
  | routeStatus
  | route
  | routeList
  | policyRule
  | reviewStatus
  | rulesReview
  deriving DecidableEq, Repr

namespace Kind

/-- The type of the records of a kind. -/
abbrev Record : Kind → Type
  | ownerReference => OwnerReference
  | metadata => Metadata
  | configMap => ConfigMap
  | podTemplate => PodTemplate
  | controllerSpec => ControllerSpec
  | controllerStatus => ControllerStatus
  | replicationController => ReplicationController
  | controllerList => ControllerList
  | resourceNeeds => ResourceNeeds
  | container => Container
  | podSpec => PodSpec
  | waitingState => WaitingState
  | runningState => RunningState
  | terminatedState => TerminatedState
  | containerState => ContainerState
  | containerStatus => ContainerStatus
  | podStatus => PodStatus
  | pod => Pod
  | podList => PodList
  | serviceSpec => ServiceSpec
  | service => Service
  | serviceList => ServiceList
  | quotaStatus => QuotaStatus
  | resourceQuota => ResourceQuota
  | buildConfig => BuildConfig
  | buildConfigList => BuildConfigList
  | buildStatus => BuildStatus
  | build => Build
  | buildList => BuildList
  | deploymentConfig => DeploymentConfig
  | scaleSpec => ScaleSpec
  | scale => Scale
  | backend => Backend
  | tls => Tls
  | routeSpec => RouteSpec
  | ingressCondition => IngressCondition
  | ingress => Ingress
  | routeStatus => RouteStatus
  | route => Route
  | routeList => RouteList
  | policyRule => PolicyRule
  | reviewStatus => ReviewStatus
  | rulesReview => RulesReview

instance instResourceRecord (k : Kind) : Resource k.Record := by
  cases k <;> exact inferInstance

/-- The record of a kind that a document is. -/
def read? (k : Kind) (d : Document) : Option k.Record := Resource.read? d

end Kind

/-! ## members -/

/-- What a member of a record is read as. -/
inductive Shape where
  /-- A text, a number, a truth value or a moment. -/
  | scalar
  /-- Texts under names. -/
  | labels
  | texts
  /-- Documents in a list, which are kept as they are. -/
  | raws
  | record (k : Kind)
  | records (k : Kind)
  deriving DecidableEq, Repr

namespace Kind

/-- The members of the records of a kind.  The name of a member in the API comes first, and then its plain
name where that is another one. -/
def members : Kind → List (List String × Shape)
  | ownerReference =>
    [(["uid"], .scalar), (["kind"], .scalar), (["name"], .scalar), (["controller"], .scalar)]
  | metadata =>
    [(["name"], .scalar), (["namespace"], .scalar), (["uid"], .scalar), (["labels"], .labels),
      (["annotations"], .labels), (["ownerReferences", "owner_references"], .records ownerReference),
      (["creationTimestamp", "creation_timestamp"], .scalar),
      (["deletionTimestamp", "deletion_timestamp"], .scalar)]
  | configMap => [(["metadata"], .record metadata), (["data"], .labels)]
  | podTemplate => [(["metadata"], .record metadata)]
  | controllerSpec =>
    [(["replicas"], .scalar), (["selector"], .labels), (["template"], .record podTemplate)]
  | controllerStatus => [(["replicas"], .scalar)]
  | replicationController =>
    [(["metadata"], .record metadata), (["spec"], .record controllerSpec),
      (["status"], .record controllerStatus)]
  | controllerList => [(["items"], .records replicationController)]
  | resourceNeeds => [(["limits"], .labels), (["requests"], .labels)]
  | container => [(["name"], .scalar), (["image"], .scalar), (["resources"], .record resourceNeeds)]
  | podSpec => [(["containers"], .records container)]
  | waitingState => [(["reason"], .scalar)]
  | runningState => [(["startedAt", "started_at"], .scalar)]
  | terminatedState => [(["exitCode", "exit_code"], .scalar), (["reason"], .scalar)]
  | containerState =>
    [(["waiting"], .record waitingState), (["running"], .record runningState),
      (["terminated"], .record terminatedState)]
  | containerStatus =>
    [(["name"], .scalar), (["ready"], .scalar), (["state"], .record containerState)]
  | podStatus =>
    [(["phase"], .scalar), (["containerStatuses", "container_statuses"], .records containerStatus)]
  | pod =>
    [(["metadata"], .record metadata), (["spec"], .record podSpec), (["status"], .record podStatus)]
  | podList => [(["items"], .records pod)]
  | serviceSpec => [(["selector"], .labels)]
  | service => [(["metadata"], .record metadata), (["spec"], .record serviceSpec)]
  | serviceList => [(["items"], .records service)]
  | quotaStatus => [(["hard"], .labels), (["used"], .labels)]
  | resourceQuota => [(["metadata"], .record metadata), (["status"], .record quotaStatus)]
  | buildConfig => [(["metadata"], .record metadata)]
  | buildConfigList => [(["kind"], .scalar), (["items"], .records buildConfig)]
  | buildStatus =>
    [(["phase"], .scalar), (["completionTimestamp", "completion_timestamp"], .scalar)]
  | build => [(["metadata"], .record metadata), (["status"], .record buildStatus)]
  | buildList => [(["kind"], .scalar), (["items"], .records build)]
  | deploymentConfig => [(["kind"], .scalar), (["metadata"], .record metadata)]
  | scaleSpec => [(["replicas"], .scalar)]
  | scale => [(["spec"], .record scaleSpec)]
  | backend => [(["kind"], .scalar), (["name"], .scalar)]
  | tls => [(["termination"], .scalar)]
  | routeSpec =>
    [(["host"], .scalar), (["path"], .scalar), (["to"], .record backend),
      (["alternateBackends", "alternate_backends"], .records backend), (["tls"], .record tls)]
  | ingressCondition =>
    [(["type"], .scalar), (["status"], .scalar),
      (["lastTransitionTime", "last_transition_time"], .scalar)]
  | ingress => [(["host"], .scalar), (["conditions"], .records ingressCondition)]
  | routeStatus => [(["ingress"], .records ingress)]
  | route =>
    [(["metadata"], .record metadata), (["spec"], .record routeSpec),
      (["status"], .record routeStatus)]
  | routeList => [(["kind"], .scalar), (["items"], .records route)]
  | policyRule =>
    [(["verbs"], .texts), (["apiGroups", "api_groups"], .texts), (["resources"], .texts),
      (["resourceNames", "resource_names"], .texts),
      (["nonResourceURLs", "non_resource_urls"], .texts)]
  | reviewStatus => [(["rules"], .raws)]
  | rulesReview => [(["status"], .record reviewStatus)]

/-- No two members of a kind share a name. -/
theorem pairwise_members (k : Kind) :
    k.members.Pairwise fun m other => ∀ name ∈ m.1, name ∉ other.1 := by
  cases k <;> decide

end Kind

/-! ## readings -/

namespace Document

variable {α : Type} (d : Document) (names : List String) (read : Document → Option α)

/-- An optional field is read where it is there. -/
theorem optional_eq_elim :
    d.optional names read = (d.field? names).elim (some none) fun v => (read v).map some := by
  unfold optional
  cases d.field? names <;> rfl

/-- A field with a default is read where it is there, and has the default elsewhere. -/
theorem defaulted_eq_elim (default : α) :
    d.defaulted names read default = (d.field? names).elim (some default) read := by
  unfold defaulted
  cases d.field? names <;> rfl

end Document

namespace Shape

/-- Two documents have the same reading. -/
def Alike : Shape → Document → Document → Prop
  | record k, d, d' => k.read? d = k.read? d'
  | records k, d, d' => d.asList? k.read? = d'.asList? k.read?
  | _, d, d' => d = d'

/-- A document has no reading. -/
def Refused : Shape → Document → Prop
  | labels, d => d.asLabels? = none
  | texts, d => d.asList? strictText? = none
  | record k, d => k.read? d = none
  | records k, d => d.asList? k.read? = none
  | _, _ => False

@[refl] theorem Alike.refl (s : Shape) (d : Document) : s.Alike d d := by
  cases s <;> exact rfl

/-- A reading of documents takes them for a shape: what reads alike has one value, and what has no
reading has none. -/
structure Read {α : Type} (s : Shape) (read : Document → Option α) : Prop where
  alike {d d' : Document} : s.Alike d d' → read d = read d'
  refused {d : Document} : s.Refused d → read d = none

namespace Read

variable {α : Type}

/-- Every reader of a scalar is one of the shape. -/
theorem scalar {read : Document → Option α} : Read .scalar read := ⟨congrArg read, False.elim⟩

theorem labels : Read .labels asLabels? := ⟨congrArg _, id⟩

theorem texts : Read .texts (asList? strictText?) := ⟨congrArg _, id⟩

theorem raws : Read .raws (asList? (some : Document → Option Document)) := ⟨congrArg _, False.elim⟩

/-- A record of a kind is read by its resource. -/
theorem record (k : Kind) : Read (.record k) (Resource.read? : Document → Option k.Record) := ⟨id, id⟩

/-- A list of records is read item by item. -/
theorem records (k : Kind) :
    Read (.records k) (Resource.list? : Document → Option (List k.Record)) := ⟨id, id⟩

end Read

end Shape

/-- Two documents have the same in the place of a member: nothing, or what has the same reading. -/
def SameMember (m : List String × Shape) (d d' : Document) : Prop :=
  Option.Rel m.2.Alike (d.field? m.1) (d'.field? m.1)

/-- What a document has in the place of a member has no reading. -/
def NoMember (m : List String × Shape) (d : Document) : Prop :=
  ∃ v, d.field? m.1 = some v ∧ m.2.Refused v

/-- A reading depends on some members of a document, and needs all of them to be readable. -/
structure MembersRead {α : Type} (members : List (List String × Shape))
    (read : Document → Option α) : Prop where
  same {d d' : Document} : (∀ m ∈ members, SameMember m d d') → read d = read d'
  none {d : Document} : (∃ m ∈ members, NoMember m d) → read d = none

namespace MembersRead

variable {α β : Type} {members : List (List String × Shape)} {names : List String} {s : Shape}
  {read : Document → Option α} {rest : α → Document → Option β}

theorem nil {a : α} : MembersRead [] fun _ => some a := ⟨fun _ => rfl, by simp⟩

/-- A reading of one member is followed by one of others. -/
theorem cons {m : List String × Shape} (h : MembersRead [m] read)
    (hrest : ∀ {a}, MembersRead members (rest a)) :
    MembersRead (m :: members) fun d => read d >>= fun a => rest a d := by
  constructor
  case same =>
    intro d d' hsame
    obtain ⟨hm, hmembers⟩ := List.forall_mem_cons.mp hsame
    have hread : read d = read d' := h.same (by simpa using hm)
    rw [hread]
    exact congrArg _ (funext fun _ => hrest.same hmembers)
  case none =>
    intro d hnone
    obtain ⟨m', hm', hrefused⟩ := hnone
    rcases List.mem_cons.mp hm' with rfl | hm'
    · rw [h.none ⟨_, .head _, hrefused⟩]
      rfl
    · cases hread : read d with
      | none => rfl
      | some a => exact hrest.none ⟨_, hm', hrefused⟩

/-- What is read in the place of one member depends on what stands there. -/
theorem single {f : Option Document → Option α}
    (halike : ∀ {v v'}, s.Alike v v' → f (some v) = f (some v'))
    (hrefused : ∀ {v}, s.Refused v → f (some v) = Option.none) :
    MembersRead [(names, s)] fun d => f (d.field? names) := by
  constructor
  case same =>
    intro d d' hsame
    have hm : Option.Rel s.Alike (d.field? names) (d'.field? names) := hsame _ (.head _)
    generalize d.field? names = v?, d'.field? names = v'? at hm
    cases hm with
    | none => rfl
    | some hv => exact halike hv
  case none =>
    intro d hnone
    obtain ⟨m, hm, v, hv, hv'⟩ := hnone
    obtain rfl := List.mem_singleton.mp hm
    rw [hv]
    exact hrefused hv'

/-- Reading a field that is required adds a member. -/
theorem required (h : s.Read read) (hrest : ∀ {a}, MembersRead members (rest a)) :
    MembersRead ((names, s) :: members) fun d => d.required names read >>= fun a => rest a d :=
  cons (single (f := (·.bind read)) h.alike h.refused) hrest

/-- Reading one that is optional adds a member, too. -/
theorem optional {rest : Option α → Document → Option β} (h : s.Read read)
    (hrest : ∀ {a}, MembersRead members (rest a)) :
    MembersRead ((names, s) :: members) fun d => d.optional names read >>= fun a => rest a d := by
  simp only [optional_eq_elim]
  exact cons (single (f := (·.elim (some Option.none) fun v => (read v).map some))
    (fun hv => congrArg (Option.map some) (h.alike hv))
    fun hv => congrArg (Option.map some) (h.refused hv)) hrest

/-- And so does reading one with a default. -/
theorem defaulted {default : α} (h : s.Read read) (hrest : ∀ {a}, MembersRead members (rest a)) :
    MembersRead ((names, s) :: members) fun d =>
      d.defaulted names read default >>= fun a => rest a d := by
  simp only [defaulted_eq_elim]
  exact cons (single (f := (·.elim (some default) read)) h.alike h.refused) hrest

end MembersRead

/-! ## records -/

/-- A reading of records depends on the members of maps, needs all of them to be readable, and gives
nothing for other documents. -/
structure RecordRead (k : Kind) (read : Document → Option k.Record) : Prop where
  same {d d' : Document} : d.isMap = d'.isMap → (∀ m ∈ k.members, SameMember m d d') →
    read d = read d'
  none {d : Document} : (∃ m ∈ k.members, NoMember m d) → read d = none
  map {d : Document} : d.isMap = false → read d = Option.none

/-- A kind is read by its members. -/
theorem RecordRead.of {k : Kind} {read : Document → Option k.Record}
    (h : MembersRead k.members read) : RecordRead k fun d => d.record (read d) := by
  constructor
  case same =>
    intro d d' hmap hsame
    rw [Document.record, Document.record, hmap, h.same hsame]
  case none =>
    intro d hnone
    rw [Document.record, h.none hnone, ite_self]
  case map =>
    intro d hmap
    rw [Document.record, hmap, if_neg Bool.false_ne_true]

/-- Every kind is read by its members. -/
theorem Kind.recordRead (k : Kind) : RecordRead k k.read? := by
  cases k with
  | ownerReference =>
      exact .of <| .required .scalar <| .optional .scalar <| .optional .scalar <|
        .optional .scalar <| .nil
  | metadata =>
      exact .of <| .optional .scalar <| .optional .scalar <| .optional .scalar <|
        .defaulted .labels <| .defaulted .labels <| .defaulted (.records .ownerReference) <|
        .optional .scalar <| .optional .scalar <| .nil
  | configMap => exact .of <| .required (.record .metadata) <| .defaulted .labels <| .nil
  | podTemplate => exact .of <| .defaulted (.record .metadata) <| .nil
  | controllerSpec =>
      exact .of <| .optional .scalar <| .defaulted .labels <| .optional (.record .podTemplate) <|
        .nil
  | controllerStatus => exact .of <| .defaulted .scalar <| .nil
  | replicationController =>
      exact .of <| .required (.record .metadata) <| .defaulted (.record .controllerSpec) <|
        .defaulted (.record .controllerStatus) <| .nil
  | controllerList => exact .of <| .defaulted (.records .replicationController) <| .nil
  | resourceNeeds => exact .of <| .defaulted .labels <| .defaulted .labels <| .nil
  | container =>
      exact .of <| .required .scalar <| .optional .scalar <| .defaulted (.record .resourceNeeds) <|
        .nil
  | podSpec => exact .of <| .defaulted (.records .container) <| .nil
  | waitingState => exact .of <| .optional .scalar <| .nil
  | runningState => exact .of <| .optional .scalar <| .nil
  | terminatedState => exact .of <| .defaulted .scalar <| .optional .scalar <| .nil
  | containerState =>
      exact .of <| .optional (.record .waitingState) <| .optional (.record .runningState) <|
        .optional (.record .terminatedState) <| .nil
  | containerStatus =>
      exact .of <| .optional .scalar <| .defaulted .scalar <|
        .defaulted (.record .containerState) <| .nil
  | podStatus => exact .of <| .optional .scalar <| .defaulted (.records .containerStatus) <| .nil
  | pod =>
      exact .of <| .required (.record .metadata) <| .defaulted (.record .podSpec) <|
        .defaulted (.record .podStatus) <| .nil
  | podList => exact .of <| .defaulted (.records .pod) <| .nil
  | serviceSpec => exact .of <| .defaulted .labels <| .nil
  | service =>
      exact .of <| .required (.record .metadata) <| .defaulted (.record .serviceSpec) <| .nil
  | serviceList => exact .of <| .defaulted (.records .service) <| .nil
  | quotaStatus => exact .of <| .defaulted .labels <| .defaulted .labels <| .nil
  | resourceQuota =>
      exact .of <| .required (.record .metadata) <| .defaulted (.record .quotaStatus) <| .nil
  | buildConfig => exact .of <| .required (.record .metadata) <| .nil
  | buildConfigList => exact .of <| .required .scalar <| .defaulted (.records .buildConfig) <| .nil
  | buildStatus => exact .of <| .optional .scalar <| .optional .scalar <| .nil
  | build => exact .of <| .required (.record .metadata) <| .required (.record .buildStatus) <| .nil
  | buildList => exact .of <| .required .scalar <| .defaulted (.records .build) <| .nil
  | deploymentConfig => exact .of <| .required .scalar <| .required (.record .metadata) <| .nil
  | scaleSpec => exact .of <| .optional .scalar <| .nil
  | scale => exact .of <| .required (.record .scaleSpec) <| .nil
  | backend => exact .of <| .optional .scalar <| .optional .scalar <| .nil
  | tls => exact .of <| .optional .scalar <| .nil
  | routeSpec =>
      exact .of <| .optional .scalar <| .optional .scalar <| .required (.record .backend) <|
        .defaulted (.records .backend) <| .optional (.record .tls) <| .nil
  | ingressCondition =>
      exact .of <| .optional .scalar <| .optional .scalar <| .optional .scalar <| .nil
  | ingress => exact .of <| .optional .scalar <| .defaulted (.records .ingressCondition) <| .nil
  | routeStatus => exact .of <| .defaulted (.records .ingress) <| .nil
  | route =>
      exact .of <| .defaulted (.record .metadata) <| .required (.record .routeSpec) <|
        .defaulted (.record .routeStatus) <| .nil
  | routeList => exact .of <| .required .scalar <| .defaulted (.records .route) <| .nil
  | policyRule =>
      exact .of <| .required .texts <| .defaulted .texts <| .defaulted .texts <|
        .defaulted .texts <| .defaulted .texts <| .nil
  | reviewStatus => exact .of <| .required .raws <| .nil
  | rulesReview => exact .of <| .required (.record .reviewStatus) <| .nil

end Rollout
