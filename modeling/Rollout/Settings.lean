import Rollout.Provider

/-!
# Rollout.Settings

What a process is told by its environment, and what a client is opened with.

* `Settings.ofEnvironment` — the variables, with the API's URL and token where the cluster's are
  missing;
* `ClientConfig.ofSettings`, `ClientConfig.read` — the configuration of a client;
* `LogLevel.ofName?` — the levels of the log, by their names in any case.
-/

namespace Rollout

open Document

/-- What a process is told by its environment. -/
structure Settings where
  apiUrl : String
  apiToken : String
  clusterUrl : Option String
  clusterToken : Option String
  userNamespace : String
  timeout : Binary64
  verifySsl : Bool
  workers : Int
  logLevel : String
  deriving DecidableEq, Repr

/-- Thirty seconds. -/
def usualTimeout : Binary64 := .ofQuotient false 30 1

/-- How many environments are asked at a time. -/
def usualWorkers : Int := 4

namespace Settings

/-- The settings of an environment. -/
def ofEnvironment (env : Labels) : Outcome Settings :=
  let given (name usual : String) : String := (env.lookup name).getD usual
  let read {α : Type} (name : String) (reading : Document → Option α) (usual : α) : Outcome α :=
    match env.lookup name with
    | none => .ok usual
    | some s =>
      match reading (.text s) with
      | some a => .ok a
      | none => .error .invalid
  do
    let apiUrl := given "KUBE_API_URL" ""
    let apiToken := given "KUBE_API_TOKEN" ""
    return {
      apiUrl := apiUrl
      apiToken := apiToken
      clusterUrl := (nonEmpty? (env.lookup "KUBE_CLUSTER_URL")).or (nonEmpty? (some apiUrl))
      clusterToken := (nonEmpty? (env.lookup "KUBE_CLUSTER_TOKEN")).or (nonEmpty? (some apiToken))
      userNamespace := given "KUBE_USER_NAMESPACE" ""
      timeout := ← read "KUBE_REQUEST_TIMEOUT" asReal? usualTimeout
      verifySsl := ← read "KUBE_VERIFY_SSL" asFlag? true
      workers := ← read "KUBE_ENV_FANOUT_WORKERS" asWhole? usualWorkers
      logLevel := given "LOG_LEVEL" "INFO" }

/-- The settings under the names of their variables. -/
def view (s : Settings) : Document := .object [("KUBE_API_URL", .text s.apiUrl),
  ("KUBE_API_TOKEN", .text s.apiToken), ("KUBE_CLUSTER_URL", ofText? s.clusterUrl),
  ("KUBE_CLUSTER_TOKEN", ofText? s.clusterToken), ("KUBE_USER_NAMESPACE", .text s.userNamespace),
  ("KUBE_REQUEST_TIMEOUT", .float s.timeout), ("KUBE_VERIFY_SSL", .bool s.verifySsl),
  ("KUBE_ENV_FANOUT_WORKERS", .int s.workers), ("LOG_LEVEL", .text s.logLevel)]

end Settings

/-- What a client is opened with. -/
structure ClientConfig where
  provider : Provider
  userNamespace : String
  timeout : Option Binary64 := some usualTimeout
  verifySsl : Bool := true
  workers : Int := usualWorkers
  deriving DecidableEq, Repr

namespace ClientConfig

/-- The configuration that settings describe. -/
def ofSettings (s : Settings) : Outcome ClientConfig := do
  let provider ← Provider.ofCluster s.apiUrl s.apiToken s.clusterUrl s.clusterToken
  return ⟨provider, s.userNamespace, some s.timeout, s.verifySsl, s.workers⟩

/-- The configuration that a record holds.  A timeout of null is none. -/
def read (provider : Provider) (d : Document) : Outcome ClientConfig :=
  let given {α : Type} (name : String) (reading : Document → Option α) (usual : α) : Option α :=
    match d.get? name with
    | none => some usual
    | some v => reading v
  let config : Option ClientConfig := do
    return {
      provider := provider
      userNamespace := ← (d.get? "user_namespace").bind asText?
      timeout := ← given "timeout" (fun v => if v.isNull then some none else v.asReal?.map some)
        (some usualTimeout)
      verifySsl := ← given "verify_ssl" asFlag? true
      workers := ← given "env_fanout_workers" asWhole? usualWorkers }
  match config with
  | some c => .ok c
  | none => .error .invalid

end ClientConfig

/-! ## levels of the log -/

/-- The levels, in the order of their weight. -/
inductive LogLevel where
  | unset
  | debug
  | info
  | warning
  | error
  | critical
  deriving DecidableEq, Repr

namespace LogLevel

/-- The weight of a level. -/
def weight : LogLevel → Int
  | unset => 0
  | debug => 10
  | info => 20
  | warning => 30
  | error => 40
  | critical => 50

/-- The names of the levels, in upper case. -/
def names : List (String × LogLevel) := [("NOTSET", unset), ("DEBUG", debug), ("INFO", info),
  ("WARN", warning), ("WARNING", warning), ("ERROR", error), ("FATAL", critical),
  ("CRITICAL", critical)]

/-- The capital of a letter, as far as it is one of the names' letters.  Besides the small ones of
ASCII, the dotless i and the long s have such a capital. -/
def capital (c : Char) : Char :=
  if c = '\u0131' then 'I' else if c = '\u017f' then 'S' else c.toUpper

/-- The level of a name. -/
def ofName? (name : String) : Option LogLevel :=
  names.lookup (String.ofList (name.toList.map capital))

/-- The level of a name that is given, or else of the setting. -/
def chosen (given : Option String) (setting : String) : Outcome LogLevel :=
  match ofName? ((nonEmpty? given).getD setting) with
  | some level => .ok level
  | none => .error .unknownLevel

end LogLevel

end Rollout
