import Rollout.Document.Shown
import Rollout.Number.Decimal
import Rollout.Yaml.Cursor

/-!
# Rollout.Failure

Why an operation on the cluster has no answer.

* `Failure` — the causes: those that the library names, each with a message, and those that a value
  brings along that has no answer of its own;
* `Failure.message` — the wording, in one place.
-/

namespace Rollout

/-- What is wrong with a document that the cluster returned. -/
inductive Malformed where
  /-- There is no document. -/
  | empty (what : String)
  /-- The document does not have the shape of `what`. -/
  | shape (what : String)
  | notYaml (url : String)
  | notMapping (url kind : String)
  | notJson (url : String)
  | notObject (url : String)
  | quantity (quantity : Document)
  | servicesText
  | servicesNotMapping
  | servicesNoText
  | noSpace (config : String)
  | noUid (config : String)
  | noVersion (config : String)
  | noBuildName
  | noControllerUid (config namespace_ : String)
  | noTransitionTime
  | noServiceName (route : Option String)
  | noIngressHost (route : Option String)
  | noTemplate (namespace_ : String)
  | buckets
  deriving Repr

/-- What is wrong with the configuration. -/
inductive Misconfigured where
  | urlMissing
  | urlInvalid (url : String)
  /-- The host of a cluster does not begin with `api`. -/
  | notApi (host : String)
  | tenantWithoutUrl (tenant : String)
  | notInTenant (namespace_ tenant : String)
  | provider (namespace_ : String)
  | environments
  | noNamespace (environment : String)
  | unknownEnvironment (environment : String)
  deriving Repr

/-- Why there is no answer. -/
inductive Failure where
  /-- A resource that has to exist is absent. -/
  | notFound (what : String)
  | malformed (cause : Malformed)
  /-- The deployment config belongs to another space. -/
  | otherSpace (config actual expected : String)
  | misconfigured (cause : Misconfigured)
  /-- The request failed; `detail` is the text of a broken connection. -/
  | transport (what : String) (detail : Option String) (url : String) (status : Option Int)
  /-- A date-time with an offset met one without. -/
  | incomparable
  /-- A number too large for floating point, or a moment past the end of the calendar. -/
  | tooLarge
  /-- A moment before the calendar. -/
  | tooEarly
  /-- A document that is nested too deep. -/
  | tooDeep
  /-- A scalar that has no value. -/
  | scalar (fault : Yaml.Fault)
  /-- A value of the configuration or of an argument has the wrong shape. -/
  | invalid
  /-- No level of the log has the name. -/
  | unknownLevel
  /-- A request to an address that is none. -/
  | badAddress
  /-- A request with a header, an address or parameters that cannot be written. -/
  | badHeader
  /-- A whole number with too many digits to be written. -/
  | tooLong
  /-- Arithmetic that has no result. -/
  | trapped (trap : Decimal.Trap)
  /-- A request after closing. -/
  | closed
  deriving Repr

/-- A name that may be missing, in a message. -/
def shownName (name : Option String) : String := name.getD "None"

/-- What the annotation is called that names deployment configs. -/
def servicesAnnotation : String := "environment.services.fabric8.io"

/-- The key of that annotation's deployment configs. -/
def servicesKey : String := "deploymentVersions"

/-- What provides the config map of environments. -/
def environmentsProvider : String := "fabric8"

/-- What is malformed, in words. -/
def Malformed.message : Malformed → String
  | empty what => "empty response for " ++ what
  | shape what => "malformed " ++ what
  | notYaml url => "invalid YAML from " ++ url
  | notMapping url kind => "expected a mapping from " ++ url ++ ", got " ++ kind
  | notJson url => "invalid JSON from " ++ url
  | notObject url => "expected a JSON object from " ++ url
  | quantity q => "invalid resource quantity " ++ q.shown
  | servicesText => "failed to parse " ++ servicesAnnotation ++ " YAML"
  | servicesNotMapping => servicesAnnotation ++ " is not a YAML mapping"
  | servicesNoText => servicesKey ++ " does not contain a string"
  | noSpace config => "space label missing from deployment config " ++ config
  | noUid config => "malformed metadata in deployment config " ++ config
  | noVersion config => "version missing from deployment config " ++ config
  | noBuildName => "malformed metadata in build config; 'name' is missing or invalid"
  | noControllerUid config ns =>
    "replication controller of " ++ config ++ " in " ++ ns ++ " has no UID"
  | noTransitionTime => "missing last transition time from ingress condition"
  | noServiceName route => "service name missing or invalid for route " ++ shownName route
  | noIngressHost route => "hostname missing from ingress in route " ++ shownName route
  | noTemplate ns => "no pod template for current deployment in namespace " ++ ns
  | buckets => "malformed metrics buckets"

/-- What is misconfigured, in words. -/
def Misconfigured.message : Misconfigured → String
  | urlMissing => "cluster API URL is required"
  | urlInvalid url => "invalid cluster URL " ++ Text.quoted url
  | notApi host => "cluster URL does not begin with \"api\": " ++ host
  | tenantWithoutUrl tenant => "no cluster API URL for tenant " ++ Text.quoted tenant
  | notInTenant ns tenant =>
    "namespace " ++ Text.quoted ns ++ " is not in tenant " ++ Text.quoted tenant
  | provider ns =>
    "unknown or missing provider " ++ environmentsProvider ++
      " for environments config map in namespace " ++ ns
  | environments => "malformed environments config map"
  | noNamespace environment => "no namespace for environment " ++ environment ++ " in config map"
  | unknownEnvironment environment => "unknown environment: " ++ environment

/-- The message of a failure, for the causes that have one. -/
def Failure.message? : Failure → Option String
  | notFound what => some (what ++ " not found")
  | malformed cause => some cause.message
  | otherSpace config actual expected =>
    some ("deployment config " ++ config ++ " is part of space " ++ actual ++
      ", expected space " ++ expected)
  | misconfigured cause => some cause.message
  | transport what detail url status =>
    some (what ++ (detail.map fun d => " (" ++ d ++ ")").getD "" ++ ": " ++ url ++
      (status.map fun n => " returned status code " ++ toString n).getD "")
  | _ => none

/-- Why a YAML text has no document, where `cause` says that it is malformed. -/
def Failure.ofFault (cause : Malformed) : Yaml.Fault → Failure
  | .form => malformed cause
  | .tooDeep => tooDeep
  | fault => scalar fault

/-- An answer, or why there is none. -/
abbrev Outcome := Except Failure

end Rollout
