import Rollout.Document.Written
import Rollout.Metrics
import Rollout.Url.Target

/-!
# Rollout.Cluster.Request

What a client asks a cluster, and what a cluster answers.

Core resources are asked for by name; everything else is a request to a URL.  A cluster is any state
that answers both, and that may change by being asked.
-/

namespace Rollout

/-! ## core resources -/

/-- A question about core resources of a namespace. -/
inductive CoreQuery where
  | configMap (namespace_ name : String)
  | resourceQuota (namespace_ name : String)
  | controllers (namespace_ : String)
  | pods (namespace_ : String) (selector : Option String)
  | services (namespace_ : String)
  deriving DecidableEq, Repr

namespace CoreQuery

/-- The word for what is asked for. -/
def word : CoreQuery → String
  | configMap _ _ => "configmap"
  | resourceQuota _ _ => "resourcequota"
  | controllers _ => "replicationcontrollers"
  | pods _ _ => "pods"
  | services _ => "services"

/-- Where it is. -/
def place : CoreQuery → String
  | configMap ns name | resourceQuota ns name => ns ++ "/" ++ name
  | pods ns (some selector) => ns ++ "?" ++ selector
  | controllers ns | pods ns none | services ns => ns

/-- What is asked for, in a message. -/
def description : CoreQuery → String
  | configMap ns name => "config map " ++ name ++ " in " ++ ns
  | resourceQuota ns name => "resource quota " ++ name ++ " in " ++ ns
  | controllers ns => "replication controllers in " ++ ns
  | pods ns _ => "pods in " ++ ns
  | services ns => "services in " ++ ns

end CoreQuery

/-- The answer to a question about core resources: a document, a status that is an error, or a
broken connection. -/
inductive CoreReply where
  | document (d : Document)
  | status (n : Int)
  | broken (detail : String)
  deriving Repr

/-! ## requests to a URL -/

/-- What a request to a URL does. -/
inductive Call where
  | get
  | put (body : Document)
  | post (body : Document)
  /-- A query of usage, which is sent to the metrics service. -/
  | metrics (tenant : String) (signal : Signal)
  deriving Repr

/-- The method of a request. -/
def Call.method : Call → String
  | get | metrics _ _ => "GET"
  | put _ => "PUT"
  | post _ => "POST"

/-- Why the document of a request cannot be written, if it cannot.  Those that are posted are made up
here, and always can be. -/
def Call.fault? : Call → Option Failure
  | put body => body.fault?
  | get | post _ | metrics _ _ => none

/-- A request to a URL. -/
structure WebRequest where
  target : Url.Target
  token : String
  call : Call
  deriving Repr

namespace WebRequest

/-- The type of documents that are exchanged, apart from rules and usage. -/
def yamlType : String := "application/yaml"

/-- The type of rules and usage. -/
def jsonType : String := "application/json"

/-- The headers that matter to a cluster.  A user in the URL authorizes a request in the place of the
token. -/
def headers (r : WebRequest) : Labels :=
  match r.call with
  | .get => [("accept", yamlType), authorization]
  | .put _ => [("accept", yamlType), authorization, ("content-type", yamlType)]
  | .post _ => [("accept", jsonType), authorization, ("content-type", jsonType)]
  | .metrics tenant _ => [("accept", jsonType), authorization, ("hawkular-tenant", tenant)]
where
  authorization : String × String :=
    ("authorization", r.target.credentials.getD ("Bearer " ++ r.token))

/-- Headers are written in ASCII: whether the token and the tenant can be. -/
def isWritable (r : WebRequest) : Bool :=
  isAscii r.token && match r.call with
    | .metrics tenant _ => isAscii tenant
    | _ => true
where
  isAscii (s : String) : Bool := s.toList.all fun c => c.toNat < 0x80

end WebRequest

/-- The content of an answer: its text, or a document that a cluster keeps and writes without
loss. -/
inductive Content where
  | text (s : String)
  | document (d : Document)
  deriving Repr

/-- The answer to a request to a URL. -/
inductive WebReply where
  | answer (status : Int) (content : Content)
  | broken (detail : String)
  deriving Repr

/-! ## clusters -/

/-- A request that was sent. -/
inductive Request where
  | core (query : CoreQuery) (timeout : Option Binary64)
  | web (request : WebRequest)
  deriving Repr

/-- A state that answers requests. -/
class Cluster (σ : Type) where
  core : CoreQuery → σ → CoreReply × σ
  web : WebRequest → σ → WebReply × σ

end Rollout
