import Rollout.Cluster.Request

/-!
# Rollout.Cluster.Recorded

A cluster that answers from a record: documents, statuses and broken connections under the keys of
the requests.

* `Recorded.core` — under the word and the place of a question; a missing list is empty, anything
  else that is missing is absent;
* `Recorded.web` — under the method and the path, and first under these with the label selector;
  what is stored without a record for it can be read afterwards.
-/

namespace Rollout

/-- The record of a cluster: core resources, and answers to requests to a URL. -/
structure Recorded where
  kube : List (String × CoreReply)
  http : List (String × WebReply)
  deriving Repr

namespace Recorded

/-- Sets the entry of a key. -/
def put {α : Type} (entries : List (String × α)) (key : String) (a : α) : List (String × α) :=
  match entries with
  | [] => [(key, a)]
  | (k, b) :: rest => if k = key then (k, a) :: rest else (k, b) :: put rest key a

/-! ## core resources -/

/-- The answer that an entry stands for. -/
def coreReply (d : Document) : CoreReply :=
  match d.get? "$status", d.get? "$fail" with
  | some (.int n), _ => .status n
  | _, some (.text detail) => .broken detail
  | _, _ => .document d

/-- The answer without an entry. -/
def missingCore : CoreQuery → CoreReply
  | .configMap _ _ | .resourceQuota _ _ => .status 404
  | _ => .document (.object [("items", .list [])])

/-- The answer to a question about core resources, which changes nothing. -/
def core (q : CoreQuery) (c : Recorded) : CoreReply × Recorded :=
  ((c.kube.lookup (q.word ++ " " ++ q.place)).getD (missingCore q), c)

/-! ## requests to a URL -/

/-- The keys of a request, the one that counts first. -/
def keys (r : WebRequest) : List String :=
  match r.call with
  | .metrics tenant signal => ["METRICS " ++ tenant ++ " " ++ signal.descriptor]
  | call =>
    let key := call.method ++ " " ++ r.target.decodedPath
    match r.target.params.lookup "labelSelector" with
    | some selector => [key ++ "?" ++ selector, key]
    | none => [key]

/-- The answer that an entry stands for. -/
def webReply (d : Document) : WebReply :=
  let status := match d.get? "status" with
    | some (.int n) => n
    | _ => 200
  match d.get? "fail", d.get? "body", d.get? "doc" with
  | some (.text detail), _, _ => .broken detail
  | _, some (.text body), _ => .answer status (.text body)
  | _, _, some d => .answer status (.text d.unicodeJson)
  | _, _, none => .answer status (.text "null")

/-- The answer without an entry. -/
def missingWeb (r : WebRequest) (c : Recorded) : WebReply × Recorded :=
  match r.call with
  | .metrics _ _ => (.answer 204 (.text ""), c)
  | .put body =>
    let reply := WebReply.answer 200 (.document body)
    (reply, { c with http := put c.http ("GET " ++ r.target.decodedPath) reply })
  | .get | .post _ => (.answer 404 (.text ""), c)

/-- The answer to a request to a URL. -/
def web (r : WebRequest) (c : Recorded) : WebReply × Recorded :=
  match (keys r).findSome? fun key => c.http.lookup key with
  | some reply => (reply, c)
  | none => missingWeb r c

/-! ## records -/

/-- Sets the entries that two maps of documents hold. -/
def update (c : Recorded) (kube http : List (String × Document)) : Recorded where
  kube := kube.foldl (fun entries (key, d) => put entries key (coreReply d)) c.kube
  http := http.foldl (fun entries (key, d) => put entries key (webReply d)) c.http

end Recorded

instance : Cluster Recorded where
  core := Recorded.core
  web := Recorded.web

end Rollout
