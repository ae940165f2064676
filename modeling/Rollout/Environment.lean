import Rollout.Quantity
import Rollout.Resource.Project
import Rollout.Text.Blank

/-!
# Rollout.Environment

The environments of a user, each a namespace of its own, and the quota of an environment.

* `environments` — the environments that a config map lists, in its order;
* `EnvironmentQuota.ofQuota` — what an environment may use and does use.
-/

namespace Rollout

/-- The name of the line that gives an environment's namespace. -/
def namespaceWord : List Char := "namespace".toList

/-- The lines of a text. -/
def lines (s : String) : List (List Char) := s.toList.splitOn '\n'

/-- What the last line that begins with `namespace` has after its colon; nothing if there is no such
line. -/
def namespaceIn (text : String) : Outcome String :=
  (lines text).foldlM (fun found line =>
    if line.take namespaceWord.length ≠ namespaceWord then .ok found
    else
      match line.dropWhile (· ≠ ':') with
      | [] => .error (.misconfigured .environments)
      | _ :: value => .ok (String.ofList (Text.trimList Text.isBlank value))) ""

/-- The namespaces of the environments that a config map lists. -/
def environments (m : ConfigMap) (userNamespace : String) : Outcome Labels :=
  if m.metadata.labels.lookup "provider" ≠ some environmentsProvider then
    .error (.misconfigured (.provider userNamespace))
  else
    m.data.mapM fun (name, text) => do
      let ns ← namespaceIn text
      if ns = "" then throw (.misconfigured (.noNamespace name)) else return (name, ns)

/-- What an environment may use and does use. -/
structure EnvironmentQuota where
  coresLimit : Binary64
  coresUsed : Binary64
  memoryLimit : Binary64
  memoryUsed : Binary64
  deriving DecidableEq, Repr

namespace EnvironmentQuota

/-- The limits of a quota and what is used of them. -/
def ofQuota (q : ResourceQuota) (read : Quantity.Reader := Quantity.standard) :
    Outcome EnvironmentQuota := do
  return {
    coresLimit := ← Quantity.named q.status.hard "limits.cpu" read
    coresUsed := ← Quantity.named q.status.used "limits.cpu" read
    memoryLimit := ← Quantity.named q.status.hard "limits.memory" read
    memoryUsed := ← Quantity.named q.status.used "limits.memory" read }

def view (q : EnvironmentQuota) : Document := .object [
  ("cpucores", .object [("quota", .float q.coresLimit), ("used", .float q.coresUsed)]),
  ("memory", .object [("quota", .float q.memoryLimit), ("used", .float q.memoryUsed),
    ("units", .text "bytes")])]

end EnvironmentQuota

end Rollout
