import Rollout.Resource.Network
import Rollout.Resource.Project
import Rollout.Resource.Workload

/-!
# Rollout.Resource.Listing

Lists of resources as the API returns them.  The lists of one part of the API name their kind, which
has to be the right one.
-/

namespace Rollout

open Document

/-- A list of resources; `kind` is the name of its kind if the list states it. -/
structure Listing (kind : Option String) (α : Type) where
  items : List α
  deriving Repr

instance (kind : Option String) (α : Type) [Resource α] : Resource (Listing kind α) where
  read? d := d.record do
    if let some name := kind then
      let _ ← d.required ["kind"] (word? name)
    return { items := ← d.defaulted ["items"] Resource.list? [] }
  view l :=
    let named := match kind with
      | some name => [("kind", Document.text name)]
      | none => []
    .object (named ++ [("items", Resource.viewList l.items)])

abbrev ControllerList := Listing none ReplicationController
abbrev PodList := Listing none Pod
abbrev ServiceList := Listing none Service
abbrev BuildConfigList := Listing (some "BuildConfigList") BuildConfig
abbrev BuildList := Listing (some "BuildList") Build
abbrev RouteList := Listing (some "RouteList") Route

end Rollout
