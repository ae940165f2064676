import Rollout.Resource.Fields

/-!
# Rollout.Resource.Metadata

What every resource says about itself: names, labels, owners and its life span.

A resource is controlled by an owner if one of its owner references has the owner's UID and is
marked as the controlling one.
-/

namespace Rollout

open Document

/-- A reference to the owner of a resource. -/
structure OwnerReference where
  uid : String
  kind : Option String
  name : Option String
  controller : Option Bool
  deriving DecidableEq, Repr

instance : Resource OwnerReference where
  read? d := d.record do
    return {
      uid := ← d.required ["uid"] asText?
      kind := ← d.optional ["kind"] asText?
      name := ← d.optional ["name"] asText?
      controller := ← d.optional ["controller"] asFlag? }
  view o := .object [("uid", .text o.uid), ("kind", ofText? o.kind), ("name", ofText? o.name),
    ("controller", (o.controller.map Document.bool).getD .null)]

/-- What a resource says about itself. -/
structure Metadata where
  name : Option String := none
  namespace_ : Option String := none
  uid : Option String := none
  labels : Labels := []
  annotations : Labels := []
  owners : List OwnerReference := []
  created : Option DateTime := none
  deleted : Option DateTime := none
  deriving DecidableEq, Repr

instance : Resource Metadata where
  read? d := d.record do
    return {
      name := ← d.optional ["name"] asText?
      namespace_ := ← d.optional ["namespace"] asText?
      uid := ← d.optional ["uid"] asText?
      labels := ← d.defaulted ["labels"] asLabels? []
      annotations := ← d.defaulted ["annotations"] asLabels? []
      owners := ← d.defaulted ["ownerReferences", "owner_references"] Resource.list? []
      created := ← d.optional ["creationTimestamp", "creation_timestamp"] asTime?
      deleted := ← d.optional ["deletionTimestamp", "deletion_timestamp"] asTime? }
  view m := .object [("name", ofText? m.name), ("namespace", ofText? m.namespace_),
    ("uid", ofText? m.uid), ("labels", ofLabels m.labels), ("annotations", ofLabels m.annotations),
    ("owner_references", Resource.viewList m.owners), ("creation_timestamp", ofTime? m.created),
    ("deletion_timestamp", ofTime? m.deleted)]

namespace Metadata

/-- Whether the owner with the given UID controls the resource. -/
def controlledBy (m : Metadata) (uid : String) : Bool :=
  m.owners.any fun o => o.uid = uid ∧ o.controller = some true

end Metadata

end Rollout
