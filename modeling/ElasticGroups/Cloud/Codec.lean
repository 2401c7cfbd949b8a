import ElasticGroups.Cloud.InstanceGroup
import ElasticGroups.Data.Decode

/-!
# Cloud records as document values

The document form of the provider's records. An encoding has all fields; a decoding applies the
declared defaults.

## Main definitions

For every record a function `toValue` and a function `ofValue?`.
-/

namespace ElasticGroups.Cloud

open Data

namespace ImageStatus

/-- The document form of a standing. -/
def toValue (status : ImageStatus) : Value := .text status.label

/-- Read a standing. -/
def ofValue? (v : Value) : Option ImageStatus := (v.name? Value.isNull).map ofLabel

end ImageStatus

namespace ImageRef

/-- The document form of an image reference. -/
def toValue (image : ImageRef) : Value :=
  .record [("id", .text image.id), ("status", image.status.toValue)]

/-- Read an image reference. -/
def ofValue? (v : Value) : Option ImageRef := do
  let fields ← v.fields? ["id", "status"]
  let id ← required? fields "id" Value.text?
  let status ← optional? fields "status" .unknown ImageStatus.ofValue?
  return { id, status }

end ImageRef

namespace Member

/-- The document form of a member. -/
def toValue (m : Member) : Value := .record [("id", .text m.id), ("status", .text m.status)]

/-- Read a member. -/
def ofValue? (v : Value) : Option Member := do
  let fields ← v.fields? ["id", "status"]
  let id ← required? fields "id" Value.text?
  let status ← required? fields "status" Value.text?
  return { id, status }

end Member

namespace InstanceGroup

/-- The document form of a group. -/
def toValue (g : InstanceGroup) : Value :=
  .record [("id", .text g.id), ("name", .text g.name), ("description", .text g.description),
    ("members", .list (g.members.map Member.toValue))]

/-- Read a group. -/
def ofValue? (v : Value) : Option InstanceGroup := do
  let fields ← v.fields? ["id", "name", "description", "members"]
  let id ← required? fields "id" Value.text?
  let name ← required? fields "name" Value.text?
  let description ← optional? fields "description" "" Value.text?
  let members ← optional? fields "members" [] (Value.listOf? Member.ofValue?)
  return { id, name, description, members }

end InstanceGroup

namespace Instance

/-- The document form of an instance. -/
def toValue (i : Instance) : Value :=
  .record [("id", .text i.id), ("name", .text i.name), ("status", .text i.status),
    ("instance_type", .text i.instanceType), ("image", i.image.toValue),
    ("zone_id", .text i.zoneId), ("group_ids", .texts i.groupIds),
    ("deleted_at", .natOrNull i.deletedAt)]

/-- Read an instance. -/
def ofValue? (v : Value) : Option Instance := do
  let fields ← v.fields? ["id", "name", "status", "instance_type", "image", "zone_id",
    "group_ids", "deleted_at"]
  let id ← required? fields "id" Value.text?
  let name ← required? fields "name" Value.text?
  let status ← required? fields "status" Value.text?
  let instanceType ← required? fields "instance_type" Value.text?
  let image ← required? fields "image" ImageRef.ofValue?
  let zoneId ← optional? fields "zone_id" "" Value.text?
  let groupIds ← optional? fields "group_ids" [] (Value.listOf? Value.text?)
  let deletedAt ← optional? fields "deleted_at" none (Value.orNull? Value.word?)
  return { id, name, status, instanceType, image, zoneId, groupIds, deletedAt }

end Instance

namespace LaunchTemplate

/-- The document form of a launch template. -/
def toValue (t : LaunchTemplate) : Value :=
  .record [("name", .text t.name), ("instance_type", .text t.instanceType),
    ("image_id", .text t.imageId), ("zone_id", .textOrNull t.zoneId),
    ("group_id", .text t.groupId), ("parent_group_id", .textOrNull t.parentGroupId),
    ("user_data", .text t.userData)]

/-- Read a launch template. -/
def ofValue? (v : Value) : Option LaunchTemplate := do
  let fields ← v.fields? ["name", "instance_type", "image_id", "zone_id", "group_id",
    "parent_group_id", "user_data"]
  let name ← required? fields "name" Value.text?
  let instanceType ← required? fields "instance_type" Value.text?
  let imageId ← required? fields "image_id" Value.text?
  let zoneId ← optional? fields "zone_id" none (Value.orNull? Value.text?)
  let groupId ← required? fields "group_id" Value.text?
  let parentGroupId ← optional? fields "parent_group_id" none (Value.orNull? Value.text?)
  let userData ← required? fields "user_data" Value.text?
  return { name, instanceType, imageId, zoneId, groupId, parentGroupId, userData }

end LaunchTemplate

end ElasticGroups.Cloud
