import ElasticGroups.Cloud.Instance

/-!
# Groups and launch templates

A named collection of instances at the provider, and the template from which a group gets new
instances.

## Main definitions

* `InstanceGroup`: a group with its members in the provider's order;
* `LaunchTemplate`, `LaunchTemplate.instantiate`: the template, and the record of a new instance
  made from it.
-/

namespace ElasticGroups.Cloud

/-- A collection of instances at the provider. -/
structure InstanceGroup where
  /-- The provider's name for the group. -/
  id : GroupId
  /-- The display name, which says what cluster the group belongs to. -/
  name : String
  /-- Free text; a group that may be scaled holds its bounds here. -/
  description : String
  /-- The members in the provider's order. -/
  members : List Member
  deriving DecidableEq, Repr, Inhabited

namespace InstanceGroup

/-- The number of listed members. -/
def size (g : InstanceGroup) : Nat := g.members.length

/-- The group lists the instance. -/
def hasMember (g : InstanceGroup) (id : InstanceId) : Bool := g.members.any (·.id = id)

/-- List one more member, at the end. -/
def addMember (g : InstanceGroup) (m : Member) : InstanceGroup :=
  { g with members := g.members ++ [m] }

/-- Take an instance off the list. -/
def dropMember (g : InstanceGroup) (id : InstanceId) : InstanceGroup :=
  { g with members := g.members.filter (·.id ≠ id) }

end InstanceGroup

/-- What a new instance of a group is made from. -/
structure LaunchTemplate where
  /-- The display name of every instance made from the template. -/
  name : String
  /-- The type of the machine. -/
  instanceType : String
  /-- The image. -/
  imageId : String
  /-- The zone, or nothing to leave the choice to the provider. -/
  zoneId : Option String
  /-- The group that the instance joins. -/
  groupId : GroupId
  /-- The group of the whole cluster, which the instance joins as well. -/
  parentGroupId : Option GroupId
  /-- The boot payload in Base64. -/
  userData : String
  deriving DecidableEq, Repr, Inhabited

namespace LaunchTemplate

/-- The groups of a new instance: the parent first, then its own. -/
def groupIds (t : LaunchTemplate) : List GroupId := t.parentGroupId.toList ++ [t.groupId]

/-- The record of a new instance. -/
def instantiate (t : LaunchTemplate) (id : InstanceId) : Instance where
  id := id
  name := t.name
  status := "creating"
  instanceType := t.instanceType
  image := ⟨t.imageId, .available⟩
  zoneId := t.zoneId.getD ""
  groupIds := t.groupIds
  deletedAt := none

end LaunchTemplate

end ElasticGroups.Cloud
