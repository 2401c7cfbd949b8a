/-!
# Instances

What the provider reports about one compute instance: the full record, and the short form under
which a group lists it.

## Main definitions

* `ImageStatus`, `ImageRef`: the image an instance was made from, and its standing;
* `Instance`, `Member`: the record and the short form;
* `Lifecycle`: the state that a raw status stands for.
-/

namespace ElasticGroups.Cloud

/-- The provider's name for an instance. -/
abbrev InstanceId := String

/-- The provider's name for a group of instances. -/
abbrev GroupId := String

/-- The standing of an image with its provider. -/
inductive ImageStatus
  | available
  | deprecated
  | unknown
  deriving DecidableEq, Repr, Inhabited

namespace ImageStatus

/-- The word for a standing. -/
def label : ImageStatus → String
  | available => "available"
  | deprecated => "deprecated"
  | unknown => "unknown"

/-- The standing that a word stands for. Any word but two means that it is not known. -/
def ofLabel (s : String) : ImageStatus :=
  if s = "available" then available
  else if s = "deprecated" then deprecated
  else unknown

/-- How much an image of this standing is worth: the higher, the better. -/
def rank : ImageStatus → Nat
  | available => 2
  | deprecated => 1
  | unknown => 0

@[simp] theorem ofLabel_label (status : ImageStatus) : ofLabel status.label = status := by
  cases status <;> decide

end ImageStatus

/-- An image as an instance refers to it. -/
structure ImageRef where
  /-- The provider's name for the image. -/
  id : String
  /-- The standing of the image. -/
  status : ImageStatus
  deriving DecidableEq, Repr, Inhabited

/-- An instance as a group lists it. -/
structure Member where
  /-- The name of the instance. -/
  id : InstanceId
  /-- The status as the provider words it. -/
  status : String
  deriving DecidableEq, Repr, Inhabited

/-- The full record of an instance. -/
structure Instance where
  /-- The name of the instance. -/
  id : InstanceId
  /-- The display name. -/
  name : String
  /-- The status as the provider words it. -/
  status : String
  /-- The type of the machine. -/
  instanceType : String
  /-- The image the instance was made from. -/
  image : ImageRef
  /-- The zone of the instance; empty if the provider reports none. -/
  zoneId : String
  /-- The groups that the instance belongs to. -/
  groupIds : List GroupId
  /-- When the instance was deleted, in seconds of the provider's clock. -/
  deletedAt : Option Nat
  deriving DecidableEq, Repr, Inhabited

namespace Instance

/-- The instance is gone. -/
def isDeleted (i : Instance) : Bool := i.deletedAt.isSome

/-- The instance names the group. -/
def inGroup (i : Instance) (group : GroupId) : Bool := i.groupIds.contains group

/-- The short form of the record. -/
def member (i : Instance) : Member := ⟨i.id, i.status⟩

end Instance

/-- The state of an instance in its life. -/
inductive Lifecycle
  | creating
  | running
  | deleting
  /-- Any status that is no normal step of a life. -/
  | failed (code message : String)
  deriving DecidableEq, Repr, Inhabited

/-- The state that a raw status stands for. -/
def Lifecycle.ofStatus (status : String) : Lifecycle :=
  if status = "active" then running
  else if status = "creating" then creating
  else if status = "deleting" then deleting
  else failed status status

end ElasticGroups.Cloud
