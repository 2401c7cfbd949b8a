import ElasticGroups.Cloud.Request
import ElasticGroups.Duration

/-!
# Failures of scaling

Why an operation on a node group fails.

## Main definitions

* `NodeGroupError`: the causes;
* `NodeGroupError.message`: the cause in words;
* `NodeGroupError.isBoundsViolation`: the request itself was out of bounds.
-/

namespace ElasticGroups.Scaling

open Cloud

/-- The two requests to change a size. -/
inductive Resize
  | increase
  | decrease
  deriving DecidableEq, Repr, Inhabited

/-- What a node group waits for. -/
inductive Awaited
  /-- The group lists a number of instances. -/
  | size (desired : Nat)
  /-- An instance has left the group. -/
  | removal (id : InstanceId)
  deriving DecidableEq, Repr, Inhabited

/-- What is waited for in words. -/
def Awaited.message : Awaited → String
  | size desired => "growing to " ++ toString desired ++ " instances"
  | removal id => "removing instance " ++ id

/-- What node groups do not offer. -/
inductive Unsupported
  | creation
  | deletion
  deriving DecidableEq, Repr, Inhabited

/-- Why an operation on a node group failed. -/
inductive NodeGroupError
  /-- The change of size has the wrong sign. -/
  | invalidDelta (delta : Int) (request : Resize)
  /-- The group would grow beyond its greatest size. -/
  | maxSizeExceeded (desired max : Nat)
  /-- The group is at or below its least size. -/
  | minSizeReached (size min : Nat)
  /-- The size can only shrink by deleting instances, which is a request of its own. -/
  | shrinkWouldDeleteNodes (target : Nat) (delta : Int) (existing : Nat)
  /-- The instance is no present member of the group. -/
  | foreignInstance (id : InstanceId) (group : GroupId)
  /-- The provider accepted a change but did not show it in time. -/
  | convergenceTimeout (group : GroupId) (awaited : Awaited) (waited : Duration)
  /-- Node groups do not offer the operation. -/
  | notImplemented (what : Unsupported)
  /-- The provider failed a request. -/
  | provider (error : ProviderError)
  deriving DecidableEq, Repr, Inhabited

namespace NodeGroupError

/-- The request asked for a size that is out of bounds. -/
def isBoundsViolation : NodeGroupError → Bool
  | invalidDelta .. | maxSizeExceeded .. | minSizeReached .. | shrinkWouldDeleteNodes .. => true
  | _ => false

/-- The cause in words. -/
def message : NodeGroupError → String
  | invalidDelta delta .increase =>
    "invalid delta " ++ toString delta ++ ": size increase must be positive"
  | invalidDelta delta .decrease =>
    "invalid delta " ++ toString delta ++ ": size decrease must be negative"
  | maxSizeExceeded desired max =>
    "size increase too large: desired " ++ toString desired ++ ", max " ++ toString max
  | minSizeReached size min =>
    "min size reached: size " ++ toString size ++ ", min " ++ toString min ++
      "; no further instances will be deleted"
  | shrinkWouldDeleteNodes target delta existing =>
    "attempt to delete existing instances: target size " ++ toString target ++ ", delta " ++
      toString delta ++ ", existing " ++ toString existing
  | foreignInstance id group =>
    "instance " ++ id ++ " belongs to a different group than " ++ group
  | convergenceTimeout group awaited waited =>
    "group " ++ group ++ " did not converge within " ++ waited.exactText ++ " while " ++
      awaited.message
  | notImplemented .creation => "node group creation is not implemented by this provider"
  | notImplemented .deletion => "node group deletion is not implemented by this provider"
  | provider error => error.message

end NodeGroupError

end ElasticGroups.Scaling
