import ElasticGroups.Scaling.Bounds
import ElasticGroups.Scaling.Error
import ElasticGroups.Scaling.InstanceRef
import ElasticGroups.Session.Poll

/-!
# Node groups

A group that may be scaled within its bounds. Every operation asks the provider anew; a change
waits until the provider shows it.

Growing checks the bound against the size just read, creates instances until the first failure,
and waits for the new size. Deleting takes the instances one by one: before each of them the size
must be above the least size and the instance must be a present member; after each of them it
waits until the instance is gone. The first failure ends the operation, and what was done stays
done.

## Main definitions

* `NodeGroup`: the group;
* `Attempt`: what an operation may ask and how it may fail;
* `NodeGroup.increaseSize`, `NodeGroup.decreaseTargetSize`, `NodeGroup.deleteNodes`: the changes;
* `NodeGroup.targetSize`, `NodeGroup.nodes`, `NodeGroup.exists?`: the reads.
-/

namespace ElasticGroups.Scaling

open Cloud

/-- A group that may be scaled. -/
structure NodeGroup where
  /-- The group at the provider. -/
  id : GroupId
  /-- The bounds of its size. -/
  bounds : Bounds
  /-- What new instances are made from. -/
  template : LaunchTemplate
  /-- How to wait for the provider. -/
  convergence : Convergence
  deriving DecidableEq, Repr, Inhabited

/-- An operation that talks to a provider and may fail. -/
abbrev Attempt (α : Type) := ExceptT NodeGroupError (Session Reply) α

namespace Attempt

/-- Send a request, and fail as it fails. -/
def call (request : Request) : Attempt request.Answer :=
  ExceptT.mk <| .ask request fun
    | .ok answer => .done (.ok answer)
    | .error error => .done (.error (.provider error))

end Attempt

namespace NodeGroup

variable (g : NodeGroup)

/-- The number of instances that the provider lists in the group. -/
def targetSize : Attempt Nat := do
  let group ← Attempt.call (.getGroup g.id)
  return group.size

/-- The present size. No size is kept apart from the listed instances, so it is the target. -/
def currentSize : Attempt Nat := g.targetSize

/-- Whether the provider still knows the group. -/
def exists? : Session Reply Bool :=
  .ask (.getGroup g.id) fun
    | .ok _ => .done true
    | .error _ => .done false

/-- The listed instances with their states. -/
def nodes : Attempt (List (InstanceId × Lifecycle)) := do
  let group ← Attempt.call (.getGroup g.id)
  return group.members.map fun m => (m.id, .ofStatus m.status)

/-- Wait until an observation holds. -/
def waitFor (awaited : Awaited) (observe : Attempt Bool) : Attempt Unit :=
  ExceptT.mk <| (Session.poll g.convergence observe.run).bind fun
    | .ok () => .done (.ok ())
    | .error (.failed error) => .done (.error error)
    | .error (.timedOut waited) => .done (.error (.convergenceTimeout g.id awaited waited))

/-- Create instances from the template, one by one, until the first failure. -/
def createInstances : Nat → Attempt Unit
  | 0 => return
  | count + 1 => do
    let _ ← Attempt.call (.createInstance g.template)
    createInstances count

/-- Create `delta` instances and wait until the group lists them. -/
def increaseSize (delta : Int) : Attempt Unit := do
  if delta ≤ 0 then
    throw (.invalidDelta delta .increase)
  let size ← g.targetSize
  let desired := size + delta.toNat
  if desired > g.bounds.max then
    throw (.maxSizeExceeded desired g.bounds.max)
  g.createInstances delta.toNat
  g.waitFor (.size desired) do
    let size ← g.targetSize
    return size ≥ desired

/-- Refuse to shrink: a smaller size would mean deleting instances, which `deleteNodes` does. -/
def decreaseTargetSize (delta : Int) : Attempt Unit := do
  if delta ≥ 0 then
    throw (.invalidDelta delta .decrease)
  let size ← g.targetSize
  throw (.shrinkWouldDeleteNodes size delta size)

/-- An instance is missing when the provider does not know it, when it is deleted, or when it does
not name the group. -/
def isMissing (id : InstanceId) : Attempt Bool :=
  ExceptT.mk <| .ask (.getInstance id) fun
    | .ok i => .done (.ok (i.isDeleted || !i.inGroup g.id))
    | .error error =>
      if error.isNotFound then .done (.ok true) else .done (.error (.provider error))

/-- Delete a present member and wait until it is gone. -/
def deleteInstance (id : InstanceId) : Attempt Unit := do
  if ← g.isMissing id then
    throw (.foreignInstance id g.id)
  Attempt.call (.destroyInstance id)
  g.waitFor (.removal id) (g.isMissing id)

/-- Delete instances one by one, down to the least size. -/
def deleteNodes : List InstanceRef → Attempt Unit
  | [] => return
  | r :: rest => do
    let size ← g.currentSize
    if size ≤ g.bounds.min then
      throw (.minSizeReached size g.bounds.min)
    g.deleteInstance r.id
    deleteNodes rest

/-- Node groups are found at the provider and never made by the caller. -/
def autoprovisioned : Bool := false

/-- Node groups cannot be created. -/
def create : Except NodeGroupError NodeGroup := .error (.notImplemented .creation)

/-- Node groups cannot be deleted. -/
def delete : Except NodeGroupError Unit := .error (.notImplemented .deletion)

end NodeGroup

end ElasticGroups.Scaling
