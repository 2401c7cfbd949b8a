import ElasticGroups.Cloud.Store

/-!
# A lagging view of a store

A provider whose reads lag behind its changes. A new instance is hidden from the next look-ups of
groups, counted from the latest creation; a destroyed instance shows its former record to the next
look-ups of that instance. Listings of all groups do not lag, and a request that fails neither
starts a lag nor uses one up.

## Main definitions

* `Lag`: how many reads show the past;
* `Lagging`: a store with what its reads still conceal;
* `Lagging.respond`: the lagging view as a provider.
-/

namespace ElasticGroups.Cloud

/-- How many reads show the past. -/
structure Lag where
  /-- Look-ups of groups that do not show a new instance. -/
  create : Nat := 0
  /-- Look-ups of a destroyed instance that show its former record. -/
  destroy : Nat := 0
  deriving DecidableEq, Repr, Inhabited

/-- A store whose reads lag. -/
structure Lagging where
  /-- The store behind the view. -/
  store : Store
  /-- How far reads lag. -/
  lag : Lag := {}
  /-- The instances that look-ups of groups do not show. -/
  hidden : List InstanceId := []
  /-- How many more look-ups of groups hide them. -/
  hiddenFor : Nat := 0
  /-- The former records of destroyed instances, and how many more look-ups show them. -/
  former : OrderedMap (Instance × Nat) := .empty
  deriving DecidableEq, Repr, Inhabited

namespace Lagging

/-- A group without its hidden members. -/
def conceal (hidden : List InstanceId) (group : InstanceGroup) : InstanceGroup :=
  { group with members := group.members.filter fun m => !hidden.contains m.id }

/-- A successful look-up of a group. -/
def showGroup (view : Lagging) (group : InstanceGroup) : InstanceGroup × Lagging :=
  if view.hiddenFor = 0 then (group, { view with hidden := [] })
  else (conceal view.hidden group, { view with hiddenFor := view.hiddenFor - 1 })

/-- A successful look-up of an instance. -/
def showInstance (view : Lagging) (id : InstanceId) (i : Instance) : Instance × Lagging :=
  match view.former.find? id with
  | some (past, left + 1) => (past, { view with former := view.former.insert id (past, left) })
  | _ => (i, view)

/-- A successful creation. -/
def noteCreated (view : Lagging) (id : InstanceId) : Lagging :=
  { view with hidden := view.hidden ++ [id], hiddenFor := view.lag.create }

/-- A successful deletion of an instance with the given former record. -/
def noteDestroyed (view : Lagging) (id : InstanceId) (past : Option Instance) : Lagging :=
  match past with
  | some i => { view with former := view.former.insert id (i, view.lag.destroy) }
  | none => view

/-- The lagging view as a provider. -/
def respond : Responder Reply Lagging := fun request view =>
  let past := view.store
  let (reply, store) := Store.respond request view.store
  let view := { view with store }
  match request, reply with
  | .getGroup _, .ok group =>
    let (group, view) := view.showGroup group
    (.ok group, view)
  | .getInstance id, .ok i =>
    let (i, view) := view.showInstance id i
    (.ok i, view)
  | .createInstance _, .ok id => (.ok id, view.noteCreated id)
  | .destroyInstance id, .ok () => (.ok (), view.noteDestroyed id (past.instances.find? id))
  | _, reply => (reply, view)

end Lagging

end ElasticGroups.Cloud
