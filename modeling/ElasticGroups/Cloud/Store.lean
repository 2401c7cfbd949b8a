import ElasticGroups.Cloud.Failure
import ElasticGroups.Session.Basic
import ElasticGroups.OrderedMap
import ElasticGroups.Text.Numeral

/-!
# Store

A provider in memory. It applies every accepted change at once: a new instance is listed by every
known group that its template names, and a destroyed one is marked as deleted and taken off all
lists. A *stalled* store accepts changes and applies none; a plan of failures decides which
requests fail. Requests are counted by kind, failed ones included.

## Main definitions

* `Store`: the content, the switches and the counters;
* `Store.putGroup`, `Store.putInstance`: direct changes of the content;
* `Store.respond`: the store as a provider.
-/

namespace ElasticGroups.Cloud

/-- How many requests of each kind a store has received. -/
structure CallCounts where
  /-- Listings of all groups. -/
  listGroups : Nat := 0
  /-- Look-ups of a group. -/
  getGroup : Nat := 0
  /-- Look-ups of an instance. -/
  getInstance : Nat := 0
  /-- Creations. -/
  createInstance : Nat := 0
  /-- Deletions. -/
  destroyInstance : Nat := 0
  deriving DecidableEq, Repr, Inhabited

namespace CallCounts

/-- The count of a kind. -/
def get (counts : CallCounts) : Operation → Nat
  | .listGroups => counts.listGroups
  | .getGroup => counts.getGroup
  | .getInstance => counts.getInstance
  | .createInstance => counts.createInstance
  | .destroyInstance => counts.destroyInstance

/-- Count one more request of a kind. -/
def bump (counts : CallCounts) : Operation → CallCounts
  | .listGroups => { counts with listGroups := counts.listGroups + 1 }
  | .getGroup => { counts with getGroup := counts.getGroup + 1 }
  | .getInstance => { counts with getInstance := counts.getInstance + 1 }
  | .createInstance => { counts with createInstance := counts.createInstance + 1 }
  | .destroyInstance => { counts with destroyInstance := counts.destroyInstance + 1 }

/-- Counting a request raises the count of its kind by one and no other. -/
theorem get_bump (counts : CallCounts) (op other : Operation) :
    (counts.bump op).get other = counts.get other + if other = op then 1 else 0 := by
  cases op <;> cases other <;> rfl

end CallCounts

/-- A provider in memory. -/
structure Store where
  /-- The groups in the order of their arrival. -/
  groups : List InstanceGroup := []
  /-- The instances by their names. -/
  instances : OrderedMap Instance := .empty
  /-- The number of names given to new instances. -/
  created : Nat := 0
  /-- Whether changes are accepted without being applied. -/
  stalled : Bool := false
  /-- The failures to come. -/
  failures : FailurePlan := []
  /-- The requests received. -/
  calls : CallCounts := {}
  /-- The time that a deletion is marked with, in seconds. -/
  clock : Nat := 0
  deriving DecidableEq, Repr, Inhabited

/-- Replace the first group of the same name, or add the group at the end. -/
def putGroupIn (group : InstanceGroup) : List InstanceGroup → List InstanceGroup
  | [] => [group]
  | other :: rest =>
    if other.id = group.id then group :: rest else other :: putGroupIn group rest

/-- Change the first group of a name. -/
def updateGroupIn (id : GroupId) (change : InstanceGroup → InstanceGroup) :
    List InstanceGroup → List InstanceGroup
  | [] => []
  | group :: rest =>
    if group.id = id then change group :: rest else group :: updateGroupIn id change rest

/-- List a member in a group, unless the group lists it already. -/
def enlistOnce (m : Member) (group : InstanceGroup) : InstanceGroup :=
  if group.hasMember m.id then group else group.addMember m

namespace Store

/-- The first group of a name. -/
def group? (store : Store) (id : GroupId) : Option InstanceGroup :=
  store.groups.find? (·.id = id)

/-- Put a group into the store, with its list of members as given. -/
def putGroup (store : Store) (group : InstanceGroup) : Store :=
  { store with groups := putGroupIn group store.groups }

/-- Apply a change to the groups of the given names, one after the other. -/
def updateGroups (store : Store) (ids : List GroupId) (change : InstanceGroup → InstanceGroup) :
    Store :=
  { store with groups := ids.foldl (fun groups id => updateGroupIn id change groups) store.groups }

/-- Put the record of an instance into the store under its name. -/
def putRecord (store : Store) (i : Instance) : Store :=
  { store with instances := store.instances.insert i.id i }

/-- Put an instance into the store. Unless it is deleted, the known groups that it names list it;
those that list it already keep their entry. -/
def putInstance (store : Store) (i : Instance) : Store :=
  let store := if i.isDeleted then store else store.updateGroups i.groupIds (enlistOnce i.member)
  store.putRecord i

/-- Plan a failure of the n-th coming request of a kind. -/
def planFailure (store : Store) (operation : Operation) (nth : Nat) (error : ProviderError) :
    Store :=
  { store with failures := store.failures.add operation nth error }

/-- The name that a store gives to the n-th new instance. -/
def newId (n : Nat) : InstanceId := "srv-" ++ Text.hexadecimal 5 n

/-- Count a request, and let the plan of failures meet it. -/
def receive (store : Store) (operation : Operation) : Option ProviderError × Store :=
  let (due, failures) := store.failures.meet operation
  (due, { store with calls := store.calls.bump operation, failures })

/-- Add a new instance: every known group that its template names lists it. -/
def launch (store : Store) (template : LaunchTemplate) (id : InstanceId) : Store :=
  let i := template.instantiate id
  (store.updateGroups i.groupIds (·.addMember i.member)).putRecord i

/-- Create an instance. Its name is taken from a counter; its own group must exist. -/
def create (store : Store) (template : LaunchTemplate) :
    Except ProviderError InstanceId × Store :=
  if (store.group? template.groupId).isNone then
    (.error (.notFound .group template.groupId), store)
  else
    let id := newId (store.created + 1)
    let store := { store with created := store.created + 1 }
    (.ok id, if store.stalled then store else store.launch template id)

/-- Mark an instance as deleted and take it off all lists. -/
def retire (store : Store) (i : Instance) (id : InstanceId) : Store :=
  { store with
    instances := store.instances.insert id
      { i with status := "deleted", deletedAt := some store.clock }
    groups := store.groups.map (·.dropMember id) }

/-- Destroy an instance, which must exist and not be deleted yet. -/
def destroy (store : Store) (id : InstanceId) : Except ProviderError Unit × Store :=
  match store.instances.find? id with
  | none => (.error (.notFound .server id), store)
  | some i =>
    if i.isDeleted then (.error (.notFound .server id), store)
    else (.ok (), if store.stalled then store else store.retire i id)

/-- Serve a request that was received. -/
def serve (store : Store) : (request : Request) → Reply request × Store
  | .listGroups => (.ok store.groups, store)
  | .getGroup id =>
    match store.group? id with
    | some group => (.ok group, store)
    | none => (.error (.notFound .group id), store)
  | .getInstance id =>
    match store.instances.find? id with
    | some i => (.ok i, store)
    | none => (.error (.notFound .server id), store)
  | .createInstance template => store.create template
  | .destroyInstance id => store.destroy id

/-- The store as a provider. -/
def respond : Responder Reply Store := fun request store =>
  match store.receive request.operation with
  | (some error, store) => (.error error, store)
  | (none, store) => store.serve request

end Store

end ElasticGroups.Cloud
