import ElasticGroups.Cloud.Codec
import ElasticGroups.Cloud.Store
import ElasticGroups.Data.Json.Reader

/-!
# Snapshots

The content of a store as a document: what a fixture file holds, and what a store hands out.
Loading a snapshot puts its groups and then its instances into an empty store, so the lists of
members gain the instances that name their groups.

## Main definitions

* `Snapshot`: groups in order and instances in the order of their names;
* `Store.ofSnapshot`, `Store.snapshot`: loading and copying out;
* `Snapshot.parse?`: reading a fixture text.
-/

namespace ElasticGroups.Cloud

open Data

/-- The content of a store. -/
structure Snapshot where
  /-- The groups. -/
  groups : List InstanceGroup
  /-- The instances. -/
  instances : List Instance
  deriving DecidableEq, Repr, Inhabited

namespace Snapshot

/-- The document form of a snapshot. -/
def toValue (s : Snapshot) : Value :=
  .record [("groups", .list (s.groups.map InstanceGroup.toValue)),
    ("instances", .list (s.instances.map Instance.toValue))]

/-- Read a snapshot. -/
def ofValue? (v : Value) : Option Snapshot := do
  let fields ← v.fields? ["groups", "instances"]
  let groups ← optional? fields "groups" [] (Value.listOf? InstanceGroup.ofValue?)
  let instances ← optional? fields "instances" [] (Value.listOf? Instance.ofValue?)
  return { groups, instances }

/-- Read a fixture text. -/
def parse? (text : String) : Option Snapshot := (Json.parse? text).bind ofValue?

end Snapshot

namespace Store

/-- Load a snapshot into an empty store. -/
def ofSnapshot (s : Snapshot) : Store :=
  s.instances.foldl putInstance (s.groups.foldl putGroup {})

/-- Copy the content out, the instances in the order of their names. -/
def snapshot (store : Store) : Snapshot := ⟨store.groups, store.instances.values⟩

end Store

end ElasticGroups.Cloud
