import ElasticGroups.Boot.Payload
import ElasticGroups.Discovery.Consensus
import ElasticGroups.OrderedMap
import ElasticGroups.Scaling.NodeGroup

/-!
# Catalog

The node groups of a cluster, found anew in every cycle. A group belongs to the cluster when its
name ends with a dot and the name of the cluster. Of these a group is skipped when it has no
members, when its description holds no bounds, or when its members have no consensus; the others
become node groups. The group named by the name of the cluster alone is the parent, which every
new instance joins too.

A cycle lists the groups once and looks the members of a candidate up in order. Members that the
provider no longer knows, or reports as deleted, are left out. Any other failure ends the cycle,
and the catalog keeps what the last complete cycle found.

## Main definitions

* `Census`, `discover`: what one cycle finds, and the cycle;
* `Catalog`, `Catalog.refresh`: the catalog, and a cycle on it;
* `Catalog.runFor`: cycles at a fixed pace until a shutdown.
-/

namespace ElasticGroups.Discovery

open Boot Cloud Scaling

/-- The name under which the provider is registered. -/
def providerName : String := "groupscale"

/-- The label of nodes with a GPU. -/
def gpuLabel : String := "cloud.groupscale.io/gpu-node"

/-- The types of machines with a GPU that can be created: none. -/
def gpuTypes : List String := []

/-- Why a cycle ended early. -/
inductive CatalogError
  /-- The provider failed a request. -/
  | provider (error : ProviderError)
  deriving DecidableEq, Repr, Inhabited

/-- The cause in words. -/
def CatalogError.message : CatalogError → String
  | provider error => "discovery aborted: " ++ error.message

/-- How many groups and instances a cycle found. -/
structure Summary where
  /-- The node groups. -/
  groups : Nat
  /-- The instances listed by them. -/
  instances : Nat
  /-- The groups of the cluster that were skipped. -/
  skipped : Nat
  deriving DecidableEq, Repr, Inhabited

/-- A part of a cycle. -/
abbrev Cycle (α : Type) := ExceptT CatalogError (Session Reply) α

/-- Look the members of a group up. Those that are not found or deleted are left out. -/
def fetchMembers : List Member → Cycle (List Instance)
  | [] => return []
  | m :: rest => do
    let found ← ExceptT.mk <| .ask (.getInstance m.id) fun
      | .ok i => .done (.ok (if i.isDeleted then [] else [i]))
      | .error error =>
        if error.isNotFound then .done (.ok []) else .done (.error (.provider error))
    let others ← fetchMembers rest
    return found ++ others

/-- What a cycle makes of a group of the cluster. -/
inductive Finding
  /-- The group is skipped. -/
  | skipped
  /-- The group becomes a node group. -/
  | surfaced (group : InstanceGroup) (nodeGroup : NodeGroup)
  deriving DecidableEq, Repr, Inhabited

/-- The text ends with the given text. -/
def endsWith (s suffix : String) : Bool := suffix.toList.isSuffixOf s.toList

/-- The group belongs to the cluster. -/
def ofCluster (settings : Settings) (group : InstanceGroup) : Bool :=
  endsWith group.name settings.clusterSuffix

/-- The parent group: the first one named by the name of the cluster alone. -/
def parentGroup? (settings : Settings) (groups : List InstanceGroup) : Option GroupId :=
  (groups.find? (·.name = settings.clusterName)).map (·.id)

/-- The node group of a group with the given bounds and attributes. -/
def nodeGroupOf (settings : Settings) (payload : Payload) (parent : Option GroupId)
    (group : InstanceGroup) (bounds : Bounds) (attributes : LaunchAttributes) : NodeGroup where
  id := group.id
  bounds := bounds
  template :=
    { name := settings.serverNamePrefix ++ group.name
      instanceType := attributes.instanceType
      imageId := attributes.imageId
      zoneId := attributes.zoneId
      groupId := group.id
      parentGroupId := parent
      userData := payload.userData }
  convergence := settings.convergence

/-- Examine a group of the cluster. Only one with members and room to scale has its members looked
up. -/
def examine (settings : Settings) (payload : Payload) (parent : Option GroupId)
    (group : InstanceGroup) : Cycle Finding := do
  let bounds := Bounds.ofDescription group.description group.size
  if group.members = [] ∨ bounds.isScalable = false then
    return .skipped
  let members ← fetchMembers group.members
  match LaunchAttributes.ofMembers settings.conflictPolicy members with
  | .error _ => return .skipped
  | .ok attributes =>
    return .surfaced group (nodeGroupOf settings payload parent group bounds attributes)

/-- Examine groups in order. -/
def examineAll (settings : Settings) (payload : Payload) (parent : Option GroupId) :
    List InstanceGroup → Cycle (List Finding)
  | [] => return []
  | group :: rest => do
    let finding ← examine settings payload parent group
    let findings ← examineAll settings payload parent rest
    return finding :: findings

/-- What a cycle found. -/
structure Census where
  /-- The node groups in the order of the listing. -/
  nodeGroups : List NodeGroup := []
  /-- The group that an instance belongs to; the last one listed, if several list it. -/
  membership : OrderedMap GroupId := .empty
  /-- The number of skipped groups. -/
  skipped : Nat := 0
  deriving DecidableEq, Repr, Inhabited

namespace Census

/-- Add a finding. -/
def add (d : Census) : Finding → Census
  | .skipped => { d with skipped := d.skipped + 1 }
  | .surfaced group nodeGroup =>
    { d with
      nodeGroups := d.nodeGroups ++ [nodeGroup]
      membership := group.members.foldl (fun index m => index.insert m.id group.id) d.membership }

/-- What the findings of a cycle come to. -/
def ofFindings (findings : List Finding) : Census := findings.foldl add {}

/-- The counts of a cycle. -/
def summary (d : Census) : Summary := ⟨d.nodeGroups.length, d.membership.size, d.skipped⟩

end Census

/-- List all groups. -/
def listGroups : Cycle (List InstanceGroup) :=
  ExceptT.mk <| .ask Request.listGroups fun
    | .ok groups => .done (.ok groups)
    | .error error => .done (.error (.provider error))

/-- One cycle: list the groups and examine those of the cluster. -/
def discover (settings : Settings) (payload : Payload) : Cycle Census := do
  let groups ← listGroups
  let findings ←
    examineAll settings payload (parentGroup? settings groups) (groups.filter (ofCluster settings))
  return .ofFindings findings

/-- A source of node groups. -/
structure Catalog where
  /-- The settings. -/
  settings : Settings
  /-- The boot payload of new instances. -/
  payload : Payload
  /-- What the last complete cycle found. -/
  found : Census := {}
  deriving DecidableEq

namespace Catalog

/-- The node groups. -/
def nodeGroups (c : Catalog) : List NodeGroup := c.found.nodeGroups

/-- The group that an instance belongs to. -/
def membership (c : Catalog) : OrderedMap GroupId := c.found.membership

/-- The node group of an instance, as of the last complete cycle. -/
def nodeGroupFor (c : Catalog) (r : InstanceRef) : Option NodeGroup := do
  let id ← c.membership.find? r.id
  c.nodeGroups.find? (·.id = id)

/-- Run one cycle. Only a complete cycle changes what the catalog holds. -/
def refresh (c : Catalog) : Session Reply (Except CatalogError Summary × Catalog) :=
  (discover c.settings c.payload).run.bind fun
    | .ok found => .done (.ok found.summary, { c with found })
    | .error error => .done (.error error, c)

/-- Run a number of cycles, sleeping before each of them, whatever becomes of them. -/
def cycles (c : Catalog) (interval : Duration) : Nat → Session Reply Catalog
  | 0 => .done c
  | n + 1 => .sleep interval fun _ => c.refresh.bind fun (_, c) => c.cycles interval n

/-- Run cycles at a fixed pace until a shutdown after the given time, both measured on a clock.
Cycles take no time, so there are as many as whole intervals before the shutdown. -/
def runFor (c : Catalog) (clock : Clock) (interval shutdown : Duration) :
    Session Reply Catalog :=
  let pace := clock.lasting interval
  let stop := clock.lasting shutdown
  -- A shutdown at the very end of a sleep lets the cycle behind it run.
  let count := stop.nanos / pace.nanos
  (c.cycles interval count).bind fun c =>
    .sleep ⟨stop.nanos - count * pace.nanos⟩ fun _ => .done c

end Catalog

end ElasticGroups.Discovery
