import ElasticGroups.Proofs.Discovery.Rounds

/-!
# What a store shows to a cycle

A cycle that meets no planned failure sees the content of the store as it is. What it finds is
therefore a function of the groups and the instances, with no regard to requests and replies.

The module introduces:

* `sightIn store group` — the sighting of a group whose members are looked up in the store;
* `nodeGroupIn?`, `nodeGroupsIn`, `surfacedIn` — the node group that the store makes of a group, all
  node groups, and the groups that become node groups;
* `indexIn` — the group that the store makes an instance belong to;
* `Shows settings payload store found` — the census is that of the content of the store.

An undisturbed cycle is complete and finds what the store shows (`shows_of_undisturbed`). Stores of
the same content show the same (`nodeGroupsIn_of_kept`, `indexIn_of_kept`).
-/

namespace ElasticGroups.Discovery

open Boot Cloud Scaling Session

/-- The sighting of a group whose members are looked up in a store. -/
def sightIn (store : Store) (group : InstanceGroup) : Sighting :=
  ⟨group, group.members.map fun m => (store.serve (.getInstance m.id)).1⟩

/-- The node group that a store makes of a group. -/
def nodeGroupIn? (settings : Settings) (payload : Payload) (store : Store) (group : InstanceGroup) :
    Option NodeGroup :=
  if candidate settings group then
    (sightIn store group).nodeGroup? settings payload (parentGroup? settings store.groups)
  else none

/-- The node groups that a store makes of its groups. -/
def nodeGroupsIn (settings : Settings) (payload : Payload) (store : Store) : List NodeGroup :=
  store.groups.filterMap (nodeGroupIn? settings payload store)

/-- The groups of a store that become node groups. -/
def surfacedIn (settings : Settings) (payload : Payload) (store : Store) : List InstanceGroup :=
  store.groups.filter fun group => (nodeGroupIn? settings payload store group).isSome

/-- The group that an instance belongs to: the last one that lists it, of those that become node
groups. -/
def indexIn (settings : Settings) (payload : Payload) (store : Store) (id : InstanceId) :
    Option GroupId :=
  (lastLister? (surfacedIn settings payload store) id).map (·.id)

/-- A census is that of the content of a store. -/
structure Shows (settings : Settings) (payload : Payload) (store : Store) (found : Census) :
    Prop where
  /-- The node groups are those that the store makes of its groups. -/
  nodeGroups : found.nodeGroups = nodeGroupsIn settings payload store
  /-- An instance belongs where the store makes it belong. -/
  membership : ∀ id, found.membership.find? id = indexIn settings payload store id
  /-- The other groups of the cluster are skipped. -/
  skipped : found.nodeGroups.length + found.skipped =
    (store.groups.filter (ofCluster settings)).length

variable {clock : Clock} {record : List (Sigma Reply)} {settings : Settings} {payload : Payload}
  {store after : Store} {c : Catalog}

/-- A group of a store has a node group when it is a candidate and what is seen of it makes one. -/
theorem nodeGroupIn?_eq_some_iff {group : InstanceGroup} {g : NodeGroup} :
    nodeGroupIn? settings payload store group = some g ↔
      candidate settings group = true ∧
        (sightIn store group).nodeGroup? settings payload (parentGroup? settings store.groups) =
          some g := by
  rw [nodeGroupIn?, Option.ite_none_right_eq_some]

theorem id_of_nodeGroupIn? {group : InstanceGroup} {g : NodeGroup}
    (h : nodeGroupIn? settings payload store group = some g) : g.id = group.id :=
  ((sightIn store group).nodeGroup?_spec (nodeGroupIn?_eq_some_iff.mp h).2).1

theorem mem_nodeGroupsIn_iff {g : NodeGroup} :
    g ∈ nodeGroupsIn settings payload store ↔
      ∃ group ∈ store.groups, nodeGroupIn? settings payload store group = some g :=
  List.mem_filterMap

theorem mem_surfacedIn_iff {group : InstanceGroup} :
    group ∈ surfacedIn settings payload store ↔
      group ∈ store.groups ∧ ∃ g, nodeGroupIn? settings payload store group = some g := by
  rw [surfacedIn, List.mem_filter, Option.isSome_iff_exists]

/-! ### Undisturbed cycles -/

/-- No request that a store serves ends a cycle: it lists its groups, and where it has no record of
an instance it says that there is none. -/
theorem abort?_serve (store : Store) (request : Request) (hsurveys : Surveys request) :
    abort? ⟨request, (store.serve request).1⟩ = none := by
  rcases hsurveys with rfl | ⟨id, rfl⟩
  · rfl
  · rw [Store.serve]
    split
    · rfl
    · rfl

/-- A complete sighting whose look-ups a store has served is the one that the store shows. -/
theorem Sighting.Complete.eq_sightIn {s : Sighting} (h : s.Complete)
    (hreplies : ∀ exchange ∈ s.exchanges, exchange.2 = (store.serve exchange.1).1) :
    s = sightIn store s.group := by
  have hlength := h.1
  have hsame : s.replies = s.group.members.map fun m => (store.serve (.getInstance m.id)).1 := by
    -- The reply at each place is that to the look-up of the member at the place.
    refine List.ext_getElem (by rw [List.length_map, hlength]) fun n hn _ => ?_
    have hmember : n < s.group.members.length := hlength ▸ hn
    rw [List.getElem_map]
    exact hreplies _ (s.exchange_mem hmember hn)
  rw [sightIn, ← hsame]

/-- A cycle whose requests a store has served has sighted the candidates among the groups of the
store, as the store shows them. -/
theorem Survey.sightings_eq {groups : List InstanceGroup} {sightings : List Sighting}
    {found : Census} (h : Survey settings payload record groups sightings found)
    (hreplies : ∀ exchange ∈ record, exchange.2 = (store.serve exchange.1).1) :
    groups = store.groups ∧
      sightings = (groups.filter (candidate settings)).map (sightIn store) := by
  have hlisting := hreplies _ h.listing_mem
  have hsight : sightings.map (fun s => s) = sightings.map fun s => sightIn store s.group := by
    refine List.map_congr_left fun s hs => ?_
    exact (h.complete s hs).eq_sightIn fun exchange hexchange =>
      hreplies exchange (h.exchange_mem hs hexchange)
  rw [List.map_id'] at hsight
  rw [← h.candidates, List.map_map]
  exact ⟨Except.ok.inj hlisting, hsight⟩

/-- What a complete cycle finds in the content of a store is what the store shows. -/
theorem Survey.shows {groups : List InstanceGroup} {sightings : List Sighting} {found : Census}
    (h : Survey settings payload record groups sightings found)
    (hreplies : ∀ exchange ∈ record, exchange.2 = (store.serve exchange.1).1) :
    Shows settings payload store found := by
  obtain ⟨rfl, rfl⟩ := h.sightings_eq hreplies
  -- The sightings are those of the candidates, so the filters of the two sides agree.
  have hsurfaced : surfaced settings payload (parentGroup? settings store.groups)
      ((store.groups.filter (candidate settings)).map (sightIn store)) =
        surfacedIn settings payload store := by
    rw [surfaced, List.filter_map, List.map_map, List.filter_filter, surfacedIn]
    have hgroup : (fun s : Sighting => s.group) ∘ sightIn store = id := rfl
    rw [hgroup, List.map_id]
    refine List.filter_congr fun group _ => ?_
    rw [nodeGroupIn?, Function.comp_apply]
    cases candidate settings group <;> simp
  constructor
  case nodeGroups =>
    rw [h.nodeGroups, List.filterMap_map, List.filterMap_filter, nodeGroupsIn]
    rfl
  case membership =>
    intro id
    rw [h.membership, hsurfaced, indexIn]
  case skipped => exact h.skipped

/-- An undisturbed cycle is complete, and finds what the store shows. -/
theorem shows_of_undisturbed {result : Except CatalogError Summary} {c' : Catalog}
    (h : c.refresh.Transcript clock record (result, c'))
    (hgives : Store.respond.Gives store record after) (hquiet : store.Undisturbed record) :
    ∃ found, (discover c.settings c.payload).run.Transcript clock record (.ok found) ∧
      result = .ok found.summary ∧ c' = { c with found } ∧
      Shows c.settings c.payload store found := by
  have hreplies := Store.reply_eq_serve hgives hquiet (reads_of_refresh h)
  obtain ⟨found, hdiscover, hresult, hc'⟩ | ⟨⟨error⟩, rfl, -⟩ := transcript_refresh h
  · obtain ⟨groups, sightings, hsurvey⟩ := survey_of_discover hdiscover
    exact ⟨found, hdiscover, hresult, hc', hsurvey.shows hreplies⟩
  · -- The failure would be one of the replies, which are all served.
    obtain ⟨⟨request, reply⟩, hexchange, habort⟩ :=
      List.exists_of_findSome?_eq_some (failure?_of_refresh h)
    have hsurveys := (asksOnly_refresh c).of_mem h _ hexchange
    obtain rfl : reply = (store.serve request).1 := hreplies _ hexchange
    rw [abort?_serve store request hsurveys] at habort
    cases habort

/-! ### Stores of the same content -/

section Kept

variable (hkept : Store.Kept store after)

include hkept

theorem nodeGroupIn?_of_kept :
    nodeGroupIn? settings payload after = nodeGroupIn? settings payload store := by
  have hsight : sightIn after = sightIn store := by
    funext group
    rw [sightIn, sightIn]
    congr 1
    exact List.map_congr_left fun m _ => Store.serve_of_kept hkept trivial
  funext group
  rw [nodeGroupIn?, nodeGroupIn?, hsight, hkept.groups]

theorem nodeGroupsIn_of_kept :
    nodeGroupsIn settings payload after = nodeGroupsIn settings payload store := by
  rw [nodeGroupsIn, nodeGroupsIn, nodeGroupIn?_of_kept hkept, hkept.groups]

theorem indexIn_of_kept (id : InstanceId) :
    indexIn settings payload after id = indexIn settings payload store id := by
  rw [indexIn, indexIn, surfacedIn, surfacedIn, nodeGroupIn?_of_kept hkept, hkept.groups]

end Kept

end ElasticGroups.Discovery
