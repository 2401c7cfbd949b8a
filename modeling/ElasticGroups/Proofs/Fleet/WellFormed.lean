import ElasticGroups.Proofs.Discovery.Consensus
import ElasticGroups.Proofs.Discovery.Rounds
import ElasticGroups.Proofs.Fleet.Operations

/-!
# Well-formed catalogs

What a catalog holds at all times, whatever happens to the store that it discovers its groups in.
Its two parts, the node groups and the index of the instances, fit each other and the last complete
cycle.

The module introduces:

* `WellFormed record c` — the catalog is well formed, and the record of its last complete cycle
  bears out what it holds;
* `Site` — a store, a catalog and the record of the last complete cycle;
* `Event`, `Site.after` — a change of the store or a cycle, and the site after it.

A complete cycle leaves a well-formed catalog (`WellFormed.of_survey`), because a store that can be
built lists no group twice. Nothing else changes the catalog, so it is well formed at every point of
every run (`wellFormed_of_run`).
-/

namespace ElasticGroups.Fleet

open Boot Cloud Discovery Scaling Session

/-- The listing in a record shows that a group lists an instance. -/
def Lists (record : List (Sigma Reply)) (groupId : GroupId) (id : InstanceId) : Prop :=
  ∃ groups, ⟨.listGroups, .ok groups⟩ ∈ record ∧
    ∃ group ∈ groups, group.id = groupId ∧ group.hasMember id = true

/-- A look-up in a record shows an instance that is not deleted. -/
def ShowsLive (record : List (Sigma Reply)) (id : InstanceId) : Prop :=
  ∃ i, ⟨.getInstance id, .ok i⟩ ∈ record ∧ i.isDeleted = false

/-- The node groups and the index of a catalog fit each other and the record of the last complete
cycle. -/
structure WellFormed (record : List (Sigma Reply)) (c : Catalog) : Prop where
  /-- The node groups have different names. -/
  distinct : (c.nodeGroups.map (·.id)).Nodup
  /-- The bounds of a node group leave room. -/
  bounds : ∀ g ∈ c.nodeGroups, g.bounds.min < g.bounds.max
  /-- New instances have a type and an image. -/
  usable : ∀ g ∈ c.nodeGroups, g.template.instanceType ≠ "" ∧ g.template.imageId ≠ ""
  /-- New instances join the group. -/
  own : ∀ g ∈ c.nodeGroups, g.template.groupId = g.id
  /-- New instances join no group twice. -/
  apart : ∀ g ∈ c.nodeGroups, g.template.groupIds.Nodup
  /-- The cycle has seen a live member of the group. -/
  live : ∀ g ∈ c.nodeGroups, ∃ id, Lists record g.id id ∧ ShowsLive record id
  /-- The instances with a node group are those in the index. -/
  known : ∀ r : InstanceRef, (c.nodeGroupFor r).isSome ↔ (c.membership.find? r.id).isSome
  /-- The node group of an instance is the only one of the indexed name, and its group listed the
  instance. -/
  found : ∀ r g, c.nodeGroupFor r = some g →
    c.membership.find? r.id = some g.id ∧ (∀ other ∈ c.nodeGroups, other.id = g.id ↔ other = g) ∧
      g ∈ c.nodeGroups ∧ Lists record g.id r.id

/-- With all names different, the node group of an instance is the one of the indexed name. -/
theorem nodeGroupFor_eq_some_iff {c : Catalog} {r : InstanceRef} {g : NodeGroup}
    (hdistinct : (c.nodeGroups.map (·.id)).Nodup) :
    c.nodeGroupFor r = some g ↔ c.membership.find? r.id = some g.id ∧ g ∈ c.nodeGroups := by
  rw [Catalog.nodeGroupFor, Option.bind_eq_bind, Option.bind_eq_some_iff]
  simp only [find?_eq_some_iff_of_nodup hdistinct]
  constructor
  · rintro ⟨_, hindex, hg, rfl⟩
    exact ⟨hindex, hg⟩
  · rintro ⟨hindex, hg⟩
    exact ⟨g.id, hindex, hg, rfl⟩

namespace WellFormed

variable {record : List (Sigma Reply)} {c : Catalog}

/-- A catalog that has found nothing is well formed. -/
theorem empty (settings : Settings) (payload : Payload) : WellFormed [] { settings, payload } where
  distinct := List.nodup_nil
  bounds := List.forall_mem_nil _
  usable := List.forall_mem_nil _
  own := List.forall_mem_nil _
  apart := List.forall_mem_nil _
  live := List.forall_mem_nil _
  known := fun _ => .rfl
  found := fun _ _ h => by cases h

section Survey

variable {groups : List InstanceGroup} {sightings : List Sighting}
  (h : Survey c.settings c.payload record groups sightings c.found)

include h

/-- The group of a node group lists an instance that a look-up shows live. -/
theorem exists_live {g : NodeGroup} (hg : g ∈ c.nodeGroups) :
    ∃ id, Lists record g.id id ∧ ShowsLive record id := by
  obtain ⟨s, hs, hgroup, bounds, attributes, -, hconsensus, rfl⟩ := h.exists_sighting hg
  -- Members that have a consensus are not none.
  have hmembers := (ne_empty_of_ofMembers hconsensus).1
  obtain ⟨i, hi⟩ := List.exists_mem_of_ne_nil _ hmembers
  obtain ⟨m, hm, hexchange, hlive⟩ := (h.complete s hs).exists_exchange hi
  have hlists : s.group.hasMember m.id = true :=
    InstanceGroup.hasMember_iff.mpr (List.mem_map_of_mem hm)
  exact ⟨m.id, ⟨groups, h.listing_mem, s.group, List.mem_of_mem_filter hgroup, rfl, hlists⟩,
    i, h.exchange_mem hs hexchange, hlive⟩

/-- The indexed name of an instance is that of a node group, whose group lists the instance. -/
theorem exists_nodeGroup {id : InstanceId} {groupId : GroupId}
    (hindex : c.membership.find? id = some groupId) :
    ∃ g ∈ c.nodeGroups, g.id = groupId ∧ Lists record groupId id := by
  obtain ⟨group, hgroup, rfl, hlists⟩ := h.exists_lister hindex
  have hid : group.id ∈ c.nodeGroups.map (·.id) := by
    rw [Catalog.nodeGroups, h.map_id]
    exact List.mem_map_of_mem hgroup
  obtain ⟨g, hg, hgid⟩ := List.mem_map.mp hid
  exact ⟨g, hg, hgid, groups, h.listing_mem, group, h.surfaced_sublist.subset hgroup, rfl, hlists⟩

/-- A complete cycle leaves a well-formed catalog, if its listing names no group twice and the
parent is none of the groups to scale. -/
theorem of_survey (hgroups : (groups.map (·.id)).Nodup)
    (hapart : ∀ g ∈ c.nodeGroups, g.template.groupIds.Nodup) : WellFormed record c := by
  have hdistinct : (c.nodeGroups.map (·.id)).Nodup := by
    rw [Catalog.nodeGroups, h.map_id]
    exact hgroups.sublist (h.surfaced_sublist.map _)
  have hfind := fun r g => @nodeGroupFor_eq_some_iff c r g hdistinct
  constructor
  case distinct => exact hdistinct
  case apart => exact hapart
  case live => exact fun g hg => exists_live h hg
  case bounds =>
    intro g hg
    obtain ⟨s, -, -, bounds, attributes, hbounds, -, rfl⟩ := h.exists_sighting hg
    exact Bounds.lt_of_parse? hbounds
  case usable =>
    intro g hg
    obtain ⟨s, -, -, bounds, attributes, -, hconsensus, rfl⟩ := h.exists_sighting hg
    exact (ne_empty_of_ofMembers hconsensus).2
  case own =>
    intro g hg
    obtain ⟨s, -, -, bounds, attributes, -, -, rfl⟩ := h.exists_sighting hg
    rfl
  case known =>
    intro r
    constructor
    · intro hknown
      obtain ⟨g, hr⟩ := Option.isSome_iff_exists.mp hknown
      rw [((hfind r g).mp hr).1]
      rfl
    · intro hknown
      obtain ⟨groupId, hindex⟩ := Option.isSome_iff_exists.mp hknown
      obtain ⟨g, hg, rfl, -⟩ := exists_nodeGroup h hindex
      exact Option.isSome_iff_exists.mpr ⟨g, (hfind r g).mpr ⟨hindex, hg⟩⟩
  case found =>
    intro r g hr
    obtain ⟨hindex, hg⟩ := (hfind r g).mp hr
    obtain ⟨-, -, -, hlists⟩ := exists_nodeGroup h hindex
    refine ⟨hindex, fun other hother => ?_, hg, hlists⟩
    exact ⟨fun hid => List.inj_on_of_nodup_map hdistinct hother hg hid, congrArg NodeGroup.id⟩

end Survey

end WellFormed

/-! ### Runs -/

/-- A store, a catalog and the record of the last complete cycle. -/
structure Site where
  /-- The store and the time. -/
  world : World Store
  /-- The catalog. -/
  catalog : Catalog
  /-- What was asked and replied in the last complete cycle. -/
  latest : List (Sigma Reply) := []

/-- What may happen at a site. -/
inductive Event
  /-- The store changes. -/
  | change (change : Store.Change)
  /-- The catalog runs a cycle. -/
  | refresh

namespace Site

variable (site : Site)

/-- The site after a cycle. A complete cycle is the latest one. -/
def refresh (clock : Clock) : Site :=
  let round := site.catalog.round clock Store.respond site.world
  { world := round.world
    catalog := round.catalog
    latest := if round.isComplete then round.record else site.latest }

/-- The site after an event. -/
def after (clock : Clock) (site : Site) : Event → Site
  | .change change =>
    { site with world := { site.world with partner := site.world.partner.apply change } }
  | .refresh => site.refresh clock

end Site

/-- What holds at a site at all times. -/
structure Site.Sound (site : Site) : Prop where
  /-- The store can be built. -/
  built : site.world.partner.Built
  /-- The catalog is well formed, as the last complete cycle bears out. -/
  wellFormed : WellFormed site.latest site.catalog

namespace Site.Sound

variable {clock : Clock} {site : Site} (h : site.Sound)

include h

theorem refresh : (site.refresh clock).Sound := by
  obtain ⟨htranscript, hgives⟩ := site.catalog.transcript_round clock Store.respond site.world
  refine ⟨h.built.of_gives hgives, ?_⟩
  rw [Site.refresh]
  dsimp only
  obtain ⟨found, hdiscover, hresult, hcatalog⟩ | ⟨error, hresult, hcatalog⟩ :=
    transcript_refresh htranscript
  · -- What was found replaces what the catalog held, and the record of it is the latest.
    obtain ⟨groups, sightings, hsurvey⟩ := survey_of_discover hdiscover
    have hgoverns := governs_of_discover hdiscover hgives
    rw [Round.isComplete_of_ok hresult, if_pos rfl, hcatalog]
    -- The listing shows the groups of the store, which have different names.
    have hgroups : groups = site.world.partner.groups := by
      rw [hsurvey.record_eq] at hgives
      exact Store.groups_of_reply hgives.1
    refine .of_survey hsurvey ?_ fun g hg => (hgoverns g hg).nodup_groupIds h.built.distinct
    rw [hgroups]
    exact h.built.distinct
  · rw [Round.isComplete_of_error hresult, if_neg (by simp), hcatalog]
    exact h.wellFormed

theorem after (event : Event) : (site.after clock event).Sound := by
  cases event with
  | change change => exact ⟨h.built.apply change, h.wellFormed⟩
  | refresh => exact h.refresh

/-- Every run keeps a site sound. -/
theorem run (events : List Event) : (events.foldl (Site.after clock) site).Sound := by
  induction events generalizing site with
  | nil => exact h
  | cons event rest ih => exact ih (h.after event)

end Site.Sound

/-- Start with an empty store and a catalog that has found nothing. Whatever is put into the store,
whatever it is asked, however it fails or stalls, and whenever the catalog runs a cycle, complete or
not: the catalog is well formed, and the record of the last complete cycle bears out what it
holds. -/
theorem wellFormed_of_run (clock : Clock) (now : Duration) (settings : Settings) (payload : Payload)
    (events : List Event) :
    let site := events.foldl (Site.after clock)
      { world := ⟨{}, now⟩, catalog := { settings, payload } }
    WellFormed site.latest site.catalog := by
  have hstart : Site.Sound { world := ⟨{}, now⟩, catalog := { settings, payload } } :=
    ⟨.empty, .empty settings payload⟩
  exact (hstart.run events).wellFormed

end ElasticGroups.Fleet
