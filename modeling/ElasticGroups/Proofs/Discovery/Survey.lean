import ElasticGroups.Proofs.Discovery.Cycle

/-!
# What a complete cycle comes to

A complete cycle turns the replies that it has got into a census, and nothing else takes part in
that. The module introduces `Survey settings payload record groups sightings found`, which says so
of a record and the census that was found: the record is a listing followed by the look-ups of the
members of its candidates, and the census is what these make of the candidates.

Every complete cycle is a survey (`survey_of_discover`), and a record leaves it no choice of its
census (`Survey.unique`).
-/

namespace ElasticGroups.Discovery

open Boot Cloud Scaling Session

variable {clock : Clock} {record : List (Sigma Reply)} {settings : Settings} {payload : Payload}

/-- What a complete cycle comes to. The replies in its record tell all of it (`Survey.unique`). -/
structure Survey (settings : Settings) (payload : Payload) (record : List (Sigma Reply))
    (groups : List InstanceGroup) (sightings : List Sighting) (found : Census) : Prop where
  /-- The groups are listed, and then the members of the candidates are looked up. -/
  record_eq : record = ⟨.listGroups, .ok groups⟩ :: sightings.flatMap (·.exchanges)
  /-- The candidates come in the order of the listing. -/
  candidates : sightings.map (·.group) = groups.filter (candidate settings)
  /-- Every look-up showed a record or that there is none. -/
  complete : ∀ s ∈ sightings, s.Complete
  /-- The node groups are those that the replies make of the candidates. -/
  nodeGroups : found.nodeGroups =
    sightings.filterMap (·.nodeGroup? settings payload (parentGroup? settings groups))
  /-- An instance belongs to the last surfaced group that lists it. -/
  membership : ∀ id, found.membership.find? id =
    (lastLister? (surfaced settings payload (parentGroup? settings groups) sightings) id).map (·.id)
  /-- The other groups of the cluster are skipped. -/
  skipped : found.nodeGroups.length + found.skipped = (groups.filter (ofCluster settings)).length

namespace Survey

variable {groups : List InstanceGroup} {sightings : List Sighting} {found : Census}
  (h : Survey settings payload record groups sightings found)

include h

theorem listing_mem : ⟨.listGroups, .ok groups⟩ ∈ record := by
  rw [h.record_eq]
  exact List.mem_cons_self

theorem exchange_mem {s : Sighting} (hs : s ∈ sightings) {exchange : Sigma Reply}
    (hexchange : exchange ∈ s.exchanges) : exchange ∈ record := by
  rw [h.record_eq]
  exact List.mem_cons_of_mem _ (List.mem_flatMap.mpr ⟨s, hs, hexchange⟩)

/-- The groups that a cycle surfaces come in the order of the listing. -/
theorem surfaced_sublist :
    (surfaced settings payload (parentGroup? settings groups) sightings).Sublist groups := by
  have hsublist :=
    @Discovery.surfaced_sublist settings payload (parentGroup? settings groups) sightings
  rw [h.candidates] at hsublist
  exact hsublist.trans List.filter_sublist

theorem map_id : found.nodeGroups.map (·.id) =
    (surfaced settings payload (parentGroup? settings groups) sightings).map (·.id) := by
  rw [h.nodeGroups, map_id_nodeGroups]

/-- A node group is made of a candidate with bounds, whose live members have a consensus. -/
theorem exists_sighting {g : NodeGroup} (hg : g ∈ found.nodeGroups) :
    ∃ s ∈ sightings, s.group ∈ groups.filter (candidate settings) ∧ ∃ bounds attributes,
      Bounds.parse? s.group.description = some bounds ∧
        LaunchAttributes.ofMembers settings.conflictPolicy s.live = .ok attributes ∧
        g = nodeGroupOf settings payload (parentGroup? settings groups) s.group bounds
          attributes := by
  rw [h.nodeGroups, List.mem_filterMap] at hg
  obtain ⟨s, hs, hg⟩ := hg
  refine ⟨s, hs, ?_, s.nodeGroup?_eq_some_iff.mp hg⟩
  rw [← h.candidates]
  exact List.mem_map_of_mem hs

/-- An instance in the index is listed by a surfaced group of the indexed name. -/
theorem exists_lister {id : InstanceId} {groupId : GroupId}
    (hindex : found.membership.find? id = some groupId) :
    ∃ group ∈ surfaced settings payload (parentGroup? settings groups) sightings,
      group.id = groupId ∧ group.hasMember id = true := by
  rw [h.membership, Option.map_eq_some_iff] at hindex
  obtain ⟨group, hlast, hid⟩ := hindex
  obtain ⟨hgroup, hlists⟩ := mem_of_lastLister? hlast
  exact ⟨group, hgroup, hid, hlists⟩

end Survey

/-- A complete sighting of a group is told by its look-ups. -/
theorem Sighting.eq_of_exchanges_eq {s s' : Sighting} (hgroup : s.group = s'.group)
    (hs : s.Complete) (hs' : s'.Complete) (h : s.exchanges = s'.exchanges) : s = s' := by
  obtain ⟨group, replies⟩ := s
  obtain ⟨_, replies'⟩ := s'
  obtain rfl : group = _ := hgroup
  have hlength : replies.length = group.members.length := hs.1
  have hlength' : replies'.length = group.members.length := hs'.1
  have hreplies : replies = replies' := by
    refine List.ext_getElem (hlength.trans hlength'.symm) fun n hn hn' => ?_
    have hmember : n < group.members.length := hlength ▸ hn
    have hget := congrArg (·[n]?) h
    simpa [exchanges, List.getElem?_zipWith, hmember, hn, hn'] using hget
  rw [hreplies]

/-- Complete sightings of the same groups are told by their look-ups. -/
theorem eq_of_flatMap_exchanges_eq {sightings sightings' : List Sighting}
    (hgroups : sightings.map (·.group) = sightings'.map (·.group))
    (hcomplete : ∀ s ∈ sightings, s.Complete) (hcomplete' : ∀ s ∈ sightings', s.Complete)
    (h : sightings.flatMap (·.exchanges) = sightings'.flatMap (·.exchanges)) :
    sightings = sightings' := by
  induction sightings generalizing sightings' with
  | nil => exact (List.map_eq_nil_iff.mp hgroups.symm).symm
  | cons s rest ih =>
    obtain _ | ⟨s', rest'⟩ := sightings'
    · simp at hgroups
    obtain ⟨hgroup, hrest⟩ : s.group = s'.group ∧ rest.map (·.group) = rest'.map (·.group) :=
      List.cons.inj hgroups
    obtain ⟨hs, hcomplete⟩ := List.forall_mem_cons.mp hcomplete
    obtain ⟨hs', hcomplete'⟩ := List.forall_mem_cons.mp hcomplete'
    -- Both have as many look-ups as the group has members.
    have hlength : s.exchanges.length = s'.exchanges.length := by
      rw [Sighting.exchanges, Sighting.exchanges, List.length_zipWith, List.length_zipWith, hs.1,
        hs'.1, hgroup]
    rw [List.flatMap_cons, List.flatMap_cons] at h
    obtain ⟨hfirst, hlater⟩ := List.append_inj h hlength
    rw [Sighting.eq_of_exchanges_eq hgroup hs hs' hfirst, ih hrest hcomplete hcomplete' hlater]

/-- A record leaves a complete cycle no choice of what it finds. -/
theorem Survey.unique {groups groups' : List InstanceGroup} {sightings sightings' : List Sighting}
    {found found' : Census} (h : Survey settings payload record groups sightings found)
    (h' : Survey settings payload record groups' sightings' found') :
    found.nodeGroups = found'.nodeGroups ∧
      (∀ id, found.membership.find? id = found'.membership.find? id) ∧
      found.skipped = found'.skipped := by
  have hrecord := h.record_eq.symm.trans h'.record_eq
  obtain ⟨hlisting, hlookups⟩ := List.cons.inj hrecord
  obtain rfl : groups = groups' := by simpa using hlisting
  obtain rfl : sightings = sightings' := eq_of_flatMap_exchanges_eq
    (h.candidates.trans h'.candidates.symm) h.complete h'.complete hlookups
  have hnodeGroups : found.nodeGroups = found'.nodeGroups := h.nodeGroups.trans h'.nodeGroups.symm
  refine ⟨hnodeGroups, fun id => (h.membership id).trans (h'.membership id).symm, ?_⟩
  have hcount := h.skipped.trans h'.skipped.symm
  rw [hnodeGroups] at hcount
  exact Nat.add_left_cancel hcount

/-- What a complete cycle found is what its record comes to. -/
theorem survey_of_discover {found : Census}
    (h : (discover settings payload).run.Transcript clock record (.ok found)) :
    ∃ groups sightings, Survey settings payload record groups sightings found := by
  obtain ⟨groups, findings, sightings, hrecord, hcandidates, hcomplete, rfl, hlength, hsurfaced⟩ :=
    sightings_of_discover h
  obtain ⟨hgroups, hnodeGroups⟩ :=
    @map_surfaced settings payload (parentGroup? settings groups) sightings
  -- What the sightings surface is what the findings surface, of which the census is made.
  rw [← hsurfaced] at hgroups hnodeGroups
  refine ⟨groups, sightings, hrecord, hcandidates, hcomplete, ?_, fun id => ?_, ?_⟩
  · rw [Census.nodeGroups_ofFindings, hnodeGroups]
  · rw [Census.find?_ofFindings, hgroups]
  · rw [← hlength, ← Census.skipped_ofFindings findings, Census.nodeGroups_ofFindings,
      List.length_map]

end ElasticGroups.Discovery
