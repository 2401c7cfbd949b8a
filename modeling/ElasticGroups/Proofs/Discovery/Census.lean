import ElasticGroups.Discovery.Catalog
import ElasticGroups.Proofs.Cloud.Members
import ElasticGroups.Proofs.OrderedMap

/-!
# The census of a cycle

What the findings of a cycle add up to. Everything is told by the groups that were surfaced, in
the order of the listing:

* the node groups are theirs (`Census.nodeGroups_ofFindings`);
* an instance belongs to the last of them that lists it (`Census.find?_ofFindings`), and so the
  number of indexed instances is the number of instances that they list
  (`Census.size_ofFindings`);
* the findings that surface no group are skipped (`Census.skipped_ofFindings`).
-/

namespace ElasticGroups.Discovery

open Cloud Scaling

/-- The group that a finding surfaces, with its node group. -/
def Finding.surfaced? : Finding → Option (InstanceGroup × NodeGroup)
  | .skipped => none
  | .surfaced group nodeGroup => some (group, nodeGroup)

/-- The groups that findings surface, with their node groups. -/
def surfacedBy (findings : List Finding) : List (InstanceGroup × NodeGroup) :=
  findings.filterMap Finding.surfaced?

@[simp] theorem surfacedBy_skipped (findings : List Finding) :
    surfacedBy (.skipped :: findings) = surfacedBy findings := rfl

@[simp] theorem surfacedBy_surfaced (group : InstanceGroup) (nodeGroup : NodeGroup)
    (findings : List Finding) :
    surfacedBy (.surfaced group nodeGroup :: findings) =
      (group, nodeGroup) :: surfacedBy findings := rfl

/-- The last of some groups that lists an instance. -/
def lastLister? (groups : List InstanceGroup) (id : InstanceId) : Option InstanceGroup :=
  (groups.filter (·.hasMember id)).getLast?

/-- The instances that some groups list. -/
def listedIn (groups : List InstanceGroup) : List InstanceId :=
  groups.flatMap fun group => group.members.map (·.id)

/-- There is a last group that lists an instance when one of the groups does. -/
theorem isSome_lastLister?_iff {groups : List InstanceGroup} {id : InstanceId} :
    (lastLister? groups id).isSome = true ↔ ∃ group ∈ groups, group.hasMember id = true := by
  rw [lastLister?, List.getLast?_isSome, ← List.length_pos_iff, List.length_filter_pos_iff]

theorem mem_of_lastLister? {groups : List InstanceGroup} {id : InstanceId} {group : InstanceGroup}
    (h : lastLister? groups id = some group) : group ∈ groups ∧ group.hasMember id = true :=
  List.mem_filter.mp (List.mem_of_getLast? h)

/-- Changes of the groups that do not touch an instance do not change which group lists it last. -/
theorem lastLister?_map {groups : List InstanceGroup} {id : InstanceId}
    {change : InstanceGroup → InstanceGroup}
    (h : ∀ group ∈ groups, (change group).hasMember id = group.hasMember id) :
    lastLister? (groups.map change) id = (lastLister? groups id).map change := by
  rw [lastLister?, List.filter_map, List.getLast?_map, lastLister?]
  congr 2
  exact List.filter_congr h

/-- An instance is listed when there is a last group that lists it. -/
theorem mem_listedIn_iff {groups : List InstanceGroup} {id : InstanceId} :
    id ∈ listedIn groups ↔ (lastLister? groups id).isSome = true := by
  rw [isSome_lastLister?_iff, listedIn, List.mem_flatMap]
  simp only [InstanceGroup.hasMember_iff]

/-- One more group at the front lists an instance last only when no other group lists it. -/
theorem lastLister?_cons (group : InstanceGroup) (groups : List InstanceGroup) (id : InstanceId) :
    lastLister? (group :: groups) id =
      (lastLister? groups id).or (if group.hasMember id then some group else none) := by
  rw [lastLister?, List.filter_cons]
  by_cases h : group.hasMember id = true
  · rw [if_pos h, if_pos h, List.getLast?_cons, lastLister?]
    cases (groups.filter (·.hasMember id)).getLast? <;> rfl
  · rw [if_neg h, if_neg h, Option.or_none, lastLister?]

namespace Census

/-- A surfaced group adds its members to the index. -/
theorem membership_add_surfaced (d : Census) (group : InstanceGroup) (nodeGroup : NodeGroup) :
    (d.add (.surfaced group nodeGroup)).membership =
      d.membership.insertAll (group.members.map (·.id)) group.id := by
  rw [OrderedMap.insertAll, List.foldl_map]
  rfl

variable (findings : List Finding)

/-- Adding findings appends the node groups that they surface. -/
theorem nodeGroups_foldl_add (d : Census) :
    (findings.foldl add d).nodeGroups = d.nodeGroups ++ (surfacedBy findings).map (·.2) := by
  induction findings generalizing d with
  | nil => exact (List.append_nil _).symm
  | cons finding rest ih =>
    rw [List.foldl_cons, ih]
    cases finding <;> simp [add]

/-- Adding findings indexes what the groups list that they surface; the last group wins. -/
theorem find?_foldl_add (d : Census) (id : InstanceId) :
    (findings.foldl add d).membership.find? id =
      ((lastLister? ((surfacedBy findings).map (·.1)) id).map (·.id)).or
        (d.membership.find? id) := by
  induction findings generalizing d with
  | nil => rfl
  | cons finding rest ih =>
    rw [List.foldl_cons, ih]
    cases finding with
    | skipped => rfl
    | surfaced group nodeGroup =>
      -- The later groups are asked first, then this one, then what was indexed before.
      rw [surfacedBy_surfaced, List.map_cons, lastLister?_cons, membership_add_surfaced,
        OrderedMap.find?_insertAll]
      simp only [← InstanceGroup.hasMember_iff]
      cases lastLister? ((surfacedBy rest).map (·.1)) id with
      | some last => rfl
      | none => by_cases h : group.hasMember id = true <;> simp [h]

/-- Adding findings counts those that surface no group. -/
theorem skipped_foldl_add (d : Census) :
    (surfacedBy findings).length + (findings.foldl add d).skipped =
      findings.length + d.skipped := by
  induction findings generalizing d with
  | nil => rfl
  | cons finding rest ih =>
    have hrest := ih (d.add finding)
    cases finding with
    | skipped =>
      simp only [add] at hrest
      rw [surfacedBy_skipped, List.foldl_cons, add, List.length_cons, hrest]
      omega
    | surfaced group nodeGroup =>
      simp only [add] at hrest
      rw [surfacedBy_surfaced, List.foldl_cons, add, List.length_cons, List.length_cons]
      omega

/-- The node groups of a census are those that the findings surface, in their order. -/
theorem nodeGroups_ofFindings :
    (ofFindings findings).nodeGroups = (surfacedBy findings).map (·.2) :=
  nodeGroups_foldl_add findings {}

/-- An instance belongs to the last surfaced group that lists it. -/
theorem find?_ofFindings (id : InstanceId) :
    (ofFindings findings).membership.find? id =
      (lastLister? ((surfacedBy findings).map (·.1)) id).map (·.id) := by
  rw [ofFindings, find?_foldl_add]
  exact Option.or_none

/-- As many instances are indexed as the surfaced groups list, each counted once. -/
theorem size_ofFindings :
    (ofFindings findings).membership.size =
      (listedIn ((surfacedBy findings).map (·.1))).toFinset.card := by
  refine OrderedMap.size_eq_card _ fun id => ?_
  rw [List.mem_toFinset, mem_listedIn_iff, find?_ofFindings, Option.isSome_map]

/-- Every finding surfaces a group or is skipped. -/
theorem skipped_ofFindings :
    (surfacedBy findings).length + (ofFindings findings).skipped = findings.length :=
  skipped_foldl_add findings {}

end Census

end ElasticGroups.Discovery
