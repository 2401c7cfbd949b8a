import ElasticGroups.Cloud.InstanceGroup
import Mathlib.Data.List.Count
import Mathlib.Data.List.Nodup

/-!
# Members of a group

How a member that is added or dropped shows in the list and in the size of a group, and which
groups a new instance names.
-/

namespace ElasticGroups.Cloud

namespace InstanceGroup

variable {group : InstanceGroup} {id : InstanceId}

/-- A group lists an instance when the name of the instance is among those of its members. -/
theorem hasMember_iff : group.hasMember id = true ↔ id ∈ group.members.map (·.id) := by
  simp [hasMember]

theorem hasMember_addMember {m : Member} :
    (group.addMember m).hasMember id = true ↔ group.hasMember id = true ∨ m.id = id := by
  simp [hasMember, addMember]

theorem hasMember_dropMember {dropped : InstanceId} :
    (group.dropMember dropped).hasMember id = true ↔
      group.hasMember id = true ∧ id ≠ dropped := by
  simp only [hasMember, dropMember, List.any_filter, List.any_eq_true, Bool.and_eq_true,
    decide_eq_true_eq]
  constructor
  · rintro ⟨m, hm, hne, rfl⟩
    exact ⟨⟨m, hm, rfl⟩, hne⟩
  · rintro ⟨⟨m, hm, rfl⟩, hne⟩
    exact ⟨m, hm, hne, rfl⟩

@[simp] theorem size_addMember (m : Member) : (group.addMember m).size = group.size + 1 := by
  simp [size, addMember]

/-- Taking an instance off the list makes no group larger. -/
theorem size_dropMember_le : (group.dropMember id).size ≤ group.size :=
  List.length_filter_le _ _

/-- An instance that is not listed is not taken off the list. -/
theorem dropMember_of_not_hasMember (h : group.hasMember id = false) :
    group.dropMember id = group := by
  have hall : ∀ m ∈ group.members, decide (m.id ≠ id) = true := by
    intro m hm
    refine decide_eq_true fun hid => ?_
    have := hasMember_iff.mpr (List.mem_map.mpr ⟨m, hm, hid⟩)
    rw [h] at this
    cases this
  rw [dropMember, List.filter_eq_self.mpr hall]

/-- A group that lists no instance twice loses one member at most. -/
theorem size_le_dropMember (h : (group.members.map (·.id)).Nodup) :
    group.size ≤ (group.dropMember id).size + 1 := by
  have hcount : group.members.countP (fun m => m.id = id) ≤ 1 := by
    have hids := List.nodup_iff_count_le_one.mp h id
    rw [List.count, List.countP_map] at hids
    exact hids
  have hsplit := @List.length_eq_countP_add_countP _ (fun m : Member => m.id = id) group.members
  have hkept : (group.dropMember id).size =
      group.members.countP fun m => decide ¬decide (m.id = id) = true := by
    rw [size, dropMember, ← List.countP_eq_length_filter]
    simp
  rw [hkept, size]
  omega

end InstanceGroup

namespace LaunchTemplate

variable {template : LaunchTemplate} {id : InstanceId} {group : GroupId}

/-- A new instance names the groups that its template names. -/
theorem inGroup_instantiate :
    (template.instantiate id).inGroup group = true ↔ group ∈ template.groupIds := by
  simp [Instance.inGroup, instantiate]

/-- A template names its own group and the parent. -/
theorem mem_groupIds :
    group ∈ template.groupIds ↔ template.parentGroupId = some group ∨ group = template.groupId := by
  simp [groupIds]

/-- A template names no group twice when the parent is another group. -/
theorem nodup_groupIds (h : template.parentGroupId ≠ some template.groupId) :
    template.groupIds.Nodup := by
  cases hparent : template.parentGroupId with
  | none => simp [groupIds, hparent]
  | some parent =>
    rw [hparent] at h
    simpa [groupIds, hparent] using h

end LaunchTemplate

end ElasticGroups.Cloud
