import ElasticGroups.Proofs.Cloud.Groups
import ElasticGroups.Proofs.Cloud.Members
import ElasticGroups.Proofs.Text.Numeral

/-!
# Coherent stores

A store is coherent when what its groups list is what its instances say: no group lists an
instance twice, and a group lists exactly the live instances that name it. The requests of a store
keep it coherent as long as new instances get names that are not taken and name no group twice.

The module introduces:

* `Store.Coherent` — the agreement of groups and instances;
* `Store.FreshUpTo limit` — the names that the store gives out next, up to a limit, are not taken;
* `Store.Registered before i after` — a record comes into a store, and onto the lists of the groups
  that it names.

A store stays coherent when a record of a free name comes in (`Store.Coherent.of_registered`), which
is what launching an instance does.

What one request does to the size of a group is told apart by its effect: launching an instance
adds one member to each group that it names (`sizeOf_of_launched`), and retiring one takes one
member off each group that lists it (`sizeOf_of_retired`).
-/

namespace ElasticGroups.Cloud

namespace Store

/-- The groups of a store list exactly its live instances, each once. -/
structure Coherent (store : Store) : Prop where
  /-- No group lists an instance twice. -/
  nodup : ∀ group ∈ store.groups, (group.members.map (·.id)).Nodup
  /-- A group lists the live instances that name it. -/
  listed : ∀ group ∈ store.groups, ∀ id, group.hasMember id = true ↔
    ∃ i, store.instances.find? id = some i ∧ i.isDeleted = false ∧ i.inGroup group.id = true

/-- The names that the store gives out next, up to a limit, are not taken. -/
def FreshUpTo (limit : Nat) (store : Store) : Prop :=
  ∀ n, store.created < n → n ≤ limit → store.instances.find? (newId n) = none

/-- Different numbers give different names. -/
theorem newId_injective : Function.Injective newId := by
  intro m n h
  refine Text.hexadecimal_injective 5 (String.toList_inj.mp ?_)
  have hlists := congrArg String.toList h
  rw [newId, newId, String.toList_append, String.toList_append] at hlists
  exact List.append_cancel_left hlists

variable {store after : Store}

/-! ### Keeping the content -/

theorem Coherent.of_kept (hkept : Kept store after) (h : store.Coherent) : after.Coherent where
  nodup := by
    rw [hkept.groups]
    exact h.nodup
  listed := by
    rw [hkept.groups, hkept.instances]
    exact h.listed

theorem FreshUpTo.of_kept {limit : Nat} (hkept : Kept store after)
    (h : store.FreshUpTo limit) : after.FreshUpTo limit := by
  intro n hn hlimit
  rw [hkept.instances]
  exact h n (Nat.lt_of_le_of_lt hkept.created hn) hlimit

theorem sizeOf_of_kept (hkept : Kept store after) (id : GroupId) :
    after.sizeOf id = store.sizeOf id := by
  unfold sizeOf group?
  rw [hkept.groups]

/-! ### Taking in a record -/

/-- A record comes into a store under its name. Unless it is that of a deleted instance, the groups
that it names list it. -/
structure Registered (before : Store) (i : Instance) (after : Store) : Prop where
  /-- The groups that the record names list it, too. -/
  groups : after.groups = before.groups.map fun group =>
    if i.isDeleted = false ∧ i.inGroup group.id = true then group.addMember i.member else group
  /-- The record is held under its name. -/
  instances : after.instances = before.instances.insert i.id i

/-- A coherent store lists no name that is not taken. -/
theorem Coherent.hasMember_eq_false (h : store.Coherent) {id : InstanceId}
    (hfree : store.instances.find? id = none) {group : InstanceGroup} (hgroup : group ∈ store.groups) :
    group.hasMember id = false := by
  refine eq_false_of_ne_true fun hlisted => ?_
  obtain ⟨i, hi, -⟩ := (h.listed group hgroup id).mp hlisted
  rw [hfree] at hi
  cases hi

/-- A store stays coherent when a record of a free name comes in. -/
theorem Coherent.of_registered {i : Instance} (hregistered : Registered store i after)
    (hfree : store.instances.find? i.id = none) (h : store.Coherent) : after.Coherent := by
  constructor
  · rw [hregistered.groups, List.forall_mem_map]
    intro group hgroup
    split
    · rw [InstanceGroup.addMember, List.map_append]
      refine List.nodup_append.mpr ⟨h.nodup group hgroup, by simp, ?_⟩
      rintro id hid _ hnew rfl
      obtain rfl := List.mem_singleton.mp hnew
      exact ne_true_of_eq_false (h.hasMember_eq_false hfree hgroup)
        (InstanceGroup.hasMember_iff.mpr hid)
    · exact h.nodup group hgroup
  · rw [hregistered.groups, List.forall_mem_map]
    intro group hgroup id
    rw [hregistered.instances, OrderedMap.find?_insert]
    by_cases hid : id = i.id
    · -- The new record is listed by the groups that it names, and by no other.
      subst hid
      rw [if_pos rfl]
      have hnew := h.hasMember_eq_false hfree hgroup
      split
      case isTrue hnames =>
        exact iff_of_true (InstanceGroup.hasMember_addMember.mpr (.inr rfl)) ⟨i, rfl, hnames⟩
      case isFalse hnames =>
        rw [hnew]
        refine iff_of_false (by simp) ?_
        rintro ⟨_, ⟨⟩, hlisted⟩
        exact hnames hlisted
    · rw [if_neg hid]
      split
      case isTrue hnames =>
        have hother : i.member.id ≠ id := fun h => hid h.symm
        rw [InstanceGroup.hasMember_addMember, or_iff_left hother]
        exact h.listed group hgroup id
      case isFalse hnames => exact h.listed group hgroup id

/-! ### Launching an instance -/

section Launched

variable {template : LaunchTemplate}
  (hdistinct : (store.groups.map (·.id)).Nodup) (hids : template.groupIds.Nodup)
  (hgroups : after.groups =
    (store.updateGroups template.groupIds
      (·.addMember (template.instantiate (newId (store.created + 1))).member)).groups)
  (hinstances : after.instances = store.instances.insert (newId (store.created + 1))
    (template.instantiate (newId (store.created + 1))))
  (hcreated : after.created = store.created + 1)

include hdistinct hids hgroups

/-- A launched instance is listed by the groups that its template names. -/
theorem groups_of_launched :
    after.groups = store.groups.map fun group =>
      if group.id ∈ template.groupIds then
        group.addMember (template.instantiate (newId (store.created + 1))).member
      else group :=
  hgroups.trans (groups_updateGroups hdistinct hids fun _ => rfl)

/-- Launching an instance adds one member to the groups that its template names. -/
theorem sizeOf_of_launched (id : GroupId) :
    store.sizeOf id ≤ after.sizeOf id ∧ after.sizeOf id ≤ store.sizeOf id + 1 ∧
      (id ∉ template.groupIds → after.sizeOf id = store.sizeOf id) := by
  have hfound := group?_of_map (fun group => by split <;> rfl)
    (groups_of_launched hdistinct hids hgroups) id
  unfold sizeOf
  rw [hfound]
  cases hgroup : store.group? id with
  | none => simp
  | some group =>
    obtain rfl : group.id = id := ((group?_eq_some_iff hdistinct).mp hgroup).2
    by_cases hid : group.id ∈ template.groupIds
    · simp [hid]
    · simp [hid]

include hinstances

/-- Launching an instance takes in the record made from its template. -/
theorem registered_of_launched :
    Registered store (template.instantiate (newId (store.created + 1))) after where
  groups := by
    rw [groups_of_launched hdistinct hids hgroups]
    refine List.map_congr_left fun group _ => if_congr ?_ rfl rfl
    rw [LaunchTemplate.inGroup_instantiate, and_iff_right]
    rfl
  instances := hinstances

/-- A store with a free next name stays coherent when an instance is launched. -/
theorem Coherent.of_launched (hfree : store.instances.find? (newId (store.created + 1)) = none)
    (h : store.Coherent) : after.Coherent :=
  h.of_registered (registered_of_launched hdistinct hids hgroups hinstances) hfree

omit hdistinct hids hgroups

include hcreated

/-- The names behind the one that was given out are still not taken. -/
theorem FreshUpTo.of_launched {limit : Nat} (h : store.FreshUpTo limit) :
    after.FreshUpTo limit := by
  intro n hn hlimit
  rw [hcreated] at hn
  have hother : newId n ≠ newId (store.created + 1) := fun hid => by
    have := newId_injective hid
    omega
  rw [hinstances, OrderedMap.find?_insert, if_neg hother]
  exact h n (by omega) hlimit

end Launched

/-! ### Retiring an instance -/

section Retired

variable {id : InstanceId} {i : Instance} {limit : Nat}
  (hfound : store.instances.find? id = some i)
  (hgroups : after.groups = store.groups.map (·.dropMember id))
  (hinstances : after.instances = store.instances.insert id
    { i with status := "deleted", deletedAt := some store.clock })

include hgroups

/-- Retiring an instance takes one member off each group that lists it. -/
theorem sizeOf_of_retired (hdistinct : (store.groups.map (·.id)).Nodup) (h : store.Coherent)
    (groupId : GroupId) :
    after.sizeOf groupId ≤ store.sizeOf groupId ∧
      store.sizeOf groupId ≤ after.sizeOf groupId + 1 ∧
      ((∀ group ∈ store.groups, group.id = groupId → group.hasMember id = false) →
        after.sizeOf groupId = store.sizeOf groupId) := by
  have hmap := group?_of_map (fun group => InstanceGroup.frame_dropMember group id) hgroups groupId
  unfold sizeOf
  rw [hmap]
  cases hgroup : store.group? groupId with
  | none => simp
  | some group =>
    obtain ⟨hmem, hid⟩ := (group?_eq_some_iff hdistinct).mp hgroup
    refine ⟨InstanceGroup.size_dropMember_le,
      InstanceGroup.size_le_dropMember (h.nodup group hmem), fun hunlisted => ?_⟩
    have hdrop := InstanceGroup.dropMember_of_not_hasMember (hunlisted group hmem hid)
    simp [hdrop]

include hinstances

/-- A store stays coherent when an instance is retired. -/
theorem Coherent.of_retired (h : store.Coherent) : after.Coherent := by
  constructor
  · rw [hgroups, List.forall_mem_map]
    intro group hgroup
    exact (h.nodup group hgroup).sublist (List.filter_sublist.map _)
  · rw [hgroups, List.forall_mem_map]
    intro group hgroup other
    rw [InstanceGroup.hasMember_dropMember, h.listed group hgroup, hinstances,
      OrderedMap.find?_insert]
    by_cases hother : other = id
    · -- The retired instance is off all lists, and its record is that of a deleted one.
      rw [if_pos hother]
      refine iff_of_false (fun hne => hne.2 hother) ?_
      rintro ⟨_, ⟨⟩, hlive, -⟩
      cases hlive
    · rw [if_neg hother, and_iff_left hother]
      rfl

omit hgroups

include hfound

/-- The names to come are not taken after an instance is retired. -/
theorem FreshUpTo.of_retired (hcreated : after.created = store.created)
    (h : store.FreshUpTo limit) : after.FreshUpTo limit := by
  intro n hn hlimit
  rw [hcreated] at hn
  have hfree := h n hn hlimit
  -- The record that changes was in the store, so its name is none of those to come.
  have hother : newId n ≠ id := by
    rintro rfl
    rw [hfound] at hfree
    cases hfree
  rw [hinstances, OrderedMap.find?_insert, if_neg hother]
  exact hfree

end Retired

end Store

end ElasticGroups.Cloud
