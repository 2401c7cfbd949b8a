import ElasticGroups.Proofs.Cloud.Coherence
import ElasticGroups.Proofs.Discovery.Cycle

/-!
# Tending the groups of a cluster

What a store has to be like for the node groups of a cluster to stay within their bounds, and what
one request on behalf of a node group does to it.

The module introduces:

* `Orderly settings limit store` — the store is coherent, no live instance names two groups of the
  cluster, and the names to come are not taken;
* `Governs settings store g` — the node group is made for a group of the store: its bounds are
  those in the description, and its template names the group and no other group of the cluster;
* `Tended settings before after` — no group of the cluster is further outside its bounds than
  before, and the groups are the same but for their members;
* `Grown settings own count before after` — a group has got at most so many members more, and no
  other group of the cluster has changed its size.

An orderly store stays orderly when an instance is created from the template of a node group that
governs one of its groups, or when an instance is destroyed (`Orderly.create`,
`Orderly.destroy`). The parent group is none of the cluster (`ofCluster_eq_false`), so creating an
instance lets one group of the cluster grow (`Grown.create`); and since no instance is a member of
two of them, destroying one lets one of them shrink (`Tended.destroy`).
-/

namespace ElasticGroups.Fleet

open Cloud Discovery Scaling

variable {settings : Settings} {limit : Nat} {store before after : Store} {g : NodeGroup}

/-! ### The groups of the cluster -/

/-- The names of the groups of the cluster. -/
def clusterIds (settings : Settings) (store : Store) : List GroupId :=
  (store.groups.filter (ofCluster settings)).map (·.id)

theorem mem_clusterIds {id : GroupId} :
    id ∈ clusterIds settings store ↔
      ∃ group ∈ store.groups, ofCluster settings group = true ∧ group.id = id := by
  simp [clusterIds, and_assoc]

/-- A group named by the name of the cluster alone is no group of the cluster. -/
theorem ofCluster_eq_false {group : InstanceGroup} (h : group.name = settings.clusterName) :
    ofCluster settings group = false := by
  refine eq_false_of_ne_true fun hcluster => ?_
  -- A name that ends with a dot and the name of the cluster is longer than the latter.
  obtain ⟨stem, hstem⟩ := ofCluster_iff.mp hcluster
  have hlength := congrArg String.length (h.symm.trans hstem)
  rw [String.length_append, String.length_append] at hlength
  have hdot : ".".length = 1 := rfl
  omega

/-- The group of the name is one of the cluster, and its description holds the bounds. -/
def Bounded (settings : Settings) (store : Store) (id : GroupId) (bounds : Bounds) : Prop :=
  ∃ group ∈ store.groups, group.id = id ∧ ofCluster settings group = true ∧
    Bounds.parse? group.description = some bounds

/-- A group with bounds is one of the cluster. -/
theorem Bounded.mem_clusterIds {id : GroupId} {bounds : Bounds}
    (h : Bounded settings store id bounds) : id ∈ clusterIds settings store := by
  obtain ⟨group, hgroup, hid, hcluster, -⟩ := h
  exact Fleet.mem_clusterIds.mpr ⟨group, hgroup, hcluster, hid⟩

/-- With all names different, a name has one pair of bounds at most. -/
theorem Bounded.unique (hdistinct : (store.groups.map (·.id)).Nodup) {id : GroupId}
    {bounds bounds' : Bounds} (h : Bounded settings store id bounds)
    (h' : Bounded settings store id bounds') : bounds = bounds' := by
  obtain ⟨group, hgroup, rfl, -, hbounds⟩ := h
  obtain ⟨group', hgroup', hid, -, hbounds'⟩ := h'
  obtain rfl := List.inj_on_of_nodup_map hdistinct hgroup' hgroup hid
  exact Option.some.inj (hbounds.symm.trans hbounds')

section Frames

variable (hframes : after.groups.map (·.frame) = before.groups.map (·.frame))

include hframes

/-- The groups of the cluster are told by their frames. -/
theorem clusterIds_of_frames : clusterIds settings after = clusterIds settings before := by
  have hids : ∀ store : Store, clusterIds settings store =
      ((store.groups.map (·.frame)).filter
        fun frame => endsWith frame.2.1 settings.clusterSuffix).map (·.1) := by
    intro store
    rw [List.filter_map, List.map_map]
    rfl
  rw [hids, hids, hframes]

/-- Bounds are told by the frames of the groups. -/
theorem Bounded.of_frames {id : GroupId} {bounds : Bounds}
    (h : Bounded settings before id bounds) : Bounded settings after id bounds := by
  obtain ⟨group, hgroup, hid, hcluster, hbounds⟩ := h
  obtain ⟨group', hgroup', hframe⟩ := Store.exists_frame_eq hframes hgroup
  obtain ⟨hid', hname, hdescription⟩ : group'.id = group.id ∧ group'.name = group.name ∧
      group'.description = group.description := by
    simpa [InstanceGroup.frame] using hframe
  refine ⟨group', hgroup', hid'.trans hid, ?_, ?_⟩
  · rw [ofCluster, hname]
    exact hcluster
  · rw [hdescription]
    exact hbounds

end Frames

/-! ### Node groups and their store -/

/-- The node group is made for a group of the store. -/
structure Governs (settings : Settings) (store : Store) (g : NodeGroup) : Prop where
  /-- Its bounds are those of the group. -/
  bounded : Bounded settings store g.id g.bounds
  /-- New instances join the group. -/
  own : g.template.groupId = g.id
  /-- The parent is a group named by the name of the cluster alone. -/
  parent : ∀ parent, g.template.parentGroupId = some parent →
    ∃ group ∈ store.groups, group.id = parent ∧ group.name = settings.clusterName
  /-- It waits as the settings say. -/
  pace : g.convergence = settings.convergence

namespace Governs

/-- Whether a node group is made for a group is told by the frames of the groups. -/
theorem of_frames (hframes : after.groups.map (·.frame) = before.groups.map (·.frame))
    (h : Governs settings before g) : Governs settings after g where
  bounded := h.bounded.of_frames hframes
  own := h.own
  parent := by
    intro parent hparent
    obtain ⟨group, hgroup, hid, hname⟩ := h.parent parent hparent
    obtain ⟨group', hgroup', hframe⟩ := Store.exists_frame_eq hframes hgroup
    have hsame : group'.id = group.id ∧ group'.name = group.name ∧
        group'.description = group.description := by simpa [InstanceGroup.frame] using hframe
    exact ⟨group', hgroup', hsame.1.trans hid, hsame.2.1.trans hname⟩
  pace := h.pace

variable (h : Governs settings store g) (hdistinct : (store.groups.map (·.id)).Nodup)

include h hdistinct

/-- The parent is no group of the cluster. -/
theorem parent_notMem {parent : GroupId} (hparent : g.template.parentGroupId = some parent) :
    parent ∉ clusterIds settings store := by
  intro hmem
  obtain ⟨group, hgroup, hcluster, hid⟩ := mem_clusterIds.mp hmem
  obtain ⟨group', hgroup', hid', hname⟩ := h.parent parent hparent
  -- Both groups have the name of the parent, so they are one, with two incompatible names.
  obtain rfl := List.inj_on_of_nodup_map hdistinct hgroup' hgroup (hid'.trans hid.symm)
  rw [ofCluster_eq_false hname] at hcluster
  cases hcluster

/-- The template names no group of the cluster but its own. -/
theorem eq_of_mem_groupIds {id : GroupId} (hid : id ∈ clusterIds settings store)
    (hmem : id ∈ g.template.groupIds) : id = g.id := by
  rcases LaunchTemplate.mem_groupIds.mp hmem with hparent | hown
  · exact absurd hid (h.parent_notMem hdistinct hparent)
  · rw [hown, h.own]

/-- The template names no group twice. -/
theorem nodup_groupIds : g.template.groupIds.Nodup := by
  refine LaunchTemplate.nodup_groupIds fun hparent => ?_
  rw [h.own] at hparent
  exact h.parent_notMem hdistinct hparent h.bounded.mem_clusterIds

end Governs

/-! ### Orderly stores -/

/-- No live instance names two groups of the cluster. -/
def Apart (settings : Settings) (store : Store) : Prop :=
  ∀ id i, store.instances.find? id = some i → i.isDeleted = false →
    ∀ own ∈ clusterIds settings store, ∀ other ∈ clusterIds settings store,
      i.inGroup own = true → i.inGroup other = true → own = other

/-- Live instances stay apart when the record that is put into the store is that of a deleted
instance, or of one that names no two groups of the cluster. -/
theorem Apart.of_insert (hframes : after.groups.map (·.frame) = before.groups.map (·.frame))
    {id : InstanceId} {i : Instance} (hinstances : after.instances = before.instances.insert id i)
    (hi : i.isDeleted = false → ∀ own ∈ clusterIds settings before,
      ∀ other ∈ clusterIds settings before,
        i.inGroup own = true → i.inGroup other = true → own = other)
    (h : Apart settings before) : Apart settings after := by
  unfold Apart
  rw [clusterIds_of_frames hframes, hinstances]
  intro id' i' hfound hlive own hown other hother hinOwn hinOther
  rw [OrderedMap.find?_insert] at hfound
  split at hfound
  · cases hfound
    exact hi hlive own hown other hother hinOwn hinOther
  · exact h id' i' hfound hlive own hown other hother hinOwn hinOther

/-- What a store has to be like while its groups are tended. -/
structure Orderly (settings : Settings) (limit : Nat) (store : Store) : Prop where
  /-- The groups have different names. -/
  distinct : (store.groups.map (·.id)).Nodup
  /-- The groups list the live instances that name them. -/
  coherent : store.Coherent
  /-- No live instance names two groups of the cluster. -/
  apart : Apart settings store
  /-- The names to come are not taken. -/
  fresh : store.FreshUpTo limit

namespace Orderly

variable (h : Orderly settings limit before)

include h

/-- A store whose content is kept stays orderly. -/
theorem of_kept (hkept : Store.Kept before after) : Orderly settings limit after where
  distinct := by
    rw [hkept.groups]
    exact h.distinct
  coherent := h.coherent.of_kept hkept
  apart := by
    unfold Apart clusterIds
    rw [hkept.groups, hkept.instances]
    exact h.apart
  fresh := h.fresh.of_kept hkept

/-- A store stays orderly when an instance is created from the template of a node group. -/
theorem create (hg : Governs settings before g) {reply : Reply (.createInstance g.template)}
    (heffect : Store.Effect before (.createInstance g.template) reply after)
    (hlimit : after.created ≤ limit) : Orderly settings limit after := by
  have hframes := heffect.frames_eq
  have hnodup := hg.nodup_groupIds h.distinct
  cases heffect with
  | kept hkept => exact h.of_kept hkept
  | launched hgroups hinstances hcreated =>
    have hfree := h.fresh (before.created + 1) (Nat.lt_succ_self _) (hcreated ▸ hlimit)
    refine ⟨?_, h.coherent.of_launched h.distinct hnodup hgroups hinstances hfree, ?_,
      h.fresh.of_launched hinstances hcreated⟩
    · rw [Store.ids_eq_of_frames_eq hframes]
      exact h.distinct
    · -- Of the groups of the cluster, the new instance names that of its node group only.
      refine h.apart.of_insert hframes hinstances ?_
      intro _ own hown other hother hinOwn hinOther
      rw [LaunchTemplate.inGroup_instantiate] at hinOwn hinOther
      rw [hg.eq_of_mem_groupIds h.distinct hown hinOwn,
        hg.eq_of_mem_groupIds h.distinct hother hinOther]

/-- A store stays orderly when an instance is destroyed. -/
theorem destroy {id : InstanceId} {reply : Reply (.destroyInstance id)}
    (heffect : Store.Effect before (.destroyInstance id) reply after) :
    Orderly settings limit after := by
  have hframes := heffect.frames_eq
  cases heffect with
  | kept hkept => exact h.of_kept hkept
  | retired hfound hlive hgroups hinstances hcreated =>
    refine ⟨?_, h.coherent.of_retired hgroups hinstances,
      h.apart.of_insert hframes hinstances ?_, h.fresh.of_retired hfound hinstances hcreated⟩
    · rw [Store.ids_eq_of_frames_eq hframes]
      exact h.distinct
    · -- The instance that was destroyed is no live one any more.
      intro hgone
      cases hgone

end Orderly

/-! ### Sizes -/

/-- No group of the cluster is further outside its bounds than before, and the groups are the same
but for their members. -/
structure Tended (settings : Settings) (before after : Store) : Prop where
  /-- The groups are the same but for their members. -/
  frames : after.groups.map (·.frame) = before.groups.map (·.frame)
  /-- A size is below its least or above its greatest one by no more than it was before. -/
  sizes : ∀ id bounds, Bounded settings before id bounds →
    min (before.sizeOf id) bounds.min ≤ after.sizeOf id ∧
      after.sizeOf id ≤ max (before.sizeOf id) bounds.max

namespace Tended

/-- Keeping the content is tending it. -/
theorem of_kept (hkept : Store.Kept before after) : Tended settings before after where
  frames := by rw [hkept.groups]
  sizes := by
    intro id bounds _
    rw [Store.sizeOf_of_kept hkept]
    omega

/-- What is tended twice is tended. -/
theorem trans {middle : Store} (h : Tended settings before middle)
    (h' : Tended settings middle after) : Tended settings before after where
  frames := h'.frames.trans h.frames
  sizes := by
    intro id bounds hbounded
    have hfirst := h.sizes id bounds hbounded
    have hsecond := h'.sizes id bounds (hbounded.of_frames h.frames)
    omega

/-- Destroying a member of a group that is larger than it must be tends the groups. -/
theorem destroy {id : InstanceId} {i : Instance} {reply : Reply (.destroyInstance id)}
    (h : Orderly settings limit before) (hg : Governs settings before g)
    (hsize : g.bounds.min < before.sizeOf g.id) (hi : before.instances.find? id = some i)
    (hmember : i.inGroup g.id = true)
    (heffect : Store.Effect before (.destroyInstance id) reply after) :
    Tended settings before after := by
  refine ⟨heffect.frames_eq, fun groupId bounds hbounded => ?_⟩
  cases heffect with
  | kept hkept =>
    rw [Store.sizeOf_of_kept hkept]
    omega
  | @retired _ i' _ hfound hlive hgroups hinstances hcreated =>
    obtain rfl : i' = i := Option.some.inj (hfound.symm.trans hi)
    obtain ⟨hle, hge, hothers⟩ := Store.sizeOf_of_retired hgroups h.distinct h.coherent groupId
    by_cases hown : groupId = g.id
    · subst hown
      obtain rfl := hbounded.unique h.distinct hg.bounded
      omega
    · -- The instance is a member of one group of the cluster, which is not this one.
      have hsame : after.sizeOf groupId = before.sizeOf groupId := by
        refine hothers fun group hgroup hid => eq_false_of_ne_true fun hlisted => hown ?_
        obtain ⟨found, hfound', -, hnamed⟩ := (h.coherent.listed group hgroup id).mp hlisted
        obtain rfl : found = i' := Option.some.inj (hfound'.symm.trans hi)
        rw [hid] at hnamed
        exact h.apart id found hi hlive groupId hbounded.mem_clusterIds g.id
          hg.bounded.mem_clusterIds hnamed hmember
      omega

end Tended

/-- A group has got at most `count` members more, and no other group of the cluster has changed
its size. -/
structure Grown (settings : Settings) (own : GroupId) (count : Nat) (before after : Store) :
    Prop where
  /-- The groups are the same but for their members. -/
  frames : after.groups.map (·.frame) = before.groups.map (·.frame)
  /-- The group has lost no members. -/
  le : before.sizeOf own ≤ after.sizeOf own
  /-- The group has got so many members at most. -/
  le_add : after.sizeOf own ≤ before.sizeOf own + count
  /-- The other groups of the cluster are as large as before. -/
  others : ∀ id ∈ clusterIds settings before, id ≠ own → after.sizeOf id = before.sizeOf id

namespace Grown

variable {own : GroupId} {count : Nat}

/-- Where the content is kept, no group has grown. -/
theorem of_kept (hkept : Store.Kept before after) : Grown settings own count before after where
  frames := by rw [hkept.groups]
  le := (Store.sizeOf_of_kept hkept own).ge
  le_add := by
    rw [Store.sizeOf_of_kept hkept]
    omega
  others := fun id _ _ => Store.sizeOf_of_kept hkept id

/-- Growing again adds up. -/
theorem trans {middle : Store} {count' : Nat} (h : Grown settings own count before middle)
    (h' : Grown settings own count' middle after) :
    Grown settings own (count' + count) before after where
  frames := h'.frames.trans h.frames
  le := h.le.trans h'.le
  le_add := by
    have hfirst := h.le_add
    have hsecond := h'.le_add
    omega
  others := by
    intro id hid hother
    rw [h'.others id (clusterIds_of_frames h.frames ▸ hid) hother, h.others id hid hother]

/-- Creating one instance from the template of a node group lets its group grow by one member. -/
theorem create (h : Orderly settings limit before) (hg : Governs settings before g)
    {reply : Reply (.createInstance g.template)}
    (heffect : Store.Effect before (.createInstance g.template) reply after) :
    Grown settings g.id 1 before after := by
  have hframes := heffect.frames_eq
  have hnodup := hg.nodup_groupIds h.distinct
  cases heffect with
  | kept hkept => exact .of_kept hkept
  | launched hgroups hinstances hcreated =>
    have hsizes := Store.sizeOf_of_launched h.distinct hnodup hgroups
    refine ⟨hframes, (hsizes g.id).1, (hsizes g.id).2.1, fun id hid hother => ?_⟩
    exact (hsizes id).2.2 fun hmem => hother (hg.eq_of_mem_groupIds h.distinct hid hmem)

/-- A group that has grown up to its greatest size at most is tended. -/
theorem tended (h : Grown settings g.id count before after)
    (hdistinct : (before.groups.map (·.id)).Nodup) (hg : Governs settings before g)
    (hmax : before.sizeOf g.id + count ≤ g.bounds.max) : Tended settings before after := by
  refine ⟨h.frames, fun id bounds hbounded => ?_⟩
  by_cases hown : id = g.id
  · subst hown
    obtain rfl := hbounded.unique hdistinct hg.bounded
    have hle := h.le
    have hle_add := h.le_add
    omega
  · rw [h.others id hbounded.mem_clusterIds hown]
    omega

end Grown

end ElasticGroups.Fleet
