import ElasticGroups.Proofs.Cloud.Launching

/-!
# Instances retired one after the other

What a number of deletions does to a store that serves and applies them all. Every instance is marked
as deleted and taken off all lists, and nothing else changes: no other record, no order of members, and
nothing about a group but its members.

The module introduces:

* `InstanceGroup.without ids` — a group after instances have gone from it;
* `Store.Retired before ids after` — all that the deletions do.

A healthy store deletes an instance that is live (`Store.Healthy.respond_destroyInstance`), which
retires that one (`Store.Retired.single`), and instances may be retired in turns
(`Store.Retired.trans`).
-/

namespace ElasticGroups.Cloud

namespace InstanceGroup

variable (group : InstanceGroup)

/-- A group after instances have gone from it. -/
def without (ids : List InstanceId) : InstanceGroup :=
  { group with members := group.members.filter (·.id ∉ ids) }

@[simp] theorem frame_without (ids : List InstanceId) : (group.without ids).frame = group.frame := rfl

/-- Where no instance goes, the group stays as it is. -/
@[simp] theorem without_nil : group.without [] = group := by
  simp [without]

/-- An instance that goes alone is taken off the list. -/
theorem without_singleton (id : InstanceId) : group.without [id] = group.dropMember id := by
  simp [without, dropMember]

/-- Instances may go in turns. -/
theorem without_without (first rest : List InstanceId) :
    (group.without first).without rest = group.without (first ++ rest) := by
  simp [without, List.filter_filter, Bool.and_comm]

variable {group} {id : InstanceId}

/-- A group that lists no instance twice loses one member with an instance that it lists. -/
theorem size_dropMember (hnodup : (group.members.map (·.id)).Nodup)
    (hmember : group.hasMember id = true) : (group.dropMember id).size + 1 = group.size := by
  obtain ⟨m, hm, hid⟩ := List.mem_map.mp (hasMember_iff.mp hmember)
  have hlt : (group.dropMember id).size < group.size :=
    List.length_filter_lt_length_iff_exists.mpr ⟨m, hm, by simp [hid]⟩
  have hle := @size_le_dropMember group id hnodup
  omega

end InstanceGroup

namespace Store

variable {store middle after : Store} {id : InstanceId} {i : Instance} {first rest : List InstanceId}

/-- A healthy store only counts a look-up of an instance. -/
theorem Healthy.respond_getInstance (h : store.Healthy) (id : InstanceId) :
    Store.respond (.getInstance id) store = ((store.serve (.getInstance id)).1,
      { store with calls := store.calls.bump .getInstance }) := by
  rw [h.respond_eq, serve, serve]
  dsimp only
  cases store.instances.find? id <;> rfl

/-- A healthy store retires an instance that is live. -/
theorem Healthy.respond_destroyInstance (h : store.Healthy) (hfound : store.instances.find? id = some i)
    (hlive : i.isDeleted = false) :
    Store.respond (.destroyInstance id) store =
      (.ok (), { store.retire i id with calls := store.calls.bump .destroyInstance }) := by
  have hstalled := h.stalled
  rw [h.respond_eq, serve, destroy]
  simp [hfound, hlive, hstalled, retire, Request.operation]

/-- What deletions do that are all served and applied. -/
structure Retired (before : Store) (ids : List InstanceId) (after : Store) : Prop where
  /-- The groups do not list the instances any more. -/
  groups : after.groups = before.groups.map (·.without ids)
  /-- The instances were live, and are marked as deleted. -/
  retired : ∀ id ∈ ids, ∃ i, before.instances.find? id = some i ∧ i.isDeleted = false ∧
    after.instances.find? id = some { i with status := "deleted", deletedAt := some before.clock }
  /-- All other records are as before. -/
  others : ∀ id, id ∉ ids → after.instances.find? id = before.instances.find? id
  /-- No name is given out. -/
  created : after.created = before.created
  /-- The clock stands still. -/
  clock : after.clock = before.clock

namespace Retired

/-- A store that has only counted requests has retired no instance. -/
theorem of_calls (store : Store) (calls : CallCounts) : Retired store [] { store with calls } where
  groups := by simp
  retired := by simp
  others := fun _ _ => rfl
  created := rfl
  clock := rfl

/-- A live instance is retired. -/
theorem single (hfound : store.instances.find? id = some i) (hlive : i.isDeleted = false)
    (calls : CallCounts) : Retired store [id] { store.retire i id with calls } where
  groups := List.map_congr_left fun group _ => (group.without_singleton id).symm
  retired := by
    intro other hother
    obtain rfl := List.mem_singleton.mp hother
    refine ⟨i, hfound, hlive, ?_⟩
    show (store.instances.insert other _).find? other = _
    rw [OrderedMap.find?_insert, if_pos rfl]
  others := by
    intro other hother
    show (store.instances.insert id _).find? other = _
    rw [OrderedMap.find?_insert, if_neg (by simpa using hother)]
  created := rfl
  clock := rfl

/-- What was known about a group is known about it without the instances. -/
theorem group?_eq {ids : List InstanceId} (h : Retired store ids after) (id : GroupId) :
    after.group? id = (store.group? id).map (·.without ids) :=
  group?_of_map (fun group => group.frame_without ids) h.groups id

/-- Instances may be retired in turns. -/
theorem trans (h : Retired store first middle) (h' : Retired middle rest after) :
    Retired store (first ++ rest) after where
  groups := by
    rw [h'.groups, h.groups, List.map_map]
    exact List.map_congr_left fun group _ => group.without_without first rest
  retired := by
    intro id hid
    by_cases hfirst : id ∈ first
    · obtain ⟨i, hfound, hlive, hretired⟩ := h.retired id hfirst
      refine ⟨i, hfound, hlive, ?_⟩
      -- What was retired in the first turn is not live in the second one.
      have hrest : id ∉ rest := by
        intro hrest
        obtain ⟨j, hj, hjlive, -⟩ := h'.retired id hrest
        rw [hretired] at hj
        cases hj
        cases hjlive
      rw [h'.others id hrest, hretired]
    · obtain ⟨i, hfound, hlive, hretired⟩ :=
        h'.retired id ((List.mem_append.mp hid).resolve_left hfirst)
      rw [h.others id hfirst] at hfound
      rw [h.clock] at hretired
      exact ⟨i, hfound, hlive, hretired⟩
  others := by
    intro id hid
    rw [List.mem_append, not_or] at hid
    rw [h'.others id hid.2, h.others id hid.1]
  created := h'.created.trans h.created
  clock := h'.clock.trans h.clock

end Retired

end Store

end ElasticGroups.Cloud
