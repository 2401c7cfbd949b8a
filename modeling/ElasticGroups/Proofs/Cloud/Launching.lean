import ElasticGroups.Proofs.Cloud.Naming
import ElasticGroups.Proofs.OrderedMap

/-!
# Instances created one after the other

What a number of creations from one template does to a store, when all of them are answered and the
store applies its changes. They get the next names, and every group that the template names lists
them at its end, in the order of their names.

The module introduces:

* `Store.Healthy` — the store applies its changes, and no failure is planned. Such a store serves
  every request (`Store.Healthy.respond_eq`);
* `Store.newIds` — the names that are given out next;
* `LaunchTemplate.join` — a group after new instances have come to it;
* `Store.Gained before template ids after` — all that the creations do.

Creations that are answered gain what they should (`Store.gained_of_gives`), and where the names were
not taken, there are as many records more as instances were created (`Store.Gained.size_instances`).
-/

namespace ElasticGroups.Cloud

/-- A group after new instances have come to it: a group that the template names lists them at its
end. -/
def LaunchTemplate.join (template : LaunchTemplate) (ids : List InstanceId)
    (group : InstanceGroup) : InstanceGroup :=
  if group.id ∈ template.groupIds then
    { group with members := group.members ++ ids.map fun id => (template.instantiate id).member }
  else group

namespace LaunchTemplate

variable (template : LaunchTemplate) (group : InstanceGroup)

@[simp] theorem frame_join (ids : List InstanceId) :
    (template.join ids group).frame = group.frame := by
  rw [join]
  split <;> rfl

/-- No instance comes to no group. -/
@[simp] theorem join_nil : template.join [] group = group := by
  rw [join]
  split
  · rw [List.map_nil, List.append_nil]
  · rfl

/-- New instances come one by one. -/
theorem join_join (first rest : List InstanceId) :
    template.join rest (template.join first group) = template.join (first ++ rest) group := by
  by_cases hnamed : group.id ∈ template.groupIds
  · simp [join, hnamed]
  · simp [join, hnamed]

/-- A group that the template names lists the new instances besides those that it listed. -/
theorem hasMember_join {group : InstanceGroup} {ids : List InstanceId} {id : InstanceId} :
    (template.join ids group).hasMember id = true ↔
      group.hasMember id = true ∨ group.id ∈ template.groupIds ∧ id ∈ ids := by
  by_cases hnamed : group.id ∈ template.groupIds
  · simp [join, hnamed, InstanceGroup.hasMember, Instance.member, instantiate]
  · simp [join, hnamed]

/-- A group that the template names grows by as many members as instances come. -/
theorem size_join {group : InstanceGroup} (hnamed : group.id ∈ template.groupIds)
    (ids : List InstanceId) : (template.join ids group).size = group.size + ids.length := by
  simp [join, hnamed, InstanceGroup.size]

end LaunchTemplate

namespace Store

variable {store after : Store} {template : LaunchTemplate} {ids : List InstanceId}

/-- No request makes a group known or unknown. -/
theorem isSome_group?_respond (store : Store) (request : Request) (id : GroupId) :
    ((respond request store).2.group? id).isSome = (store.group? id).isSome := by
  have hids := ids_eq_of_frames_eq (effect_respond store request).frames_eq
  have hmem (s : Store) : (s.group? id).isSome = true ↔ id ∈ s.groups.map (·.id) := by
    simp [group?]
  rw [Bool.eq_iff_iff, hmem, hmem, hids]

/-! ### Healthy stores -/

/-- The store applies its changes, and no failure is planned. -/
structure Healthy (store : Store) : Prop where
  /-- Changes are applied. -/
  stalled : store.stalled = false
  /-- No failure is planned. -/
  failures : store.failures = []

instance (store : Store) : Decidable store.Healthy :=
  decidable_of_iff (store.stalled = false ∧ store.failures = [])
    ⟨fun h => ⟨h.1, h.2⟩, fun h => ⟨h.1, h.2⟩⟩

namespace Healthy

/-- A healthy store serves every request. -/
theorem respond_eq (h : store.Healthy) (request : Request) :
    respond request store =
      { store with calls := store.calls.bump request.operation }.serve request := by
  obtain ⟨groups, instances, created, stalled, failures, calls, clock⟩ := store
  obtain ⟨rfl, rfl⟩ := h
  rfl

/-- A healthy store stays healthy. -/
theorem respond (h : store.Healthy) (request : Request) : (respond request store).2.Healthy := by
  obtain ⟨_, _, _, hserve⟩ :=
    exists_serve_eq { store with calls := store.calls.bump request.operation } request
  rw [h.respond_eq, hserve]
  exact ⟨h.stalled, h.failures⟩

/-- A healthy store stays healthy over a whole record. -/
theorem of_gives {record : List (Sigma Reply)} (h : store.Healthy)
    (hgives : Responder.Gives Store.respond store record after) : after.Healthy := by
  induction record generalizing store with
  | nil =>
    obtain rfl := hgives
    exact h
  | cons exchange rest ih => exact ih (h.respond exchange.1) hgives.2

/-- A healthy store shows a group that it has, and only counts the look-up. -/
theorem respond_getGroup (h : store.Healthy) {id : GroupId} {group : InstanceGroup}
    (hgroup : store.group? id = some group) :
    Store.respond (.getGroup id) store =
      (.ok group, { store with calls := store.calls.bump .getGroup }) := by
  rw [h.respond_eq, serve, group?]
  rw [group?] at hgroup
  rw [hgroup]
  rfl

/-- A healthy store creates an instance for a group that it has. -/
theorem exists_respond_createInstance (h : store.Healthy)
    (hgroup : (store.group? template.groupId).isSome = true) :
    ∃ id, (Store.respond (.createInstance template) store).1 = .ok id := by
  rw [h.respond_eq, serve, create, if_neg]
  · exact ⟨_, rfl⟩
  · rw [Option.isNone_iff_eq_none, ← Option.not_isSome_iff_eq_none, not_not]
    exact hgroup

end Healthy

/-! ### New names -/

/-- The names that are given out next, in their order. -/
def newIds (store : Store) (count : Nat) : List InstanceId :=
  (List.range' (store.created + 1) count).map newId

@[simp] theorem length_newIds (store : Store) (count : Nat) :
    (store.newIds count).length = count := by
  simp [newIds]

/-- All names that are given out next are different. -/
theorem nodup_newIds (store : Store) (count : Nat) : (store.newIds count).Nodup :=
  List.Nodup.map newId_injective List.nodup_range'

/-- The next name comes first, and is followed by those that are next once it is used up. -/
theorem newIds_succ (hcreated : after.created = store.created + 1) (count : Nat) :
    store.newIds (count + 1) = newId (store.created + 1) :: after.newIds count := by
  rw [newIds, newIds, hcreated, List.range'_succ, List.map_cons]

/-- Names that are free up to a limit are not taken. -/
theorem FreshUpTo.find?_eq_none {count : Nat} (h : store.FreshUpTo (store.created + count))
    {id : InstanceId} (hid : id ∈ store.newIds count) : store.instances.find? id = none := by
  obtain ⟨n, hn, rfl⟩ := List.mem_map.mp hid
  rw [List.mem_range'_1] at hn
  exact h n (by omega) (by omega)

/-! ### Gains -/

/-- What creations from one template do that are all answered and applied. -/
structure Gained (before : Store) (template : LaunchTemplate) (ids : List InstanceId)
    (after : Store) : Prop where
  /-- The new instances get the next names. -/
  names : ids = before.newIds ids.length
  /-- The names are used up. -/
  created : after.created = before.created + ids.length
  /-- The groups that the template names list the new instances. -/
  groups : after.groups = before.groups.map (template.join ids)
  /-- There are records of the new instances, and all others are as before. -/
  find? : ∀ id, after.instances.find? id =
    if id ∈ ids then some (template.instantiate id) else before.instances.find? id

/-- Where nothing is created, nothing is gained. -/
theorem Gained.refl (store : Store) (template : LaunchTemplate) :
    Gained store template [] store where
  names := rfl
  created := rfl
  groups := by
    rw [List.map_congr_left fun group _ => template.join_nil group, List.map_id']
  find? := fun _ => rfl

/-- One creation, and then others. -/
theorem Gained.cons {middle : Store} {id : InstanceId} (hcreated : Created store template id middle)
    (hstalled : store.stalled = false) (hdistinct : (store.groups.map (·.id)).Nodup)
    (hparent : template.parentGroupId ≠ some template.groupId)
    (h : Gained middle template ids after) : Gained store template (id :: ids) after where
  names := by
    rw [List.length_cons, newIds_succ hcreated.created, ← hcreated.name, ← h.names]
  created := by
    rw [h.created, hcreated.created, List.length_cons]
    omega
  groups := by
    rw [h.groups, hcreated.groups_eq hdistinct hparent, List.map_map]
    refine List.map_congr_left fun group _ => ?_
    -- The group of the first creation is joined by one instance.
    have hfirst : store.enroll template id group = template.join [id] group :=
      if_congr (and_iff_right hstalled) rfl rfl
    rw [Function.comp_apply, hfirst, template.join_join]
    rfl
  find? := fun other => by
    rw [h.find?]
    by_cases hids : other ∈ ids
    · rw [if_pos hids, if_pos (List.mem_cons_of_mem _ hids)]
    · rw [if_neg hids]
      by_cases hid : other = id
      · subst hid
        rw [if_pos List.mem_cons_self, hcreated.find?_self hstalled]
      · rw [if_neg (by simp [hid, hids]), hcreated.find?_of_ne hid]

/-- Creations that are all answered, by a store that applies its changes, gain what they should. -/
theorem gained_of_gives
    (hgives : Responder.Gives respond store (asked (.createInstance template) (ids.map .ok)) after)
    (hstalled : store.stalled = false) (hdistinct : (store.groups.map (·.id)).Nodup)
    (hparent : template.parentGroupId ≠ some template.groupId) :
    Gained store template ids after := by
  induction ids generalizing store with
  | nil =>
    obtain rfl := hgives
    exact .refl _ _
  | cons id ids ih =>
    obtain ⟨hreply, hrest⟩ := hgives
    have hcreated := created_of_reply hreply
    refine .cons hcreated hstalled hdistinct hparent (ih hrest ?_ ?_)
    · rw [(switches_respond store _).1, hstalled]
    · rw [ids_eq_of_frames_eq (effect_respond store _).frames_eq]
      exact hdistinct

namespace Gained

variable (h : Gained store template ids after)

include h

/-- A group that the template names has all new instances at its end. -/
theorem group?_eq {id : GroupId} {group : InstanceGroup} (hgroup : store.group? id = some group) :
    after.group? id = some (template.join ids group) := by
  rw [group?_of_map (template.frame_join · ids) h.groups, hgroup]
  rfl

/-- A known group that the template names has as many members more as instances were created. -/
theorem sizeOf_eq {id : GroupId} (hknown : (store.group? id).isSome = true)
    (hnamed : id ∈ template.groupIds) : after.sizeOf id = store.sizeOf id + ids.length := by
  obtain ⟨group, hgroup⟩ := Option.isSome_iff_exists.mp hknown
  obtain ⟨-, rfl⟩ := mem_of_group? hgroup
  rw [sizeOf_eq_size (h.group?_eq hgroup), sizeOf_eq_size hgroup]
  exact template.size_join hnamed ids

/-- Where the names were free, there are as many records more as instances were created. -/
theorem size_instances (hfresh : store.FreshUpTo (store.created + ids.length)) :
    after.instances.size = store.instances.size + ids.length := by
  refine OrderedMap.size_eq_of_new_keys _ (h.names ▸ nodup_newIds _ _) ?_ fun id => ?_
  · intro id hid
    exact hfresh.find?_eq_none (h.names ▸ hid)
  · rw [h.find?]
    by_cases hid : id ∈ ids
    · simp [hid]
    · simp [hid]

/-- Where the names were free, a coherent store is coherent again. -/
theorem coherent (hfresh : store.FreshUpTo (store.created + ids.length))
    (hcoherent : store.Coherent) : after.Coherent := by
  -- The new names are listed by no group yet.
  have hunlisted : ∀ group ∈ store.groups, ∀ id ∈ ids, group.hasMember id = false :=
    fun group hgroup id hid => hcoherent.hasMember_eq_false
      (hfresh.find?_eq_none (h.names ▸ hid)) hgroup
  constructor
  · rw [h.groups, List.forall_mem_map]
    intro group hgroup
    rw [LaunchTemplate.join]
    split
    · have hids : (ids.map fun id => (template.instantiate id).member).map (·.id) = ids := by
        rw [List.map_map]
        exact List.map_id ids
      rw [List.map_append, hids]
      refine List.nodup_append.mpr
        ⟨hcoherent.nodup group hgroup, h.names ▸ nodup_newIds store _, ?_⟩
      rintro id hlisted _ hid rfl
      exact ne_true_of_eq_false (hunlisted group hgroup id hid)
        (InstanceGroup.hasMember_iff.mpr hlisted)
    · exact hcoherent.nodup group hgroup
  · rw [h.groups, List.forall_mem_map]
    intro group hgroup id
    have hid : (template.join ids group).id = group.id :=
      InstanceGroup.id_eq_of_frame_eq (template.frame_join group ids)
    rw [template.hasMember_join, h.find?, hid]
    by_cases hnew : id ∈ ids
    · have hlive : (template.instantiate id).isDeleted = false := rfl
      rw [hunlisted group hgroup id hnew, if_pos hnew]
      simp [hnew, hlive, LaunchTemplate.inGroup_instantiate]
    · rw [if_neg hnew, hcoherent.listed group hgroup]
      simp [hnew]

end Gained

end Store

end ElasticGroups.Cloud
