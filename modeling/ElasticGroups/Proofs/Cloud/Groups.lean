import ElasticGroups.Proofs.Cloud.Effect
import Mathlib.Data.List.Nodup

/-!
# The groups of a store

How the list of groups of a store changes. A request may change the members of groups, and nothing
else about them: which groups there are, in which order, and how they are named and described, is
the same before and after it.

The module introduces:

* `InstanceGroup.frame` — all of a group but its members;
* `Store.sizeOf` — the size of the group of a name;
* `Store.Built` — the stores that can be built: from the empty one, by direct changes and by
  requests. Their groups have different names (`Store.Built.distinct`).
* `Store.Change`, `Store.apply` — what may happen to a store, and the store after it. What happens to
  a store that can be built leaves one (`Store.Built.apply`).
-/

namespace ElasticGroups.Cloud

/-- All of a group but its members: its name with the provider, its display name and its
description. -/
def InstanceGroup.frame (group : InstanceGroup) : GroupId × String × String :=
  (group.id, group.name, group.description)

@[simp] theorem InstanceGroup.frame_addMember (group : InstanceGroup) (m : Member) :
    (group.addMember m).frame = group.frame := rfl

@[simp] theorem InstanceGroup.frame_dropMember (group : InstanceGroup) (id : InstanceId) :
    (group.dropMember id).frame = group.frame := rfl

@[simp] theorem InstanceGroup.frame_enlistOnce (m : Member) (group : InstanceGroup) :
    (enlistOnce m group).frame = group.frame := by
  rw [enlistOnce]
  split <;> rfl

/-- Groups of one frame have one name. -/
theorem InstanceGroup.id_eq_of_frame_eq {group other : InstanceGroup}
    (h : group.frame = other.frame) : group.id = other.id :=
  congrArg Prod.fst h

/-- Where all keys are different, a look-up by key finds what has the key. -/
theorem find?_eq_some_iff_of_nodup {α : Type} {key : α → String} {l : List α}
    (hdistinct : (l.map key).Nodup) {a : α} {k : String} :
    l.find? (fun a => decide (key a = k)) = some a ↔ a ∈ l ∧ key a = k := by
  constructor
  · intro h
    exact ⟨List.mem_of_find?_eq_some h, by simpa using List.find?_some h⟩
  · rintro ⟨ha, rfl⟩
    cases hfound : l.find? fun b => decide (key b = key a) with
    | none =>
      have := List.find?_eq_none.mp hfound a ha
      simp at this
    | some found =>
      have hkey : key found = key a := by simpa using List.find?_some hfound
      rw [List.inj_on_of_nodup_map hdistinct (List.mem_of_find?_eq_some hfound) ha hkey]

section Updates

variable {change : InstanceGroup → InstanceGroup} {groups : List InstanceGroup}

/-- A change that keeps the frame of a group keeps the frames of all groups. -/
theorem frames_updateGroupIn (hchange : ∀ group, (change group).frame = group.frame)
    (id : GroupId) : (updateGroupIn id change groups).map (·.frame) = groups.map (·.frame) := by
  induction groups with
  | nil => rfl
  | cons group rest ih =>
    rw [updateGroupIn]
    split
    · rw [List.map_cons, hchange, List.map_cons]
    · rw [List.map_cons, ih, List.map_cons]

/-- When all groups have different names, changing the first of a name is changing all of it. -/
theorem updateGroupIn_eq_map (hdistinct : (groups.map (·.id)).Nodup) (id : GroupId) :
    updateGroupIn id change groups =
      groups.map fun group => if group.id = id then change group else group := by
  induction groups with
  | nil => rfl
  | cons group rest ih =>
    obtain ⟨hgroup, hrest⟩ := List.nodup_cons.mp hdistinct
    rw [updateGroupIn, List.map_cons]
    by_cases h : group.id = id
    · -- No other group has the name.
      have hothers : ∀ other ∈ rest, (if other.id = id then change other else other) = other := by
        intro other hother
        refine if_neg fun hid => hgroup (List.mem_map.mpr ⟨other, hother, ?_⟩)
        exact hid.trans h.symm
      rw [if_pos h, if_pos h, List.map_congr_left hothers, List.map_id']
    · rw [if_neg h, if_neg h, ih hrest]

end Updates

namespace Store

variable {store after : Store} {change : InstanceGroup → InstanceGroup}

/-- The number of members of the group of a name; zero if there is no such group. -/
def sizeOf (store : Store) (id : GroupId) : Nat := ((store.group? id).map (·.size)).getD 0

/-! ### Changes of groups -/

/-- A change that keeps the frame of a group keeps the frames of all groups. -/
theorem frames_updateGroups (hchange : ∀ group, (change group).frame = group.frame)
    (ids : List GroupId) :
    (store.updateGroups ids change).groups.map (·.frame) = store.groups.map (·.frame) := by
  unfold updateGroups
  dsimp only
  induction ids generalizing store with
  | nil => rfl
  | cons id rest ih =>
    rw [List.foldl_cons]
    exact (@ih { store with groups := updateGroupIn id change store.groups }).trans
      (frames_updateGroupIn hchange id)

/-- A group has a counterpart where the frames are the same. -/
theorem exists_frame_eq (h : after.groups.map (·.frame) = store.groups.map (·.frame))
    {group : InstanceGroup} (hgroup : group ∈ store.groups) :
    ∃ group' ∈ after.groups, group'.frame = group.frame := by
  rw [← List.mem_map, h]
  exact List.mem_map_of_mem hgroup

/-- Frames carry the names of the groups. -/
theorem ids_eq_of_frames_eq (h : after.groups.map (·.frame) = store.groups.map (·.frame)) :
    after.groups.map (·.id) = store.groups.map (·.id) := by
  have hids := congrArg (List.map Prod.fst) h
  rw [List.map_map, List.map_map] at hids
  exact hids

/-- With all names different, changing the groups of a list of names starts with the group of the
first name. -/
theorem groups_updateGroups_cons (hdistinct : (store.groups.map (·.id)).Nodup)
    (hchange : ∀ group, (change group).frame = group.frame) (id : GroupId) (rest : List GroupId) :
    ∃ first : Store, (first.groups.map (·.id)).Nodup ∧
      (first.groups =
        store.groups.map fun group => if group.id = id then change group else group) ∧
      (store.updateGroups (id :: rest) change).groups = (first.updateGroups rest change).groups := by
  let first : Store := { store with groups := updateGroupIn id change store.groups }
  have hframes : first.groups.map (·.frame) = store.groups.map (·.frame) :=
    frames_updateGroupIn hchange id
  refine ⟨first, ?_, updateGroupIn_eq_map hdistinct id, rfl⟩
  rw [ids_eq_of_frames_eq hframes]
  exact hdistinct

/-- When all groups have different names, and so do the groups to change, changing these is changing
every group among them. -/
theorem groups_updateGroups (hdistinct : (store.groups.map (·.id)).Nodup) {ids : List GroupId}
    (hids : ids.Nodup) (hchange : ∀ group, (change group).frame = group.frame) :
    (store.updateGroups ids change).groups =
      store.groups.map fun group => if group.id ∈ ids then change group else group := by
  induction ids generalizing store with
  | nil => simp [updateGroups]
  | cons id rest ih =>
    obtain ⟨hid, hrest⟩ := List.nodup_cons.mp hids
    obtain ⟨first, hdistinct', hfirst, hstep⟩ := groups_updateGroups_cons hdistinct hchange id rest
    -- The first change and the others meet in no group, because the names to change differ.
    rw [hstep, ih hdistinct' hrest, hfirst, List.map_map]
    refine List.map_congr_left fun group _ => ?_
    have hsame : (change group).id = group.id := InstanceGroup.id_eq_of_frame_eq (hchange group)
    by_cases h : group.id = id
    · simp [h, hsame, hid]
    · simp [h]

/-- A change that is the same when it is made twice may name a group twice. -/
theorem groups_updateGroups_of_idem (hdistinct : (store.groups.map (·.id)).Nodup)
    (ids : List GroupId) (hchange : ∀ group, (change group).frame = group.frame)
    (hidem : ∀ group, change (change group) = change group) :
    (store.updateGroups ids change).groups =
      store.groups.map fun group => if group.id ∈ ids then change group else group := by
  induction ids generalizing store with
  | nil => simp [updateGroups]
  | cons id rest ih =>
    obtain ⟨first, hdistinct', hfirst, hstep⟩ := groups_updateGroups_cons hdistinct hchange id rest
    rw [hstep, ih hdistinct', hfirst, List.map_map]
    refine List.map_congr_left fun group _ => ?_
    have hsame : (change group).id = group.id := InstanceGroup.id_eq_of_frame_eq (hchange group)
    by_cases h : group.id = id
    · simp [h, hsame, hidem]
    · simp [h]

/-- With all names different, a group is what a look-up of its name finds. -/
theorem group?_eq_some_iff (hdistinct : (store.groups.map (·.id)).Nodup) {id : GroupId}
    {group : InstanceGroup} :
    store.group? id = some group ↔ group ∈ store.groups ∧ group.id = id :=
  find?_eq_some_iff_of_nodup hdistinct

/-- What a look-up finds is a group of the store, of the name that was looked up. -/
theorem mem_of_group? {id : GroupId} {group : InstanceGroup} (h : store.group? id = some group) :
    group ∈ store.groups ∧ group.id = id :=
  ⟨List.mem_of_find?_eq_some h, by simpa using List.find?_some h⟩

section Mapped

variable (hchange : ∀ group, (change group).frame = group.frame)
  (h : after.groups = store.groups.map change)

include hchange h

/-- Changing all groups without their frames keeps the frames. -/
theorem frames_of_map : after.groups.map (·.frame) = store.groups.map (·.frame) := by
  rw [h, List.map_map]
  exact List.map_congr_left fun group _ => hchange group

/-- Changing all groups without their frames changes what look-ups find. -/
theorem group?_of_map (id : GroupId) : after.group? id = (store.group? id).map change := by
  unfold group?
  rw [h, List.find?_map]
  have hid : (fun group : InstanceGroup => decide (group.id = id)) ∘ change =
      fun group => decide (group.id = id) := by
    ext group
    rw [Function.comp_apply, InstanceGroup.id_eq_of_frame_eq (hchange group)]
  rw [hid]

end Mapped

/-! ### Stores that can be built -/

/-- The stores that can be built from the empty one. -/
inductive Built : Store → Prop
  /-- The empty store. -/
  | empty : Built {}
  /-- A group is put into the store. -/
  | putGroup {store : Store} (h : Built store) (group : InstanceGroup) :
      Built (store.putGroup group)
  /-- An instance is put into the store. -/
  | putInstance {store : Store} (h : Built store) (i : Instance) : Built (store.putInstance i)
  /-- A failure is planned. -/
  | planFailure {store : Store} (h : Built store) (operation : Operation) (nth : Nat)
      (error : ProviderError) : Built (store.planFailure operation nth error)
  /-- The store is stalled, or no longer. -/
  | setStalled {store : Store} (h : Built store) (stalled : Bool) : Built { store with stalled }
  /-- The clock is set. -/
  | setClock {store : Store} (h : Built store) (clock : Nat) : Built { store with clock }
  /-- The store serves a request. -/
  | respond {store : Store} (h : Built store) (request : Request) :
      Built (respond request store).2

/-- What may happen to a store. -/
inductive Change
  /-- A group is put into it. -/
  | putGroup (group : InstanceGroup)
  /-- An instance is put into it. -/
  | putInstance (i : Instance)
  /-- A failure is planned. -/
  | planFailure (operation : Operation) (nth : Nat) (error : ProviderError)
  /-- It stalls, or no longer does. -/
  | setStalled (stalled : Bool)
  /-- Its clock is set. -/
  | setClock (clock : Nat)
  /-- It receives a request. -/
  | request (request : Request)

/-- The store after a change. -/
def apply (store : Store) : Change → Store
  | .putGroup group => store.putGroup group
  | .putInstance i => store.putInstance i
  | .planFailure operation nth error => store.planFailure operation nth error
  | .setStalled stalled => { store with stalled }
  | .setClock clock => { store with clock }
  | .request request => (respond request store).2

theorem Built.apply (h : Built store) (change : Change) : Built (store.apply change) := by
  cases change with
  | putGroup group => exact h.putGroup group
  | putInstance i => exact h.putInstance i
  | planFailure operation nth error => exact h.planFailure operation nth error
  | setStalled stalled => exact h.setStalled stalled
  | setClock clock => exact h.setClock clock
  | request request => exact h.respond request

/-- What happens to a store that can be built, along a whole run, builds on it. -/
theorem Built.foldl (h : Built store) (changes : List Change) :
    Built (changes.foldl Store.apply store) :=
  List.foldlRecOn changes Store.apply h fun _ h change _ => h.apply change

/-- The requests of a session build on what was built before. -/
theorem Built.of_gives {record : List (Sigma Reply)} (h : Built store)
    (hgives : Responder.Gives Store.respond store record after) : Built after := by
  induction record generalizing store with
  | nil =>
    obtain rfl := hgives
    exact h
  | cons exchange rest ih => exact ih (h.respond exchange.1) hgives.2

/-- A group after another is put among some is that one, or one of them. -/
theorem mem_putGroupIn {group other : InstanceGroup} {groups : List InstanceGroup}
    (h : other ∈ putGroupIn group groups) : other = group ∨ other ∈ groups := by
  induction groups with
  | nil => exact .inl (List.mem_singleton.mp h)
  | cons first rest ih =>
    rw [putGroupIn] at h
    split at h
    · exact (List.mem_cons.mp h).imp_right (List.mem_cons_of_mem first)
    · rcases List.mem_cons.mp h with rfl | h
      · exact .inr List.mem_cons_self
      · exact (ih h).imp_right (List.mem_cons_of_mem first)

/-- Putting a group brings in no name but its own. -/
theorem mem_ids_putGroupIn {group : InstanceGroup} {groups : List InstanceGroup} {id : GroupId}
    (h : id ∈ (putGroupIn group groups).map (·.id)) :
    id = group.id ∨ id ∈ groups.map (·.id) := by
  obtain ⟨other, hother, rfl⟩ := List.mem_map.mp h
  rcases mem_putGroupIn hother with rfl | hother
  · exact .inl rfl
  · exact .inr (List.mem_map_of_mem hother)

/-- Putting a group keeps all names different. -/
theorem nodup_putGroupIn (group : InstanceGroup) {groups : List InstanceGroup}
    (h : (groups.map (·.id)).Nodup) : ((putGroupIn group groups).map (·.id)).Nodup := by
  induction groups with
  | nil => simp [putGroupIn]
  | cons other rest ih =>
    obtain ⟨hother, hrest⟩ := List.nodup_cons.mp h
    rw [putGroupIn]
    split
    case isTrue heq =>
      rw [List.map_cons, ← heq]
      exact h
    case isFalse hne =>
      -- The group in front is not the one put, and was not listed behind itself before.
      rw [List.map_cons]
      refine List.nodup_cons.mpr ⟨fun hmem => ?_, ih hrest⟩
      exact (mem_ids_putGroupIn hmem).elim hne hother

/-- A request keeps the frames of all groups. -/
theorem Effect.frames_eq {request : Request} {reply : Reply request}
    (h : Effect store request reply after) :
    after.groups.map (·.frame) = store.groups.map (·.frame) := by
  cases h with
  | kept h => rw [h.groups]
  | launched hgroups =>
    rw [hgroups]
    exact frames_updateGroups (fun group => InstanceGroup.frame_addMember group _) _
  | retired _ _ hgroups =>
    exact frames_of_map (fun group => InstanceGroup.frame_dropMember group _) hgroups

/-- The groups of a store that can be built have different names. -/
theorem Built.distinct (h : Built store) : (store.groups.map (·.id)).Nodup := by
  induction h with
  | empty => exact List.nodup_nil
  | putGroup _ group ih => exact nodup_putGroupIn group ih
  | @putInstance store _ i ih =>
    rw [Store.putInstance]
    split
    · exact ih
    · have hids := ids_eq_of_frames_eq
        (@frames_updateGroups store _ (InstanceGroup.frame_enlistOnce i.member) i.groupIds)
      exact hids ▸ ih
  | planFailure _ _ _ _ ih => exact ih
  | setStalled _ _ ih => exact ih
  | setClock _ _ ih => exact ih
  | respond _ request ih =>
    rw [ids_eq_of_frames_eq (effect_respond _ request).frames_eq]
    exact ih

end Store

/-- A group that is found has the size that the store says. -/
theorem sizeOf_eq_size {store : Store} {id : GroupId} {group : InstanceGroup}
    (h : store.group? id = some group) : store.sizeOf id = group.size := by
  unfold Store.sizeOf
  rw [h]
  rfl

end ElasticGroups.Cloud
