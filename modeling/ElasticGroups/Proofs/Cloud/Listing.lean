import ElasticGroups.Cloud.Snapshot
import ElasticGroups.Proofs.Cloud.Coherence
import ElasticGroups.Proofs.OrderedMap

/-!
# Listings tell what records tell

A store keeps two accounts of its instances: the record of each, and the summaries by which groups
list them. The two agree in a store that is loaded from a snapshot without lists of members, and
they go on agreeing, whatever the store is asked to do, for as long as what is put into it is new
and new instances get names that are not taken.

The module introduces:

* `Store.Faithful` — the agreement of the two accounts, which is finer than `Store.Coherent`: the
  lists hold the summaries themselves, and not only the names;
* `Store.Grants` — what a successful creation must not do: take a name twice, or join a group twice;
* `Store.Prudent`, `Store.PrudentAlong` — the changes that bring in nothing but what is new.

Each effect of a request, and each of the direct changes, keeps a store faithful; a whole run then
does (`Store.Faithful.of_prudent`).
-/

namespace ElasticGroups.Cloud

/-- A group that lists an instance already keeps its list. -/
theorem enlistOnce_of_hasMember {m : Member} {group : InstanceGroup}
    (h : group.hasMember m.id = true) : enlistOnce m group = group :=
  if_pos h

/-- A group that does not list an instance gets it at the end of its list. -/
theorem enlistOnce_of_not_hasMember {m : Member} {group : InstanceGroup}
    (h : group.hasMember m.id = false) : enlistOnce m group = group.addMember m :=
  if_neg (ne_true_of_eq_false h)

/-- An instance is listed after it is enlisted. -/
theorem hasMember_enlistOnce (m : Member) (group : InstanceGroup) :
    (enlistOnce m group).hasMember m.id = true := by
  cases h : group.hasMember m.id with
  | true => rw [enlistOnce_of_hasMember h, h]
  | false =>
    rw [enlistOnce_of_not_hasMember h]
    exact InstanceGroup.hasMember_addMember.mpr (.inr rfl)

/-- Enlisting an instance twice is enlisting it once. -/
@[simp] theorem enlistOnce_enlistOnce (m : Member) (group : InstanceGroup) :
    enlistOnce m (enlistOnce m group) = enlistOnce m group :=
  enlistOnce_of_hasMember (hasMember_enlistOnce m group)

namespace Store

/-- The groups of a store list the summaries of exactly its live instances, each once. -/
structure Faithful (store : Store) : Prop where
  /-- All groups have different names. -/
  distinct : (store.groups.map (·.id)).Nodup
  /-- Every record is held under its own name. -/
  named : ∀ id i, store.instances.find? id = some i → i.id = id
  /-- No group lists an instance twice. -/
  nodup : ∀ group ∈ store.groups, (group.members.map (·.id)).Nodup
  /-- A group lists the summaries of the live instances that name it. -/
  members : ∀ group ∈ store.groups, ∀ m, m ∈ group.members ↔
    ∃ i ∈ store.instances.values, i.isDeleted = false ∧ i.inGroup group.id = true ∧ i.member = m

variable {store after : Store} {i : Instance}

/-! ### Faithful and coherent stores -/

/-- In a faithful store, what a group lists under a name is the summary of the record. -/
theorem Faithful.member_eq (h : store.Faithful) {group : InstanceGroup}
    (hgroup : group ∈ store.groups) {m : Member} (hm : m ∈ group.members)
    (hfound : store.instances.find? m.id = some i) : i.member = m := by
  obtain ⟨listed, hlisted, -, -, rfl⟩ := (h.members group hgroup m).mp hm
  obtain ⟨key, hkey⟩ := store.instances.mem_values_iff.mp hlisted
  obtain rfl := h.named key listed hkey
  obtain rfl : listed = i := Option.some.inj (hkey.symm.trans hfound)
  rfl

/-- A faithful store is coherent. -/
theorem Faithful.coherent (h : store.Faithful) : store.Coherent where
  nodup := h.nodup
  listed := by
    intro group hgroup id
    rw [InstanceGroup.hasMember_iff, List.mem_map]
    constructor
    · rintro ⟨m, hm, rfl⟩
      obtain ⟨i, hi, hlive, hnames, rfl⟩ := (h.members group hgroup m).mp hm
      obtain ⟨key, hkey⟩ := store.instances.mem_values_iff.mp hi
      obtain rfl := h.named key i hkey
      exact ⟨i, hkey, hlive, hnames⟩
    · rintro ⟨i, hi, hlive, hnames⟩
      have hlisted := store.instances.mem_values_iff.mpr ⟨id, hi⟩
      exact ⟨i.member, (h.members group hgroup i.member).mpr ⟨i, hlisted, hlive, hnames, rfl⟩,
        h.named id i hi⟩

/-- A coherent store is faithful when its groups have different names, its records are held under
their own, and each member is the summary of the record of its name. -/
theorem Coherent.faithful (h : store.Coherent) (hdistinct : (store.groups.map (·.id)).Nodup)
    (hnamed : ∀ id i, store.instances.find? id = some i → i.id = id)
    (hsummary : ∀ group ∈ store.groups, ∀ m ∈ group.members, ∀ i,
      store.instances.find? m.id = some i → i.member = m) : store.Faithful where
  distinct := hdistinct
  named := hnamed
  nodup := h.nodup
  members := by
    intro group hgroup m
    constructor
    · intro hm
      have hlisted := InstanceGroup.hasMember_iff.mpr (List.mem_map_of_mem hm)
      obtain ⟨i, hi, hlive, hnames⟩ := (h.listed group hgroup m.id).mp hlisted
      exact ⟨i, store.instances.mem_values_iff.mpr ⟨m.id, hi⟩, hlive, hnames,
        hsummary group hgroup m hm i hi⟩
    · rintro ⟨i, hi, hlive, hnames, rfl⟩
      obtain ⟨key, hkey⟩ := store.instances.mem_values_iff.mp hi
      obtain rfl := hnamed key i hkey
      -- What is listed under the name is a summary of the same record.
      have hlisted := (h.listed group hgroup i.id).mpr ⟨i, hkey, hlive, hnames⟩
      obtain ⟨m, hm, hid⟩ := List.mem_map.mp (InstanceGroup.hasMember_iff.mp hlisted)
      rw [hsummary group hgroup m hm i (by rw [hid, hkey])]
      exact hm

/-! ### What requests do -/

/-- A faithful store stays so when its content is kept. -/
theorem Faithful.of_kept (h : store.Faithful) (hkept : Kept store after) : after.Faithful where
  distinct := by
    rw [hkept.groups]
    exact h.distinct
  named := by
    rw [hkept.instances]
    exact h.named
  nodup := by
    rw [hkept.groups]
    exact h.nodup
  members := by
    rw [hkept.groups, hkept.instances]
    exact h.members

/-- A faithful store stays so when a record of a free name comes in. -/
theorem Faithful.of_registered (hregistered : Registered store i after)
    (hfree : store.instances.find? i.id = none) (h : store.Faithful) : after.Faithful := by
  refine (h.coherent.of_registered hregistered hfree).faithful ?_ ?_ ?_
  · have hframes : after.groups.map (·.frame) = store.groups.map (·.frame) :=
      frames_of_map (fun group => by split <;> rfl) hregistered.groups
    rw [ids_eq_of_frames_eq hframes]
    exact h.distinct
  · intro id found hfound
    rw [hregistered.instances, OrderedMap.find?_insert] at hfound
    split at hfound
    case isTrue hid =>
      cases hfound
      exact hid.symm
    case isFalse => exact h.named id found hfound
  · rw [hregistered.groups, List.forall_mem_map]
    intro group hgroup m hm found hfound
    rw [hregistered.instances, OrderedMap.find?_insert] at hfound
    -- A name that is listed already is not the free one, so the record of it is as before.
    have hold : m ∈ group.members → found.member = m := by
      intro hm
      have hlisted := InstanceGroup.hasMember_iff.mpr (List.mem_map_of_mem hm)
      have hother : m.id ≠ i.id := by
        intro hid
        rw [hid, h.coherent.hasMember_eq_false hfree hgroup] at hlisted
        cases hlisted
      rw [if_neg hother] at hfound
      exact h.member_eq hgroup hm hfound
    split at hm
    · rw [InstanceGroup.addMember, List.mem_append, List.mem_singleton] at hm
      rcases hm with hm | rfl
      · exact hold hm
      · obtain rfl : i = found := Option.some.inj ((if_pos rfl).symm.trans hfound)
        rfl
    · exact hold hm

/-- A faithful store stays so when an instance is retired. -/
theorem Faithful.of_retired {id : InstanceId} (hfound : store.instances.find? id = some i)
    (hgroups : after.groups = store.groups.map (·.dropMember id))
    (hinstances : after.instances = store.instances.insert id
      { i with status := "deleted", deletedAt := some store.clock })
    (h : store.Faithful) : after.Faithful := by
  refine (h.coherent.of_retired hgroups hinstances).faithful ?_ ?_ ?_
  · have hframes : after.groups.map (·.frame) = store.groups.map (·.frame) :=
      frames_of_map (fun group => InstanceGroup.frame_dropMember group id) hgroups
    rw [ids_eq_of_frames_eq hframes]
    exact h.distinct
  · intro other found hother
    rw [hinstances, OrderedMap.find?_insert] at hother
    split at hother
    case isTrue hid =>
      cases hother
      exact (h.named id i hfound).trans hid.symm
    case isFalse => exact h.named other found hother
  · rw [hgroups, List.forall_mem_map]
    intro group hgroup m hm found hm'
    -- The instance that is retired is on no list, so the records of what is listed are as before.
    obtain ⟨hmem, hother⟩ := List.mem_filter.mp hm
    rw [hinstances, OrderedMap.find?_insert, if_neg (of_decide_eq_true hother)] at hm'
    exact h.member_eq hgroup hmem hm'

/-- A creation that succeeds gives out a name that is not taken, from a template whose parent is
another group than its own. -/
def Grants (store : Store) : (request : Request) → Reply request → Prop
  | .createInstance template, .ok id =>
    template.parentGroupId ≠ some template.groupId ∧ store.instances.find? id = none
  | _, _ => True

instance decidableGrants (store : Store) : (request : Request) → (reply : Reply request) →
    Decidable (store.Grants request reply)
  | .createInstance _, .ok _ => inferInstanceAs (Decidable (_ ∧ _))
  | .createInstance _, .error _ => .isTrue trivial
  | .listGroups, _ => .isTrue trivial
  | .getGroup _, _ => .isTrue trivial
  | .getInstance _, _ => .isTrue trivial
  | .destroyInstance _, _ => .isTrue trivial

/-- A faithful store stays so at every request. -/
theorem Faithful.of_effect {request : Request} {reply : Reply request}
    (heffect : Effect store request reply after) (hgrants : store.Grants request reply)
    (h : store.Faithful) : after.Faithful := by
  cases heffect with
  | kept hkept => exact h.of_kept hkept
  | launched hgroups hinstances =>
    obtain ⟨hparent, hfree⟩ := hgrants
    have hids := LaunchTemplate.nodup_groupIds hparent
    exact h.of_registered (registered_of_launched h.distinct hids hgroups hinstances) hfree
  | retired hfound _ hgroups hinstances => exact h.of_retired hfound hgroups hinstances

/-! ### Direct changes -/

/-- Putting an instance of a free name takes in its record. -/
theorem registered_putInstance (h : store.Faithful) (hfree : store.instances.find? i.id = none) :
    Registered store i (store.putInstance i) where
  groups := by
    rw [putInstance]
    split
    case isTrue hdeleted =>
      rw [List.map_congr_left fun group _ => if_neg fun hnames => ?_, List.map_id']
      · rfl
      · exact ne_true_of_eq_false hnames.1 hdeleted
    case isFalse hlive =>
      refine (groups_updateGroups_of_idem h.distinct i.groupIds
        (InstanceGroup.frame_enlistOnce i.member) (enlistOnce_enlistOnce i.member)).trans ?_
      refine List.map_congr_left fun group hgroup => if_congr ?_ ?_ rfl
      · rw [Instance.inGroup, List.contains_iff_mem, and_iff_right (eq_false_of_ne_true hlive)]
      · exact enlistOnce_of_not_hasMember (h.coherent.hasMember_eq_false hfree hgroup)
  instances := by
    rw [putInstance]
    split <;> rfl

/-- A faithful store stays so when it gets a group without members that no live instance names. -/
theorem Faithful.putGroup {group : InstanceGroup} (hmembers : group.members = [])
    (hnames : ∀ i ∈ store.instances.values, i.isDeleted = false → i.inGroup group.id = false)
    (h : store.Faithful) : (store.putGroup group).Faithful where
  distinct := nodup_putGroupIn group h.distinct
  named := h.named
  nodup := by
    intro other hother
    rcases mem_putGroupIn hother with rfl | hother
    · rw [hmembers]
      exact List.nodup_nil
    · exact h.nodup other hother
  members := by
    intro other hother m
    rcases mem_putGroupIn hother with rfl | hother
    · rw [hmembers]
      refine iff_of_false List.not_mem_nil ?_
      rintro ⟨i, hi, hlive, hin, -⟩
      exact ne_true_of_eq_false (hnames i hi hlive) hin
    · exact h.members other hother m

/-! ### Runs -/

/-- A change that brings in nothing but what is new: a group without members that no live instance
names, an instance of a name that is not taken. -/
def Prudent (store : Store) : Change → Prop
  | .putGroup group =>
    group.members = [] ∧
      ∀ i ∈ store.instances.values, i.isDeleted = false → i.inGroup group.id = false
  | .putInstance i => store.instances.find? i.id = none
  | .request request => store.Grants request (respond request store).1
  | _ => True

instance decidablePrudent (store : Store) : (change : Change) → Decidable (store.Prudent change)
  | .putGroup _ => inferInstanceAs (Decidable (_ ∧ _))
  | .putInstance _ => inferInstanceAs (Decidable (_ = _))
  | .request _ => inferInstanceAs (Decidable (store.Grants _ _))
  | .planFailure .. => .isTrue trivial
  | .setStalled _ => .isTrue trivial
  | .setClock _ => .isTrue trivial

/-- All changes of a run are prudent when it comes to them. -/
def PrudentAlong : Store → List Change → Prop
  | _, [] => True
  | store, change :: rest => store.Prudent change ∧ PrudentAlong (store.apply change) rest

instance decidablePrudentAlong : (store : Store) → (changes : List Change) →
    Decidable (PrudentAlong store changes)
  | _, [] => .isTrue trivial
  | store, change :: rest =>
    have := decidablePrudentAlong (store.apply change) rest
    inferInstanceAs (Decidable (_ ∧ _))

/-- A faithful store stays so at every prudent change. -/
theorem Faithful.apply {change : Change} (hprudent : store.Prudent change) (h : store.Faithful) :
    (store.apply change).Faithful := by
  cases change with
  | putGroup group => exact h.putGroup hprudent.1 hprudent.2
  | putInstance i => exact h.of_registered (registered_putInstance h hprudent) hprudent
  | planFailure => exact h.of_kept ⟨rfl, rfl, Nat.le_refl _⟩
  | setStalled => exact h.of_kept ⟨rfl, rfl, Nat.le_refl _⟩
  | setClock => exact h.of_kept ⟨rfl, rfl, Nat.le_refl _⟩
  | request request => exact h.of_effect (effect_respond store request) hprudent

/-- A faithful store stays so along a prudent run, wherever the run is stopped. -/
theorem Faithful.of_prudent {changes done : List Change} (hprudent : PrudentAlong store changes)
    (hdone : done <+: changes) (h : store.Faithful) : (done.foldl Store.apply store).Faithful := by
  induction done generalizing store changes with
  | nil => exact h
  | cons change rest ih =>
    obtain ⟨_, rfl⟩ := hdone
    exact ih hprudent.2 (List.prefix_append _ _) (h.apply hprudent.1)

/-! ### Loading -/

theorem faithful_empty : Faithful {} where
  distinct := List.nodup_nil
  named := nofun
  nodup := nofun
  members := nofun

/-- Loading groups without members into a store without instances leaves a faithful store without
instances. -/
theorem Faithful.putGroups {groups : List InstanceGroup}
    (hmembers : ∀ group ∈ groups, group.members = []) (hnone : store.instances = .empty)
    (h : store.Faithful) :
    (groups.foldl Store.putGroup store).Faithful ∧
      (groups.foldl Store.putGroup store).instances = .empty := by
  induction groups generalizing store with
  | nil => exact ⟨h, hnone⟩
  | cons group rest ih =>
    rw [List.forall_mem_cons] at hmembers
    refine ih hmembers.2 hnone (h.putGroup hmembers.1 ?_)
    rw [hnone]
    exact List.forall_mem_nil _

/-- Loading instances of different names, none of them taken, leaves a faithful store. -/
theorem Faithful.putInstances {instances : List Instance} (hdistinct : (instances.map (·.id)).Nodup)
    (hfree : ∀ i ∈ instances, store.instances.find? i.id = none) (h : store.Faithful) :
    (instances.foldl Store.putInstance store).Faithful := by
  induction instances generalizing store with
  | nil => exact h
  | cons i rest ih =>
    obtain ⟨hi, hrest⟩ := List.nodup_cons.mp hdistinct
    rw [List.forall_mem_cons] at hfree
    have hregistered := registered_putInstance h hfree.1
    refine ih hrest (fun other hother => ?_) (h.of_registered hregistered hfree.1)
    have hid : other.id ≠ i.id := fun hid => hi (List.mem_map.mpr ⟨other, hother, hid⟩)
    rw [hregistered.instances, OrderedMap.find?_insert, if_neg hid]
    exact hfree.2 other hother

/-- A store that is loaded from a snapshot without lists of members, whose instances have different
names, is faithful. -/
theorem faithful_ofSnapshot {snapshot : Snapshot}
    (hmembers : ∀ group ∈ snapshot.groups, group.members = [])
    (hdistinct : (snapshot.instances.map (·.id)).Nodup) : (ofSnapshot snapshot).Faithful := by
  obtain ⟨hgroups, hnone⟩ := faithful_empty.putGroups hmembers rfl
  refine hgroups.putInstances hdistinct fun i _ => ?_
  rw [hnone]
  rfl

/-- A store that is loaded from a snapshot without lists of members, whose instances have different
names, is faithful after every change of a prudent run. -/
theorem faithful_along {snapshot : Snapshot} {changes done : List Change}
    (hmembers : ∀ group ∈ snapshot.groups, group.members = [])
    (hdistinct : (snapshot.instances.map (·.id)).Nodup)
    (hprudent : PrudentAlong (ofSnapshot snapshot) changes) (hdone : done <+: changes) :
    Faithful (done.foldl Store.apply (ofSnapshot snapshot)) :=
  (faithful_ofSnapshot hmembers hdistinct).of_prudent hprudent hdone

/-- Two groups are loaded with two instances. Then an instance is created and another is deleted; a
creation while the store is stalled lists nothing, but uses a name up. At last a group comes in, and
an instance that is put into it and into one of the groups that were there. The names in all three
lists are those of the instances that are left. -/
theorem faithful_along_mixed :
    let template : LaunchTemplate := ⟨"n", "t", "i", none, "w", some "main", ""⟩
    let inst (id : InstanceId) (groupIds : List GroupId) : Instance :=
      ⟨id, "n", "active", "t", ⟨"i", .available⟩, "z", groupIds, none⟩
    let snapshot : Snapshot :=
      ⟨[⟨"main", "c", "", []⟩, ⟨"w", "w.c", "1:3", []⟩], [inst "a" ["main", "w"], inst "b" ["w"]]⟩
    let changes : List Change :=
      [.request (.createInstance template), .request (.destroyInstance "a"), .setStalled true,
        .request (.createInstance template), .putGroup ⟨"v", "v.c", "0:1", []⟩,
        .putInstance (inst "d" ["v", "main", "v"])]
    let store := changes.foldl Store.apply (ofSnapshot snapshot)
    store.groups.map (fun group => (group.id, group.members)) =
        [("main", [⟨"srv-00001", "creating"⟩, ⟨"d", "active"⟩]),
          ("w", [⟨"b", "active"⟩, ⟨"srv-00001", "creating"⟩]), ("v", [⟨"d", "active"⟩])] ∧
      store.Faithful := by
  intro template inst snapshot changes store
  have hprudent : PrudentAlong (ofSnapshot snapshot) changes := by decide +kernel
  exact ⟨by decide +kernel,
    faithful_along (by decide +kernel) (by decide +kernel) hprudent (List.prefix_refl changes)⟩

end Store

end ElasticGroups.Cloud
