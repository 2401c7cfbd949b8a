import ElasticGroups.Cloud.Snapshot
import ElasticGroups.Proofs.Cloud.Coherence

/-!
# Names of new instances

A store takes the names of new instances from a counter that starts at one, whatever the store was
loaded with. So no name is given out twice in one run, but nothing keeps a new instance from
getting the name of an instance that was put into the store. It then takes the place of that
instance.

The module introduces:

* `Store.Created before template id after` — all that a creation does that succeeds;
* `Store.issued store changes` — the names that a store gives out along a run.

What a creation takes over is told in full: no record but that of the new name
(`Store.Created.records_kept_iff`), and a group gets a second entry of a name only where it lists the
new name already (`Store.count_enroll_eq_iff`). A name that was given out before in the run is never
given out again (`Store.newId_notMem_issued`), and every name in a store was loaded, put or given out
(`Store.stored_of_foldl`), so what is taken over was loaded or put.
-/

namespace ElasticGroups.Cloud

/-- The name that an instance is given by the reply to a request. -/
def Request.given? : (request : Request) → Reply request → Option InstanceId
  | .createInstance _, .ok id => some id
  | _, _ => none

namespace Store

variable {store after : Store} {template : LaunchTemplate} {id : InstanceId}

/-! ### One creation -/

/-- A group after an instance is created: unless the store is stalled, a group that the template
names lists the new instance at the end. -/
def enroll (store : Store) (template : LaunchTemplate) (id : InstanceId) (group : InstanceGroup) :
    InstanceGroup :=
  if store.stalled = false ∧ group.id ∈ template.groupIds then
    group.addMember (template.instantiate id).member
  else group

/-- What a creation does that succeeds. -/
structure Created (before : Store) (template : LaunchTemplate) (id : InstanceId) (after : Store) :
    Prop where
  /-- The new instance gets the next name. -/
  name : id = newId (before.created + 1)
  /-- The name is used up. -/
  created : after.created = before.created + 1
  /-- A stalled store keeps its records; another one has a record of the new instance. -/
  instances : after.instances =
    if before.stalled = true then before.instances
    else before.instances.insert id (template.instantiate id)
  /-- A stalled store keeps its lists; in another one, the groups that the template names list the
  new instance. -/
  groups : after.groups =
    if before.stalled = true then before.groups
    else (before.updateGroups template.groupIds
      (·.addMember (template.instantiate id).member)).groups

/-- Creating an instance, when it succeeds. -/
theorem created_of_create (h : (store.create template).1 = .ok id) :
    Created store template id (store.create template).2 := by
  by_cases hgroup : (store.group? template.groupId).isNone = true
  · rw [create, if_pos hgroup] at h
    cases h
  · rw [create, if_neg hgroup] at h ⊢
    obtain rfl : newId (store.created + 1) = id := Except.ok.inj h
    -- The name is used up before the switch is looked at, so only the content depends on it.
    by_cases hstalled : store.stalled = true
    · dsimp only
      rw [if_pos hstalled]
      exact ⟨rfl, rfl, (if_pos hstalled).symm, (if_pos hstalled).symm⟩
    · dsimp only
      rw [if_neg hstalled]
      exact ⟨rfl, rfl, (if_neg hstalled).symm, (if_neg hstalled).symm⟩

/-- A request for an instance that is answered creates it. -/
theorem created_of_reply (h : (respond (.createInstance template) store).1 = .ok id) :
    Created store template id (respond (.createInstance template) store).2 := by
  rcases respond_eq store (.createInstance template) with ⟨error, hfailed⟩ | hserved
  · rw [hfailed] at h
    cases h
  · rw [hserved] at h ⊢
    -- The store behind the receipt has the same content, counter and switch.
    have hcreated := created_of_create h
    exact ⟨hcreated.name, hcreated.created, hcreated.instances, hcreated.groups⟩

namespace Created

variable (h : Created store template id after)

include h

/-- A creation touches no record but that of the new name. -/
theorem find?_of_ne {other : InstanceId} (hother : other ≠ id) :
    after.instances.find? other = store.instances.find? other := by
  rw [h.instances]
  split
  · rfl
  · rw [OrderedMap.find?_insert, if_neg hother]

/-- Unless the store is stalled, the record of the new name is that of the new instance. -/
theorem find?_self (hstalled : store.stalled = false) :
    after.instances.find? id = some (template.instantiate id) := by
  rw [h.instances, if_neg (ne_true_of_eq_false hstalled), OrderedMap.find?_insert, if_pos rfl]

/-- All records are kept by a stalled store, and by another one just when the new name is not taken,
or taken by a record like that of the new instance. -/
theorem records_kept_iff :
    (∀ other i, store.instances.find? other = some i → after.instances.find? other = some i) ↔
      store.stalled = true ∨
        ∀ i, store.instances.find? id = some i → i = template.instantiate id := by
  constructor
  · intro hkept
    -- The name of the new instance is the one at which a record can be lost.
    cases hstalled : store.stalled with
    | true => exact .inl rfl
    | false =>
      refine .inr fun i hi => ?_
      exact Option.some.inj ((hkept id i hi).symm.trans (h.find?_self hstalled))
  · rintro (hstalled | hsame) other i hi
    · rw [h.instances, if_pos hstalled]
      exact hi
    · by_cases hother : other = id
      · subst hother
        rw [h.instances]
        split
        · exact hi
        · rw [OrderedMap.find?_insert, if_pos rfl, hsame i hi]
      · rw [h.find?_of_ne hother]
        exact hi

/-- A creation enrolls the new instance with every group. -/
theorem groups_eq (hdistinct : (store.groups.map (·.id)).Nodup)
    (hparent : template.parentGroupId ≠ some template.groupId) :
    after.groups = store.groups.map (store.enroll template id) := by
  rw [h.groups]
  cases hstalled : store.stalled with
  | true =>
    -- A stalled store enrolls the instance nowhere.
    have hsame : ∀ group ∈ store.groups, store.enroll template id group = group := by
      intro group _
      exact if_neg fun hboth => ne_true_of_eq_false hboth.1 hstalled
    rw [if_pos rfl, List.map_congr_left hsame, List.map_id']
  | false =>
    -- The parent is another group, so no group is enrolled with twice.
    have hids := LaunchTemplate.nodup_groupIds hparent
    refine (groups_updateGroups hdistinct hids fun group =>
      InstanceGroup.frame_addMember group _).trans ?_
    refine List.map_congr_left fun group _ => if_congr ?_ rfl rfl
    rw [and_iff_right hstalled]

end Created

/-! ### Entries of groups -/

/-- A group gets an entry of the new name, if it gets any. -/
theorem count_enroll (store : Store) (template : LaunchTemplate) (id : InstanceId)
    (group : InstanceGroup) (other : InstanceId) :
    ((store.enroll template id group).members.map (·.id)).count other =
      (group.members.map (·.id)).count other +
        if (store.stalled = false ∧ group.id ∈ template.groupIds) ∧ id = other then 1 else 0 := by
  rw [enroll]
  split
  case isTrue henrolls =>
    rw [InstanceGroup.addMember, List.map_append, List.count_append, List.map_singleton,
      List.count_singleton]
    refine congrArg _ (if_congr ?_ rfl rfl)
    rw [and_iff_right henrolls]
    exact beq_iff_eq
  case isFalse hleaves => rw [if_neg fun hboth => hleaves hboth.1, Nat.add_zero]

/-- A group gets a second entry of no name that it lists, just when the new name is not one of
those. A group that is not to list the new instance gets no entry at all. -/
theorem count_enroll_eq_iff (store : Store) (template : LaunchTemplate) (id : InstanceId)
    (group : InstanceGroup) :
    (∀ other, group.hasMember other = true →
        ((store.enroll template id group).members.map (·.id)).count other =
          (group.members.map (·.id)).count other) ↔
      store.stalled = true ∨ group.id ∉ template.groupIds ∨ group.hasMember id = false := by
  constructor
  · intro hsame
    -- A group that lists the name already has one entry of it more than before.
    by_contra! hlists
    obtain ⟨hstalled, hnames, hlists⟩ := hlists
    have hcount := hsame id (eq_true_of_ne_false hlists)
    rw [count_enroll, if_pos ⟨⟨eq_false_of_ne_true hstalled, hnames⟩, rfl⟩] at hcount
    omega
  · intro hapart other hother
    rw [count_enroll, if_neg, Nat.add_zero]
    rintro ⟨⟨hstalled, hnames⟩, rfl⟩
    rcases hapart with h | h | h
    · exact ne_true_of_eq_false hstalled h
    · exact h hnames
    · exact ne_true_of_eq_false h hother

/-! ### Runs -/

/-- The name that an instance is given by a change. -/
def given? (store : Store) : Change → Option InstanceId
  | .request request => request.given? (respond request store).1
  | _ => none

/-- The names that a store gives out along a run. -/
def issued : Store → List Change → List InstanceId
  | _, [] => []
  | store, change :: rest => (store.given? change).toList ++ issued (store.apply change) rest

/-- A name that is given out is the next one, and is used up. -/
theorem created_of_given? {change : Change} (h : store.given? change = some id) :
    id = newId (store.created + 1) ∧ (store.apply change).created = store.created + 1 := by
  -- Nothing but a creation that is answered gives a name.
  cases change with
  | request request =>
    cases request with
    | createInstance template =>
      cases hreply : (respond (.createInstance template) store).1 with
      | error error =>
        rw [given?, hreply] at h
        cases h
      | ok given =>
        rw [given?, hreply] at h
        obtain rfl : given = id := Option.some.inj h
        exact ⟨(created_of_reply hreply).name, (created_of_reply hreply).created⟩
    | listGroups => cases h
    | getGroup => cases h
    | getInstance => cases h
    | destroyInstance => cases h
  | putGroup => cases h
  | putInstance => cases h
  | planFailure => cases h
  | setStalled => cases h
  | setClock => cases h

/-- No change takes names back. -/
theorem created_le_apply (store : Store) (change : Change) :
    store.created ≤ (store.apply change).created := by
  cases change with
  | request request => exact (effect_respond store request).created_le
  | putInstance i =>
    rw [apply, putInstance]
    split <;> exact Nat.le_refl _
  | putGroup => exact Nat.le_refl _
  | planFailure => exact Nat.le_refl _
  | setStalled => exact Nat.le_refl _
  | setClock => exact Nat.le_refl _

/-- No run takes names back. -/
theorem created_le_foldl (store : Store) (changes : List Change) :
    store.created ≤ (changes.foldl Store.apply store).created := by
  induction changes generalizing store with
  | nil => exact Nat.le_refl _
  | cons change rest ih => exact Nat.le_trans (created_le_apply store change) (ih _)

/-- The names that are given out along a run are those that the counter comes by. -/
theorem exists_of_mem_issued {changes : List Change} (h : id ∈ issued store changes) :
    ∃ n, id = newId n ∧ store.created < n ∧ n ≤ (changes.foldl Store.apply store).created := by
  induction changes generalizing store with
  | nil => cases h
  | cons change rest ih =>
    rcases List.mem_append.mp h with hfirst | hrest
    · -- The first change gives the next name, and the counter does not go back behind it.
      obtain ⟨hname, hcreated⟩ := created_of_given? (Option.mem_toList.mp hfirst)
      have hle := created_le_foldl (store.apply change) rest
      exact ⟨store.created + 1, hname, Nat.lt_succ_self _, hcreated ▸ hle⟩
    · obtain ⟨n, hname, hlt, hle⟩ := ih hrest
      exact ⟨n, hname, Nat.lt_of_le_of_lt (created_le_apply store change) hlt, hle⟩

/-- The next name is none of those that were given out along a run. -/
theorem newId_notMem_issued (store : Store) (changes : List Change) :
    newId ((changes.foldl Store.apply store).created + 1) ∉ issued store changes := by
  intro hissued
  obtain ⟨n, hname, -, hle⟩ := exists_of_mem_issued hissued
  have hn := newId_injective hname
  omega

/-! ### Where stored names come from -/

/-- A request stores no name but that which it gives. -/
theorem Effect.stored {request : Request} {reply : Reply request}
    (h : Effect store request reply after) {i : Instance}
    (hfound : after.instances.find? id = some i) :
    (store.instances.find? id).isSome = true ∨ request.given? reply = some id := by
  cases h with
  | kept hkept =>
    rw [hkept.instances] at hfound
    exact .inl (Option.isSome_of_eq_some hfound)
  | launched _ hinstances =>
    rw [hinstances, OrderedMap.find?_insert] at hfound
    split at hfound
    case isTrue hid => exact .inr (congrArg some hid.symm)
    case isFalse => exact .inl (Option.isSome_of_eq_some hfound)
  | retired hold _ _ hinstances =>
    rw [hinstances, OrderedMap.find?_insert] at hfound
    split at hfound
    case isTrue hid =>
      subst hid
      exact .inl (Option.isSome_of_eq_some hold)
    case isFalse => exact .inl (Option.isSome_of_eq_some hfound)

/-- The name of the instance that a change puts into a store. -/
def Change.put? : Change → Option InstanceId
  | .putInstance i => some i.id
  | _ => none

/-- Putting an instance stores its record and no other. -/
theorem find?_putInstance (store : Store) (i : Instance) (id : InstanceId) :
    (store.putInstance i).instances.find? id =
      if id = i.id then some i else store.instances.find? id := by
  rw [putInstance]
  split <;> exact OrderedMap.find?_insert _ _ _ _

/-- A change stores no name but that which it puts or gives. -/
theorem stored_of_apply {change : Change} {i : Instance}
    (hfound : (store.apply change).instances.find? id = some i) :
    (store.instances.find? id).isSome = true ∨ change.put? = some id ∨
      store.given? change = some id := by
  cases change with
  | request request =>
    exact ((effect_respond store request).stored hfound).imp_right .inr
  | putInstance put =>
    have hput := (find?_putInstance store put id).symm.trans hfound
    split at hput
    case isTrue hid => exact .inr (.inl (congrArg some hid.symm))
    case isFalse => exact .inl (Option.isSome_of_eq_some hput)
  | putGroup => exact .inl (Option.isSome_of_eq_some hfound)
  | planFailure => exact .inl (Option.isSome_of_eq_some hfound)
  | setStalled => exact .inl (Option.isSome_of_eq_some hfound)
  | setClock => exact .inl (Option.isSome_of_eq_some hfound)

/-- What is stored after a run was stored before it, or was put or given a name along it. -/
theorem stored_of_foldl {changes : List Change}
    (h : ((changes.foldl Store.apply store).instances.find? id).isSome = true) :
    (store.instances.find? id).isSome = true ∨ id ∈ changes.filterMap Change.put? ∨
      id ∈ issued store changes := by
  induction changes generalizing store with
  | nil => exact .inl h
  | cons change rest ih =>
    rw [List.mem_filterMap]
    rcases ih h with hstored | hput | hissued
    · obtain ⟨i, hi⟩ := Option.isSome_iff_exists.mp hstored
      rcases stored_of_apply hi with hbefore | hput | hgiven
      · exact .inl hbefore
      · exact .inr (.inl ⟨change, List.mem_cons_self, hput⟩)
      · exact .inr (.inr (List.mem_append_left _ (Option.mem_toList.mpr hgiven)))
    · obtain ⟨other, hother, hput⟩ := List.mem_filterMap.mp hput
      exact .inr (.inl ⟨other, List.mem_cons_of_mem _ hother, hput⟩)
    · exact .inr (.inr (List.mem_append_right _ hissued))

/-! ### Stores that were loaded -/

/-- Loading groups stores no instance. -/
theorem instances_putGroups (groups : List InstanceGroup) (store : Store) :
    (groups.foldl putGroup store).instances = store.instances := by
  induction groups generalizing store with
  | nil => rfl
  | cons group rest ih => exact ih (store.putGroup group)

/-- Loading instances stores no names but theirs. -/
theorem stored_of_putInstances {instances : List Instance}
    (h : ((instances.foldl putInstance store).instances.find? id).isSome = true) :
    (store.instances.find? id).isSome = true ∨ id ∈ instances.map (·.id) := by
  induction instances generalizing store with
  | nil => exact .inl h
  | cons i rest ih =>
    rw [List.map_cons, List.mem_cons]
    rcases ih h with hstored | hrest
    · rw [find?_putInstance] at hstored
      split at hstored
      case isTrue hid => exact .inr (.inl hid)
      case isFalse => exact .inl hstored
    · exact .inr (.inr hrest)

/-- A store that was loaded has the names of the snapshot. -/
theorem stored_of_ofSnapshot {snapshot : Snapshot}
    (h : ((ofSnapshot snapshot).instances.find? id).isSome = true) :
    id ∈ snapshot.instances.map (·.id) := by
  rcases stored_of_putInstances h with hnone | hloaded
  · rw [instances_putGroups] at hnone
    cases hnone
  · exact hloaded

/-- Loading a snapshot builds a store. -/
theorem built_ofSnapshot (snapshot : Snapshot) : (ofSnapshot snapshot).Built := by
  have hgroups : (snapshot.groups.foldl putGroup {}).Built :=
    List.foldlRecOn snapshot.groups putGroup .empty fun _ h group _ => h.putGroup group
  exact List.foldlRecOn snapshot.instances putInstance hgroups fun _ h i _ => h.putInstance i

/-- A new instance never gets a name that was given out before in the run. So its name is taken only
if an instance of that name was loaded or put into the store. All records are kept just when the
store is stalled, or has no record of the name other than the new one; the record of the name is all
that can be lost. A group gets a second entry of a name just when it is to list the new instance and
lists its name already; apart from that, the groups that the template names get one member each. -/
theorem create_takes_over_iff (snapshot : Snapshot) (changes : List Change)
    (template : LaunchTemplate) (id : InstanceId) :
    let before := changes.foldl Store.apply (ofSnapshot snapshot)
    let after := (respond (.createInstance template) before).2
    (respond (.createInstance template) before).1 = .ok id →
      id ∉ issued (ofSnapshot snapshot) changes ∧
      ((before.instances.find? id).isSome = true →
        id ∈ snapshot.instances.map (·.id) ++ changes.filterMap Change.put?) ∧
      (∀ other ≠ id, after.instances.find? other = before.instances.find? other) ∧
      ((∀ other i, before.instances.find? other = some i →
          after.instances.find? other = some i) ↔
        before.stalled = true ∨
          ∀ i, before.instances.find? id = some i → i = template.instantiate id) ∧
      (template.parentGroupId ≠ some template.groupId →
        after.groups = before.groups.map (before.enroll template id) ∧
        ∀ group ∈ before.groups,
          (∀ other, group.hasMember other = true →
              ((before.enroll template id group).members.map (·.id)).count other =
                (group.members.map (·.id)).count other) ↔
            before.stalled = true ∨ group.id ∉ template.groupIds ∨
              group.hasMember id = false) := by
  intro before after hreply
  have hcreated : Created before template id after := created_of_reply hreply
  have hbuilt : before.Built := (built_ofSnapshot snapshot).foldl changes
  have hfresh : id ∉ issued (ofSnapshot snapshot) changes := by
    rw [hcreated.name]
    exact newId_notMem_issued (ofSnapshot snapshot) changes
  refine ⟨hfresh, fun hstored => ?_, fun other => hcreated.find?_of_ne, hcreated.records_kept_iff,
    fun hparent => ?_⟩
  · -- The name was not given, so what is stored under it was loaded or put.
    rw [List.mem_append]
    rcases stored_of_foldl hstored with hloaded | hput | hissued
    · exact .inl (stored_of_ofSnapshot hloaded)
    · exact .inr hput
    · exact absurd hissued hfresh
  · exact ⟨hcreated.groups_eq hbuilt.distinct hparent,
      fun group _ => count_enroll_eq_iff before template id group⟩

/-- A store is loaded with an instance of the fourth name. One creation is carried out, and another
uses a name up while the store is stalled. So the next instance has the third name: no record is
lost to it, and each of its two groups gets one member. -/
theorem create_takes_over_iff_stored :
    let template : LaunchTemplate := ⟨"n", "t", "i", none, "w", some "main", ""⟩
    let snapshot : Snapshot :=
      ⟨[⟨"main", "c", "", []⟩, ⟨"w", "w.c", "1:3", []⟩],
        [⟨"srv-00004", "n", "active", "t", ⟨"i", .available⟩, "z", ["main", "w"], none⟩]⟩
    let create : Change := .request (.createInstance template)
    let changes : List Change := [create, .setStalled true, create, .setStalled false]
    let before := changes.foldl Store.apply (ofSnapshot snapshot)
    let after := (respond (.createInstance template) before).2
    (respond (.createInstance template) before).1 = .ok "srv-00003" ∧
      "srv-00003" ∉ issued (ofSnapshot snapshot) changes ∧
      (∀ other i, before.instances.find? other = some i →
        after.instances.find? other = some i) ∧
      after.groups = before.groups.map (before.enroll template "srv-00003") ∧
      after.groups.map (·.members) =
        [[⟨"srv-00004", "active"⟩, ⟨"srv-00001", "creating"⟩, ⟨"srv-00003", "creating"⟩],
          [⟨"srv-00004", "active"⟩, ⟨"srv-00001", "creating"⟩, ⟨"srv-00003", "creating"⟩]] := by
  intro template snapshot create changes before after
  have hreply : (respond (.createInstance template) before).1 = .ok "srv-00003" := by
    decide +kernel
  obtain ⟨hfresh, -, -, hkept, hgroups⟩ :=
    create_takes_over_iff snapshot changes template "srv-00003" hreply
  have hnone : before.instances.find? "srv-00003" = none := by decide +kernel
  have hrecords := hkept.mpr (.inr fun i hi => nomatch hnone.symm.trans hi)
  exact ⟨hreply, hfresh, hrecords, (hgroups (by decide)).1, by decide +kernel⟩

/-- A store that is loaded from the snapshot of another gives out the names of the other again. -/
theorem takeover_after_reload :
    let first : LaunchTemplate := ⟨"n", "t", "i", none, "w", none, ""⟩
    let second : LaunchTemplate := ⟨"m", "u", "j", none, "w", none, ""⟩
    let source := (respond (.createInstance first) (ofSnapshot ⟨[⟨"w", "w.c", "1:3", []⟩], []⟩)).2
    let loaded := ofSnapshot source.snapshot
    let after := (respond (.createInstance second) loaded).2
    (respond (.createInstance second) loaded).1 = .ok "srv-00001" ∧
      loaded.instances.find? "srv-00001" = some (first.instantiate "srv-00001") ∧
      after.instances.find? "srv-00001" = some (second.instantiate "srv-00001") ∧
      loaded.groups.map (·.members) = [[⟨"srv-00001", "creating"⟩]] ∧
      after.groups.map (·.members) =
        [[⟨"srv-00001", "creating"⟩, ⟨"srv-00001", "creating"⟩]] := by
  decide +kernel

end Store

end ElasticGroups.Cloud
