import ElasticGroups.Data.Json.Writer
import ElasticGroups.Proofs.Cloud.Codec
import ElasticGroups.Proofs.Cloud.Listing
import ElasticGroups.Proofs.Cloud.Naming

/-!
# Reloading a store

A snapshot that a store hands out is loaded into the same content. Loading puts every record in
again, which changes no list: a live instance is listed already wherever it is to be listed. This
holds of every store that was loaded, however often a snapshot repeats a name and whatever members
its groups list, and no later change undoes it but that of a group.

The module introduces:

* `Store.Settled` — every live record is on the lists of the known groups that it names;
* `Store.Fits`, `Store.Change.Fits` — every time of deletion fits a word, and so does the clock;
* `Store.Change.PutsNoGroup` — the change is not that of a whole group.

Both properties hold of loaded stores and are kept by one change, and so by a run
(`Store.Settled.foldl`, `Store.Fits.foldl`). A settled store is reloaded as it is
(`Store.Settled.snapshot_ofSnapshot`).
-/

namespace ElasticGroups.Cloud

open Data

namespace Store

/-- Every live record is on the lists of the known groups that it names. -/
structure Settled (store : Store) : Prop where
  /-- All groups have different names. -/
  distinct : (store.groups.map (·.id)).Nodup
  /-- Every record is held under its own name. -/
  named : ∀ id i, store.instances.find? id = some i → i.id = id
  /-- A known group that a live record names lists its instance. -/
  listed : ∀ id i, store.instances.find? id = some i → i.isDeleted = false →
    ∀ group ∈ store.groups, i.inGroup group.id = true → group.hasMember id = true

variable {store after : Store} {i : Instance}

/-! ### What keeps a store settled -/

/-- A store stays settled when its content is kept. -/
theorem Settled.of_kept (h : store.Settled) (hkept : Kept store after) : after.Settled where
  distinct := by
    rw [hkept.groups]
    exact h.distinct
  named := by
    rw [hkept.instances]
    exact h.named
  listed := by
    rw [hkept.groups, hkept.instances]
    exact h.listed

/-- A store stays settled when one record is replaced, provided that the groups that a live record
names list it and that no group drops another instance. -/
theorem Settled.of_insert (hinstances : after.instances = store.instances.insert i.id i)
    (hids : after.groups.map (·.id) = store.groups.map (·.id))
    (hgroups : ∀ group ∈ after.groups, ∃ old ∈ store.groups, old.id = group.id ∧
      (∀ other ≠ i.id, old.hasMember other = true → group.hasMember other = true) ∧
      (i.isDeleted = false → i.inGroup group.id = true → group.hasMember i.id = true))
    (h : store.Settled) : after.Settled where
  distinct := hids ▸ h.distinct
  named := by
    intro id found hfound
    rw [hinstances, OrderedMap.find?_insert] at hfound
    split at hfound
    case isTrue hid =>
      cases hfound
      exact hid.symm
    case isFalse => exact h.named id found hfound
  listed := by
    intro id found hfound hlive group hgroup hnames
    obtain ⟨old, hold, hid, hothers, hself⟩ := hgroups group hgroup
    rw [hinstances, OrderedMap.find?_insert] at hfound
    split at hfound
    case isTrue heq =>
      cases hfound
      exact heq ▸ hself hlive hnames
    case isFalse hne =>
      exact hothers id hne (h.listed id found hfound hlive old hold (hid ▸ hnames))

/-- A change that lists a member and drops none, made to the groups of some names. -/
theorem exists_of_mem_updateGroups {change : InstanceGroup → InstanceGroup} {id : InstanceId}
    (hdistinct : (store.groups.map (·.id)).Nodup)
    (hchange : ∀ group, (change group).frame = group.frame)
    (hothers : ∀ group other, group.hasMember other = true → (change group).hasMember other = true)
    (hself : ∀ group, (change group).hasMember id = true) {ids : List GroupId}
    {group : InstanceGroup} (hgroup : group ∈ (store.updateGroups ids change).groups) :
    ∃ old ∈ store.groups, old.id = group.id ∧
      (∀ other, old.hasMember other = true → group.hasMember other = true) ∧
      (group.id ∈ ids → group.hasMember id = true) := by
  induction ids generalizing store with
  | nil => exact ⟨group, hgroup, rfl, fun _ h => h, fun hnone => absurd hnone List.not_mem_nil⟩
  | cons first rest ih =>
    obtain ⟨middle, hdistinct', hmiddle, hstep⟩ :=
      groups_updateGroups_cons hdistinct hchange first rest
    rw [hstep] at hgroup
    obtain ⟨between, hbetween, hid, hkept, hlisted⟩ := ih hdistinct' hgroup
    rw [hmiddle] at hbetween
    obtain ⟨old, hold, rfl⟩ := List.mem_map.mp hbetween
    by_cases hfirst : old.id = first
    · rw [if_pos hfirst] at hid hkept
      have hsame : old.id = (change old).id :=
        (InstanceGroup.id_eq_of_frame_eq (hchange old)).symm
      exact ⟨old, hold, hsame.trans hid, fun other hother => hkept other (hothers old other hother),
        fun _ => hkept id (hself old)⟩
    · rw [if_neg hfirst] at hid hkept
      refine ⟨old, hold, hid, hkept, fun hnames => hlisted ?_⟩
      exact (List.mem_cons.mp hnames).resolve_left fun h => hfirst (hid.trans h)

/-- A store stays settled when a record comes in and onto the lists of the groups that it names,
whatever was held under its name before. -/
theorem Settled.of_updateGroups {change : InstanceGroup → InstanceGroup}
    (hgroups : after.groups = (store.updateGroups i.groupIds change).groups)
    (hinstances : after.instances = store.instances.insert i.id i)
    (hchange : ∀ group, (change group).frame = group.frame)
    (hothers : ∀ group other, group.hasMember other = true → (change group).hasMember other = true)
    (hself : ∀ group, (change group).hasMember i.id = true) (h : store.Settled) :
    after.Settled := by
  refine h.of_insert hinstances ?_ fun group hgroup => ?_
  · rw [hgroups]
    exact ids_eq_of_frames_eq (frames_updateGroups hchange i.groupIds)
  · rw [hgroups] at hgroup
    obtain ⟨old, hold, hid, hkept, hlisted⟩ :=
      exists_of_mem_updateGroups h.distinct hchange hothers hself hgroup
    exact ⟨old, hold, hid, fun other _ => hkept other, fun _ hnames =>
      hlisted (List.contains_iff_mem.mp hnames)⟩

/-- A settled store stays so at every request, also where a creation takes over a name. -/
theorem Settled.of_effect {request : Request} {reply : Reply request}
    (heffect : Effect store request reply after) (h : store.Settled) : after.Settled := by
  cases heffect with
  | kept hkept => exact h.of_kept hkept
  | @launched template _ hgroups hinstances =>
    refine h.of_updateGroups (i := template.instantiate (newId (store.created + 1))) hgroups
      hinstances (fun _ => rfl) (fun group other hother => ?_) fun group => ?_
    · exact InstanceGroup.hasMember_addMember.mpr (.inl hother)
    · exact InstanceGroup.hasMember_addMember.mpr (.inr rfl)
  | @retired id i _ hfound hlive hgroups hinstances =>
    obtain rfl := h.named id i hfound
    refine h.of_insert (i := { i with status := "deleted", deletedAt := some store.clock })
      hinstances ?_ ?_
    · exact ids_eq_of_frames_eq
        (frames_of_map (fun group => InstanceGroup.frame_dropMember group i.id) hgroups)
    · rw [hgroups, List.forall_mem_map]
      intro group hgroup
      refine ⟨group, hgroup, rfl, fun other hother hlisted => ?_, nofun⟩
      exact InstanceGroup.hasMember_dropMember.mpr ⟨hlisted, hother⟩

/-- Putting an instance replaces its record. -/
theorem instances_putInstance (store : Store) (i : Instance) :
    (store.putInstance i).instances = store.instances.insert i.id i := by
  rw [putInstance]
  split <;> rfl

/-- A settled store stays so when an instance is put into it. -/
theorem Settled.putInstance (h : store.Settled) (i : Instance) : (store.putInstance i).Settled := by
  by_cases hdeleted : i.isDeleted = true
  · refine h.of_insert (instances_putInstance store i) ?_ fun group hgroup => ?_
    · rw [Store.putInstance, if_pos hdeleted]
      rfl
    · rw [Store.putInstance, if_pos hdeleted] at hgroup
      exact ⟨group, hgroup, rfl, fun _ _ hother => hother, fun hlive =>
        absurd hdeleted (ne_true_of_eq_false hlive)⟩
  · refine h.of_updateGroups ?_ (instances_putInstance store i)
      (InstanceGroup.frame_enlistOnce i.member) ?_ (hasMember_enlistOnce i.member)
    · rw [Store.putInstance, if_neg hdeleted]
      rfl
    · intro group other hother
      rw [enlistOnce]
      split
      · exact hother
      · exact InstanceGroup.hasMember_addMember.mpr (.inl hother)

/-- The change is not that of a whole group. -/
def Change.PutsNoGroup : Change → Prop
  | .putGroup _ => False
  | _ => True

/-- A settled store stays so at every change but that of a group. -/
theorem Settled.apply {change : Change} (hchange : change.PutsNoGroup) (h : store.Settled) :
    (store.apply change).Settled := by
  cases change with
  | putGroup => exact hchange.elim
  | putInstance i => exact h.putInstance i
  | planFailure => exact h.of_kept ⟨rfl, rfl, Nat.le_refl _⟩
  | setStalled => exact h.of_kept ⟨rfl, rfl, Nat.le_refl _⟩
  | setClock => exact h.of_kept ⟨rfl, rfl, Nat.le_refl _⟩
  | request request => exact h.of_effect (effect_respond store request)

/-- A settled store stays so along a run that puts no groups. -/
theorem Settled.foldl {changes : List Change} (hchanges : ∀ change ∈ changes, change.PutsNoGroup)
    (h : store.Settled) : (changes.foldl Store.apply store).Settled :=
  List.foldlRecOn changes Store.apply h fun _ h change hchange => h.apply (hchanges change hchange)

/-- A loaded store is settled: its groups come in before any record does. -/
theorem settled_ofSnapshot (s : Snapshot) : (ofSnapshot s).Settled := by
  have hgroups : (s.groups.foldl Store.putGroup {}).Settled := by
    have hnone : (s.groups.foldl Store.putGroup {}).instances = .empty :=
      instances_putGroups s.groups {}
    refine ⟨?_, ?_, ?_⟩
    · exact (List.foldlRecOn s.groups Store.putGroup Built.empty
        fun _ h group _ => h.putGroup group).distinct
    · rw [hnone]
      nofun
    · rw [hnone]
      nofun
  exact List.foldlRecOn s.instances Store.putInstance hgroups fun _ h i _ => h.putInstance i

/-! ### Reloading -/

/-- A group of a new name comes last. -/
theorem putGroupIn_of_notMem {group : InstanceGroup} {groups : List InstanceGroup}
    (h : group.id ∉ groups.map (·.id)) : putGroupIn group groups = groups ++ [group] := by
  induction groups with
  | nil => rfl
  | cons other rest ih =>
    rw [List.map_cons, List.mem_cons, not_or] at h
    rw [putGroupIn, if_neg (Ne.symm h.1), ih h.2]
    rfl

/-- Groups of different new names are appended in their order. -/
theorem groups_putGroups {groups : List InstanceGroup} {store : Store}
    (h : ((store.groups ++ groups).map (·.id)).Nodup) :
    (groups.foldl putGroup store).groups = store.groups ++ groups := by
  induction groups generalizing store with
  | nil => simp
  | cons group rest ih =>
    have hlast : (store.putGroup group).groups = store.groups ++ [group] := by
      refine putGroupIn_of_notMem fun hmem => ?_
      rw [List.map_append, List.nodup_append] at h
      exact h.2.2 _ hmem _ List.mem_cons_self rfl
    have happend : (store.putGroup group).groups ++ rest = store.groups ++ group :: rest := by
      rw [hlast, List.append_assoc]
      rfl
    exact (ih (happend ▸ h)).trans happend

/-- Putting an instance that is listed wherever it is to be listed changes no group. -/
theorem groups_putInstance_of_listed (hdistinct : (store.groups.map (·.id)).Nodup)
    (hlisted : i.isDeleted = false → ∀ group ∈ store.groups, i.inGroup group.id = true →
      group.hasMember i.id = true) : (store.putInstance i).groups = store.groups := by
  rw [putInstance]
  split
  case isTrue => rfl
  case isFalse hlive =>
    have hself : ∀ group ∈ store.groups,
        (if group.id ∈ i.groupIds then enlistOnce i.member group else group) = group := by
      intro group hgroup
      split
      case isTrue hnames =>
        exact enlistOnce_of_hasMember
          (hlisted (eq_false_of_ne_true hlive) group hgroup (List.contains_iff_mem.mpr hnames))
      case isFalse => rfl
    refine (groups_updateGroups_of_idem hdistinct i.groupIds
      (InstanceGroup.frame_enlistOnce i.member) (enlistOnce_enlistOnce i.member)).trans ?_
    rw [List.map_congr_left hself, List.map_id']

/-- Putting several such instances changes no group either. -/
theorem groups_putInstances_of_listed {instances : List Instance}
    (hdistinct : (store.groups.map (·.id)).Nodup)
    (hlisted : ∀ i ∈ instances, i.isDeleted = false → ∀ group ∈ store.groups,
      i.inGroup group.id = true → group.hasMember i.id = true) :
    (instances.foldl Store.putInstance store).groups = store.groups := by
  induction instances generalizing store with
  | nil => rfl
  | cons i rest ih =>
    rw [List.forall_mem_cons] at hlisted
    have hsame := groups_putInstance_of_listed hdistinct hlisted.1
    rw [List.foldl_cons, ih (hsame ▸ hdistinct) (hsame ▸ hlisted.2), hsame]

/-- Putting several instances inserts their records. -/
theorem instances_putInstances (instances : List Instance) (store : Store) :
    (instances.foldl Store.putInstance store).instances =
      instances.foldl (fun records i => records.insert i.id i) store.instances := by
  induction instances generalizing store with
  | nil => rfl
  | cons i rest ih => rw [List.foldl_cons, ih, instances_putInstance, List.foldl_cons]

/-- A settled store holds every record under its own name. -/
theorem Settled.id_of_mem_entries (h : store.Settled) :
    ∀ entry ∈ store.instances.entries, entry.2.id = entry.1 := fun entry hentry =>
  h.named entry.1 entry.2 (store.instances.find?_eq_some_iff.mpr hentry)

/-- The instances of a settled store are handed out in the strict order of their names. -/
theorem Settled.pairwise_values (h : store.Settled) :
    store.instances.values.Pairwise fun i j => i.id < j.id := by
  rw [OrderedMap.values, List.pairwise_map]
  refine store.instances.ascending.imp_of_mem fun {a b} ha hb hlt => ?_
  rw [h.id_of_mem_entries a ha, h.id_of_mem_entries b hb]
  exact hlt

/-- A settled store is reloaded as it is. -/
theorem Settled.snapshot_ofSnapshot (h : store.Settled) :
    (ofSnapshot store.snapshot).snapshot = store.snapshot := by
  let loaded := store.groups.foldl Store.putGroup {}
  have hgroups : loaded.groups = store.groups := groups_putGroups h.distinct
  have hnone : loaded.instances = .empty := instances_putGroups store.groups {}
  -- The groups list every record that comes in behind them already.
  have hlisted : ∀ i ∈ store.instances.values, i.isDeleted = false → ∀ group ∈ loaded.groups,
      i.inGroup group.id = true → group.hasMember i.id = true := by
    intro i hi hlive group hgroup hnames
    obtain ⟨id, hid⟩ := store.instances.mem_values_iff.mp hi
    obtain rfl := h.named id i hid
    exact h.listed i.id i hid hlive group (hgroups ▸ hgroup) hnames
  have hsame := groups_putInstances_of_listed (hgroups ▸ h.distinct) hlisted
  have hrecords : (store.instances.values.foldl Store.putInstance loaded).instances =
      store.instances := by
    rw [instances_putInstances, hnone]
    exact store.instances.foldl_insert_values h.id_of_mem_entries
  exact congrArg₂ Snapshot.mk (hsame.trans hgroups) (congrArg OrderedMap.values hrecords)

/-! ### Times of deletion -/

/-- Every time of deletion fits a word, and so does the clock, which the next ones are taken from. -/
structure Fits (store : Store) : Prop where
  /-- The clock fits a word. -/
  clock : store.clock < Text.wordLimit
  /-- The times of deletion fit a word. -/
  instances : ∀ id i, store.instances.find? id = some i → i.Fits

/-- What a change brings in fits a word. -/
def Change.Fits : Change → Prop
  | .putInstance i => i.Fits
  | .setClock clock => clock < Text.wordLimit
  | _ => True

/-- The times fit after a record that fits is replaced. -/
theorem Fits.of_insert {id : InstanceId} (h : store.Fits) (hclock : after.clock = store.clock)
    (hinstances : after.instances = store.instances.insert id i) (hi : i.Fits) : after.Fits where
  clock := hclock ▸ h.clock
  instances := by
    intro other found hfound
    rw [hinstances, OrderedMap.find?_insert] at hfound
    split at hfound
    case isTrue => exact Option.some.inj hfound ▸ hi
    case isFalse => exact h.instances other found hfound

/-- The times fit after every change that brings in what fits. -/
theorem Fits.apply {change : Change} (hchange : change.Fits) (h : store.Fits) :
    (store.apply change).Fits := by
  cases change with
  | putGroup => exact ⟨h.clock, h.instances⟩
  | putInstance i =>
    refine h.of_insert ?_ (instances_putInstance store i) hchange
    rw [Store.apply, Store.putInstance]
    split <;> rfl
  | planFailure => exact ⟨h.clock, h.instances⟩
  | setStalled => exact ⟨h.clock, h.instances⟩
  | setClock => exact ⟨hchange, h.instances⟩
  | request request =>
    have hclock := (switches_respond store request).2
    have heffect := effect_respond store request
    rw [Store.apply]
    generalize respond request store = answered at hclock heffect
    obtain ⟨reply, after⟩ := answered
    cases heffect with
    | kept hkept => exact ⟨hclock ▸ h.clock, hkept.instances ▸ h.instances⟩
    | launched _ hinstances =>
      -- A new instance is not deleted.
      refine h.of_insert hclock hinstances fun _ hn => ?_
      cases hn
    | retired _ _ _ hinstances =>
      -- The time of the new deletion is that of the clock.
      exact h.of_insert hclock hinstances fun _ hn => Option.some.inj hn ▸ h.clock

/-- The times fit along a run that brings in what fits. -/
theorem Fits.foldl {changes : List Change} (hchanges : ∀ change ∈ changes, change.Fits)
    (h : store.Fits) : (changes.foldl Store.apply store).Fits :=
  List.foldlRecOn changes Store.apply h fun _ h change hchange => h.apply (hchanges change hchange)

/-- The times of a loaded store fit if those of the snapshot do. -/
theorem fits_ofSnapshot {s : Snapshot} (h : s.Fits) : (ofSnapshot s).Fits := by
  have hgroups : (s.groups.foldl Store.putGroup {}).Fits :=
    List.foldlRecOn s.groups Store.putGroup ⟨by decide, nofun⟩
      fun _ hstore _ _ => ⟨hstore.clock, hstore.instances⟩
  exact List.foldlRecOn s.instances Store.putInstance hgroups fun store hstore i hi =>
    @Fits.apply store (.putInstance i) (h i hi) hstore

/-- The snapshot of a store whose times fit does so, too. -/
theorem Fits.snapshot (h : store.Fits) : store.snapshot.Fits := by
  intro i hi
  obtain ⟨id, hid⟩ := store.instances.mem_values_iff.mp hi
  exact h.instances id i hid

/-- A store that was loaded from any snapshot, whatever happened to it since short of putting a
group, hands out a snapshot that is reloaded as it is, with its instances in the strict order of
their names. The same holds when the snapshot is written as a document and read again, provided that
all times fit a word. -/
theorem snapshot_reload (s : Snapshot) (changes : List Change)
    (hchanges : ∀ change ∈ changes, change.PutsNoGroup) :
    let taken := (changes.foldl Store.apply (ofSnapshot s)).snapshot
    (ofSnapshot taken).snapshot = taken ∧
      taken.instances.Pairwise (fun i j => i.id < j.id) ∧
      (s.Fits → (∀ change ∈ changes, change.Fits) →
        (Snapshot.ofValue? taken.toValue).map (fun read => (ofSnapshot read).snapshot) =
            some taken ∧
          ∀ text, Json.parse? text = some taken.toValue →
            (Snapshot.parse? text).map (fun read => (ofSnapshot read).snapshot) = some taken) := by
  intro taken
  have hsettled := (settled_ofSnapshot s).foldl hchanges
  refine ⟨hsettled.snapshot_ofSnapshot, hsettled.pairwise_values, fun hs hfits => ?_⟩
  have htaken : taken.Fits := ((fits_ofSnapshot hs).foldl hfits).snapshot
  have hvalue : (Snapshot.ofValue? taken.toValue).map (fun read => (ofSnapshot read).snapshot) =
      some taken := by
    rw [Snapshot.roundTrips.decode_encode htaken]
    exact congrArg some hsettled.snapshot_ofSnapshot
  refine ⟨hvalue, fun text htext => ?_⟩
  rw [Snapshot.parse?, htext]
  exact hvalue

/-- A snapshot repeats a group, an instance and entries of their lists. Along the run an instance is
put, a request fails, an instance is created in a group that its template names twice, one is
deleted, and one that is to be deleted while the store is stalled stays. What is taken after that is
reloaded as it is, and so is its document. With no run at all, a snapshot that repeats a group is
brought into its normal form, which is reloaded from its text. -/
theorem snapshot_reload_repeated :
    let inst (id : InstanceId) (groupIds : List GroupId) (deletedAt : Option Nat) : Instance :=
      ⟨id, "n", "active", "t", ⟨"i", .unknown⟩, "", groupIds, deletedAt⟩
    let snapshot : Snapshot :=
      ⟨[⟨"w", "w.c", "1:3", []⟩, ⟨"main", "c", "", [⟨"b", "lost"⟩, ⟨"b", "lost"⟩]⟩,
          ⟨"w", "w.c", "0:9", [⟨"gone", "active"⟩]⟩],
        [inst "b" ["main", "w"] none, inst "a" ["w", "w"] none, inst "b" ["v"] none,
          inst "d" ["w"] (some 7)]⟩
    let changes : List Change :=
      [.putInstance (inst "e" ["main"] none), .planFailure .listGroups 1 (.rejected "no"),
        .request .listGroups, .request (.createInstance ⟨"n", "t", "i", none, "w", some "w", ""⟩),
        .request (.destroyInstance "a"), .setStalled true, .request (.destroyInstance "b")]
    let taken := (changes.foldl Store.apply (ofSnapshot snapshot)).snapshot
    let fixture : Snapshot := ⟨[⟨"w", "m", "1:3", []⟩, ⟨"w", "n", "", []⟩], []⟩
    let normal : Snapshot := ⟨[⟨"w", "n", "", []⟩], []⟩
    (taken.groups.map (fun group => (group.id, group.members.map (·.id))) =
        [("w", ["gone", "b", "srv-00001", "srv-00001"]), ("main", ["b", "b", "e"])] ∧
      taken.instances.map (·.id) = ["a", "b", "d", "e", "srv-00001"] ∧
      (ofSnapshot taken).snapshot = taken ∧
      (Snapshot.ofValue? taken.toValue).map (fun read => (ofSnapshot read).snapshot) =
        some taken) ∧
    (ofSnapshot fixture).snapshot = normal ∧
      (Snapshot.parse? (Json.render normal.toValue)).map
        (fun read => (ofSnapshot read).snapshot) = some normal := by
  intro inst snapshot changes taken fixture normal
  have hchanges : ∀ change ∈ changes, change.PutsNoGroup := by
    simp [changes, Change.PutsNoGroup]
  have hsnapshot : snapshot.Fits := by
    simp [snapshot, inst, Snapshot.Fits, Instance.Fits, Text.wordLimit]
  have hfits : ∀ change ∈ changes, change.Fits := by
    simp [changes, inst, Change.Fits, Instance.Fits]
  have htext : Json.parse? (Json.render (Snapshot.toValue ⟨[⟨"w", "n", "", []⟩], []⟩)) =
      some (Snapshot.toValue ⟨[⟨"w", "n", "", []⟩], []⟩) := by rfl
  obtain ⟨hreload, -, hdocument⟩ := snapshot_reload snapshot changes hchanges
  -- No change at all: loading brings a fixture into its normal form.
  obtain ⟨-, -, hfixture⟩ := snapshot_reload fixture [] (List.forall_mem_nil _)
  exact ⟨⟨by decide +kernel, by decide +kernel, hreload, (hdocument hsnapshot hfits).1⟩, rfl,
    (hfixture (List.forall_mem_nil _) (List.forall_mem_nil _)).2 _ htext⟩

end Store

end ElasticGroups.Cloud
