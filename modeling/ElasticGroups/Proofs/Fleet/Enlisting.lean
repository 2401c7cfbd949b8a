import ElasticGroups.Proofs.Discovery.Consensus
import ElasticGroups.Proofs.Discovery.View
import ElasticGroups.Proofs.Fleet.Operations

/-!
# Growth and discovery

What the growth of a group changes about what its store shows: nothing but that the new instances
belong to the group. A new instance is made from the template of its node group, which is the
consensus of the members. So it agrees with the consensus, and the node group that is found next is
the one that was found before.

The module introduces:

* `Store.UnlistedUpTo limit` — the names that a store gives out next, up to a limit, are not listed;
* `Ready` — what a store has to be like for a node group that it shows to grow;
* `Launched` — an instance was launched from the template of a node group that the store has shown;
* `Enlisted` — a store shows the same node groups as before, and the instances that are new in it
  belong to one group.

One creation from the template of a node group enlists its instance (`Ready.create`), and so does
every growth (`enlisted_of_growth`). A cycle after it therefore finds what a cycle before it has
found, and the new instances (`refresh_after_increaseSize`).
-/

namespace ElasticGroups.Cloud.Store

/-- No group lists the names that the store gives out next, up to a limit. -/
def UnlistedUpTo (limit : Nat) (store : Store) : Prop :=
  ∀ n, store.created < n → n ≤ limit →
    ∀ group ∈ store.groups, group.hasMember (newId n) = false

theorem UnlistedUpTo.of_kept {store after : Store} {limit : Nat} (hkept : Kept store after)
    (h : store.UnlistedUpTo limit) : after.UnlistedUpTo limit := by
  intro n hn hlimit
  rw [hkept.groups]
  exact h n (Nat.lt_of_le_of_lt hkept.created hn) hlimit

end ElasticGroups.Cloud.Store

namespace ElasticGroups.Fleet

open Boot Cloud Discovery Scaling Session

variable {settings : Settings} {payload : Payload} {limit : Nat} {store before after : Store}
  {g : NodeGroup}

/-! ### One more member -/

theorem parentGroup?_map {change : InstanceGroup → InstanceGroup}
    (hchange : ∀ group, (change group).frame = group.frame) (groups : List InstanceGroup) :
    parentGroup? settings (groups.map change) = parentGroup? settings groups := by
  have hname : (fun group : InstanceGroup => decide (group.name = settings.clusterName)) ∘ change =
      fun group => decide (group.name = settings.clusterName) := by
    funext group
    have hsame : (change group).name = group.name := congrArg (·.2.1) (hchange group)
    rw [Function.comp_apply, hsame]
  have hid : (fun group : InstanceGroup => group.id) ∘ change = fun group => group.id := by
    funext group
    exact InstanceGroup.id_eq_of_frame_eq (hchange group)
  rw [parentGroup?, parentGroup?, List.find?_map, hname, Option.map_map, hid]

theorem candidate_addMember {group : InstanceGroup} (m : Member)
    (h : candidate settings group = true) : candidate settings (group.addMember m) = true := by
  obtain ⟨hcluster, -, hbounds⟩ := candidate_iff.mp h
  exact candidate_iff.mpr ⟨hcluster, by simp [InstanceGroup.addMember], hbounds⟩

/-- A look-up after an insertion shows the new record under its name and what was there before under
every other name. -/
theorem getInstance_of_insert {id other : InstanceId} {i : Instance}
    (hinstances : after.instances = store.instances.insert id i) :
    (after.serve (.getInstance other)).1 =
      if other = id then .ok i else (store.serve (.getInstance other)).1 := by
  rw [Store.serve, Store.serve, hinstances, OrderedMap.find?_insert]
  by_cases h : other = id
  · rw [if_pos h, if_pos h]
  · rw [if_neg h, if_neg h]
    split <;> rfl

section Insert

variable {id : InstanceId} {i : Instance} {group : InstanceGroup}
  (hinstances : after.instances = store.instances.insert id i)
  (hunlisted : group.hasMember id = false)

include hinstances hunlisted

/-- A new record does not show in a group that does not list it. -/
theorem sightIn_of_unlisted : sightIn after group = sightIn store group := by
  rw [sightIn, sightIn]
  congr 1
  refine List.map_congr_left fun m hm => ?_
  have hother : m.id ≠ id := by
    rintro rfl
    have hmember := InstanceGroup.hasMember_iff.mpr (List.mem_map_of_mem hm)
    rw [hunlisted] at hmember
    cases hmember
  rw [getInstance_of_insert hinstances, if_neg hother]

/-- A new record shows last in a group that lists it last. -/
theorem live_sightIn_addMember (hid : i.id = id) (hlive : i.isDeleted = false) :
    (sightIn after (group.addMember i.member)).live = (sightIn store group).live ++ [i] := by
  have hothers := sightIn_of_unlisted hinstances hunlisted
  rw [sightIn, sightIn, Sighting.mk.injEq] at hothers
  have hnew : (after.serve (.getInstance i.member.id)).1 = .ok i := by
    rw [getInstance_of_insert hinstances]
    exact if_pos hid
  rw [Sighting.live, Sighting.live, sightIn, sightIn, InstanceGroup.addMember]
  dsimp only
  rw [List.map_append, hothers.2, List.filterMap_append, List.map_singleton, hnew]
  simp [liveRecord?, hlive]

/-- A group that gets a member made from the template of its node group has the same node group. -/
theorem nodeGroup?_addMember {parent : Option GroupId}
    (hi : i = g.template.instantiate id)
    (h : (sightIn store group).nodeGroup? settings payload parent = some g) :
    (sightIn after (group.addMember i.member)).nodeGroup? settings payload parent = some g := by
  obtain ⟨bounds, attributes, hbounds, hconsensus, rfl⟩ :=
    (sightIn store group).nodeGroup?_eq_some_iff.mp h
  refine Sighting.nodeGroup?_eq_some_iff _ |>.mpr ⟨bounds, attributes, hbounds, ?_, rfl⟩
  -- The template holds the consensus, and so the new member is as the consensus says.
  subst hi
  rw [live_sightIn_addMember hinstances hunlisted rfl rfl]
  exact ofMembers_concat hconsensus rfl rfl rfl

end Insert

/-! ### One creation -/

/-- What a store has to be like for a node group that it shows to grow. -/
structure Ready (settings : Settings) (payload : Payload) (limit : Nat) (g : NodeGroup)
    (store : Store) : Prop where
  /-- The groups have different names. -/
  distinct : (store.groups.map (·.id)).Nodup
  /-- The node group is made for a group of the store. -/
  governs : Governs settings store g
  /-- The store shows the node group. -/
  shown : g ∈ nodeGroupsIn settings payload store
  /-- The names to come are not taken. -/
  fresh : store.FreshUpTo limit
  /-- The names to come are not listed. -/
  unlisted : store.UnlistedUpTo limit

/-- A store shows the node groups that another one has shown, and an instance that is new in it
belongs to the given group. -/
structure Enlisted (settings : Settings) (payload : Payload) (own : GroupId)
    (before after : Store) : Prop where
  /-- The groups are the same but for their members. -/
  frames : after.groups.map (·.frame) = before.groups.map (·.frame)
  /-- The node groups are the same. -/
  nodeGroups : nodeGroupsIn settings payload after = nodeGroupsIn settings payload before
  /-- No record is lost. -/
  recorded : ∀ id, (before.instances.find? id).isSome → (after.instances.find? id).isSome
  /-- A new instance belongs to the group, and every other one where it was before. -/
  index : ∀ id, indexIn settings payload after id =
    if before.instances.find? id = none ∧ (after.instances.find? id).isSome then some own
    else indexIn settings payload before id

/-- A group after the launch of an instance from a template. -/
def afterLaunch (template : LaunchTemplate) (id : InstanceId) (group : InstanceGroup) :
    InstanceGroup :=
  if group.id ∈ template.groupIds then group.addMember (template.instantiate id).member else group

theorem frame_afterLaunch (template : LaunchTemplate) (id : InstanceId) (group : InstanceGroup) :
    (afterLaunch template id group).frame = group.frame := by
  rw [afterLaunch]
  split <;> rfl

/-- An instance was launched under a name that no group lists, from the template of a node group
that the store has shown. -/
structure Launched (settings : Settings) (payload : Payload) (g : NodeGroup) (id : InstanceId)
    (before after : Store) : Prop where
  /-- The groups have different names. -/
  distinct : (before.groups.map (·.id)).Nodup
  /-- The node group is made for a group of the store. -/
  governs : Governs settings before g
  /-- The store has shown the node group. -/
  shown : g ∈ nodeGroupsIn settings payload before
  /-- The name was not listed. -/
  unlisted : ∀ group ∈ before.groups, group.hasMember id = false
  /-- The groups that the template names have got a member. -/
  groups : after.groups = before.groups.map (afterLaunch g.template id)
  /-- The instance has got a record. -/
  instances : after.instances = before.instances.insert id (g.template.instantiate id)

namespace Launched

variable {id : InstanceId} {group : InstanceGroup} (h : Launched settings payload g id before after)

include h

/-- Of the groups of the cluster, the template names that of its node group only. -/
theorem id_eq (hgroup : group ∈ before.groups) (hcluster : ofCluster settings group = true)
    (hid : group.id ∈ g.template.groupIds) : group.id = g.id :=
  h.governs.eq_of_mem_groupIds h.distinct (mem_clusterIds.mpr ⟨group, hgroup, hcluster, rfl⟩) hid

/-- A launch leaves every group its node group. -/
theorem nodeGroupIn?_eq (hgroup : group ∈ before.groups) :
    nodeGroupIn? settings payload after (afterLaunch g.template id group) =
      nodeGroupIn? settings payload before group := by
  have hparent : parentGroup? settings after.groups = parentGroup? settings before.groups := by
    rw [h.groups]
    exact parentGroup?_map (frame_afterLaunch g.template id) before.groups
  have hunlisted := h.unlisted group hgroup
  rw [nodeGroupIn?, nodeGroupIn?, hparent, afterLaunch]
  by_cases hid : group.id ∈ g.template.groupIds
  · rw [if_pos hid]
    by_cases hcluster : ofCluster settings group = true
    · -- The group is the one that the node group was made of.
      obtain ⟨own, hown, hmade⟩ := mem_nodeGroupsIn_iff.mp h.shown
      have hsame : group.id = own.id :=
        (h.id_eq hgroup hcluster hid).trans (id_of_nodeGroupIn? hmade)
      obtain rfl := List.inj_on_of_nodup_map h.distinct hgroup hown hsame
      obtain ⟨hcandidate, hmade⟩ := nodeGroupIn?_eq_some_iff.mp hmade
      rw [if_pos (candidate_addMember _ hcandidate), if_pos hcandidate, hmade]
      exact nodeGroup?_addMember h.instances hunlisted rfl hmade
    · -- The group is none of the cluster, with or without the member.
      have hnone : ∀ other : InstanceGroup, other.name = group.name →
          ¬ candidate settings other = true := by
        intro other hname hcandidate
        have hother := (candidate_iff.mp hcandidate).1
        rw [ofCluster, hname] at hother
        exact hcluster hother
      rw [if_neg (hnone (group.addMember _) rfl), if_neg (hnone group rfl)]
  · rw [if_neg hid, sightIn_of_unlisted h.instances hunlisted]

theorem nodeGroupsIn_eq :
    nodeGroupsIn settings payload after = nodeGroupsIn settings payload before := by
  rw [nodeGroupsIn, h.groups, List.filterMap_map, nodeGroupsIn]
  exact List.filterMap_congr fun group hgroup => h.nodeGroupIn?_eq hgroup

theorem surfacedIn_eq : surfacedIn settings payload after =
    (surfacedIn settings payload before).map (afterLaunch g.template id) := by
  rw [surfacedIn, h.groups, List.filter_map, surfacedIn]
  congr 1
  refine List.filter_congr fun group hgroup => ?_
  rw [Function.comp_apply, h.nodeGroupIn?_eq hgroup]

/-- A surfaced group that lists the instance is that of the node group. -/
theorem id_eq_of_lists (hgroup : group ∈ surfacedIn settings payload after)
    (hlists : group.hasMember id = true) : group.id = g.id := by
  rw [h.surfacedIn_eq, List.mem_map] at hgroup
  obtain ⟨former, hformer, rfl⟩ := hgroup
  obtain ⟨hmem, made, hmade⟩ := mem_surfacedIn_iff.mp hformer
  have hcluster := (candidate_iff.mp (nodeGroupIn?_eq_some_iff.mp hmade).1).1
  -- It did not list the instance before, so it is one of those that the template names.
  have hid : former.id ∈ g.template.groupIds := by
    by_contra hid
    rw [afterLaunch, if_neg hid, h.unlisted former hmem] at hlists
    cases hlists
  rw [InstanceGroup.id_eq_of_frame_eq (frame_afterLaunch g.template id former)]
  exact h.id_eq hmem hcluster hid

/-- A surfaced group lists the instance. -/
theorem exists_lister : ∃ group ∈ surfacedIn settings payload after, group.hasMember id = true := by
  obtain ⟨own, hown, hmade⟩ := mem_nodeGroupsIn_iff.mp h.shown
  have hjoins : own.id ∈ g.template.groupIds := by
    rw [← id_of_nodeGroupIn? hmade, ← h.governs.own]
    exact LaunchTemplate.mem_groupIds.mpr (.inr rfl)
  have hsurfaced := mem_surfacedIn_iff.mpr ⟨hown, g, hmade⟩
  refine ⟨afterLaunch g.template id own, ?_, ?_⟩
  · rw [h.surfacedIn_eq]
    exact List.mem_map_of_mem hsurfaced
  · rw [afterLaunch, if_pos hjoins]
    exact InstanceGroup.hasMember_addMember.mpr (.inr rfl)

/-- The instance belongs to the group of the node group. -/
theorem indexIn_self : indexIn settings payload after id = some g.id := by
  obtain ⟨last, hlast⟩ :=
    Option.isSome_iff_exists.mp (isSome_lastLister?_iff.mpr h.exists_lister)
  obtain ⟨hmem, hlists⟩ := mem_of_lastLister? hlast
  rw [indexIn, hlast, Option.map_some, h.id_eq_of_lists hmem hlists]

/-- Every other instance belongs where it did before. -/
theorem indexIn_other {other : InstanceId} (hother : other ≠ id) :
    indexIn settings payload after other = indexIn settings payload before other := by
  have hmember : ∀ group : InstanceGroup,
      (afterLaunch g.template id group).hasMember other = group.hasMember other := by
    intro group
    rw [afterLaunch]
    split
    · rw [Bool.eq_iff_iff, InstanceGroup.hasMember_addMember]
      exact or_iff_left fun hsame => hother hsame.symm
    · rfl
  have hid : (fun group : InstanceGroup => group.id) ∘ afterLaunch g.template id =
      fun group => group.id := by
    funext group
    exact InstanceGroup.id_eq_of_frame_eq (frame_afterLaunch g.template id group)
  rw [indexIn, h.surfacedIn_eq, lastLister?_map fun group _ => hmember group, Option.map_map, hid,
    indexIn]

/-- A launch under a name that is not taken enlists the instance. -/
theorem enlisted (hfree : before.instances.find? id = none) :
    Enlisted settings payload g.id before after where
  frames := Store.frames_of_map (frame_afterLaunch g.template id) h.groups
  nodeGroups := h.nodeGroupsIn_eq
  recorded := by
    intro other hknown
    rw [h.instances, OrderedMap.find?_insert]
    split
    · rfl
    · exact hknown
  index := by
    intro other
    rw [h.instances, OrderedMap.find?_insert]
    by_cases hother : other = id
    · rw [hother, if_pos rfl, if_pos ⟨hfree, rfl⟩]
      exact h.indexIn_self
    · rw [if_neg hother, h.indexIn_other hother, if_neg]
      rintro ⟨hnone, hsome⟩
      rw [hnone] at hsome
      cases hsome

end Launched

/-- The names behind the one that was given out are still not listed. -/
theorem unlisted_of_launched (h : before.UnlistedUpTo limit) {template : LaunchTemplate}
    (hgroups : after.groups =
      before.groups.map (afterLaunch template (Store.newId (before.created + 1))))
    (hcreated : after.created = before.created + 1) : after.UnlistedUpTo limit := by
  intro n hn hlimit
  rw [hcreated] at hn
  rw [hgroups, List.forall_mem_map]
  intro group hgroup
  have hunlisted := h n (by omega) hlimit group hgroup
  rw [afterLaunch]
  split
  · refine eq_false_of_ne_true fun hmember => ?_
    rcases InstanceGroup.hasMember_addMember.mp hmember with hlisted | hnew
    · rw [hunlisted] at hlisted
      cases hlisted
    · have := Store.newId_injective hnew
      omega
  · exact hunlisted

namespace Enlisted

variable {own : GroupId}

theorem of_kept (hkept : Store.Kept before after) :
    Enlisted settings payload own before after where
  frames := by rw [hkept.groups]
  nodeGroups := nodeGroupsIn_of_kept hkept
  recorded := by
    intro id hknown
    rw [hkept.instances]
    exact hknown
  index := by
    intro id
    rw [indexIn_of_kept hkept, hkept.instances, if_neg]
    rintro ⟨hnone, hsome⟩
    rw [hnone] at hsome
    cases hsome

theorem trans {first second third : Store} (h : Enlisted settings payload own first second)
    (h' : Enlisted settings payload own second third) :
    Enlisted settings payload own first third where
  frames := h'.frames.trans h.frames
  nodeGroups := h'.nodeGroups.trans h.nodeGroups
  recorded := fun id hknown => h'.recorded id (h.recorded id hknown)
  index := by
    intro id
    have hfirst := h.recorded id
    have hsecond := h'.recorded id
    rw [h'.index, h.index]
    -- A record that was there at first is new in neither step, and a new one is new in one of them.
    revert hfirst hsecond
    cases first.instances.find? id <;> cases second.instances.find? id <;>
      cases third.instances.find? id <;> simp

end Enlisted

namespace Ready

variable (h : Ready settings payload limit g before)

include h

theorem of_kept (hkept : Store.Kept before after) : Ready settings payload limit g after where
  distinct := by
    rw [hkept.groups]
    exact h.distinct
  governs := h.governs.of_frames (by rw [hkept.groups])
  shown := by
    rw [nodeGroupsIn_of_kept hkept]
    exact h.shown
  fresh := h.fresh.of_kept hkept
  unlisted := h.unlisted.of_kept hkept

/-- A creation from the template of the node group enlists its instance, if it launches one. -/
theorem create {reply : Reply (.createInstance g.template)}
    (heffect : Store.Effect before (.createInstance g.template) reply after)
    (hlimit : after.created ≤ limit) :
    Ready settings payload limit g after ∧ Enlisted settings payload g.id before after := by
  have hframes := heffect.frames_eq
  cases heffect with
  | kept hkept => exact ⟨h.of_kept hkept, .of_kept hkept⟩
  | launched hgroups hinstances hcreated =>
    have hnodup := h.governs.nodup_groupIds h.distinct
    have hmap : after.groups =
        before.groups.map (afterLaunch g.template (Store.newId (before.created + 1))) :=
      Store.groups_of_launched h.distinct hnodup hgroups
    -- The next name is one of those that are free.
    have hnext : before.created + 1 ≤ limit := hcreated ▸ hlimit
    have hfree := h.fresh _ (Nat.lt_succ_self _) hnext
    have hunlisted := h.unlisted _ (Nat.lt_succ_self _) hnext
    have hlaunched : Launched settings payload g (Store.newId (before.created + 1)) before after :=
      ⟨h.distinct, h.governs, h.shown, hunlisted, hmap, hinstances⟩
    refine ⟨⟨?_, h.governs.of_frames hframes, ?_, h.fresh.of_launched hinstances hcreated,
      unlisted_of_launched h.unlisted hmap hcreated⟩, hlaunched.enlisted hfree⟩
    · rw [Store.ids_eq_of_frames_eq hframes]
      exact h.distinct
    · rw [hlaunched.nodeGroupsIn_eq]
      exact h.shown

/-- Creations from the template of the node group and reads, in any order, enlist the instances
that they launch. -/
theorem enlisted {record : List (Sigma Reply)}
    (hrecord : ∀ exchange ∈ record,
      exchange.1.Reads ∨ exchange.1 = .createInstance g.template)
    (hgives : Store.respond.Gives before record after) (hlimit : after.created ≤ limit) :
    Enlisted settings payload g.id before after := by
  -- The induction is on the record: the names that are left to give out stay free, and the store
  -- goes on to show the node group from which the next instance is made.
  induction record generalizing before with
  | nil =>
    obtain rfl := hgives
    exact .of_kept (.refl _)
  | cons exchange rest ih =>
    obtain ⟨hfirst, hrest⟩ := List.forall_mem_cons.mp hrecord
    obtain ⟨request, reply⟩ := exchange
    have heffect := Store.effect_respond before request
    have hcreated := (Store.created_le_of_gives hgives.2).trans hlimit
    have hstep : Ready settings payload limit g (Store.respond request before).2 ∧
        Enlisted settings payload g.id before (Store.respond request before).2 := by
      rcases hfirst with hreads | hcreate
      · have hkept := heffect.kept_of_reads hreads
        exact ⟨h.of_kept hkept, .of_kept hkept⟩
      · obtain rfl : request = .createInstance g.template := hcreate
        exact h.create heffect hcreated
    exact hstep.2.trans (ih hstep.1 hrest hgives.2)

end Ready

/-- A growth reads, and creates instances from the template of its node group. -/
theorem requests_of_growth {n : Nat} {total : Duration} {delta : Int}
    {record : List (Sigma Reply)} {outcome : Except NodeGroupError Unit}
    (h : Growth g n total delta record outcome) :
    ∀ exchange ∈ record, exchange.1.Reads ∨ exchange.1 = .createInstance g.template := by
  have hasked : ∀ request : Request, request.Reads ∨ request = .createInstance g.template →
      ∀ replies : List (Reply request), ∀ exchange ∈ asked request replies,
        exchange.1.Reads ∨ exchange.1 = .createInstance g.template := by
    intro request hrequest replies exchange hexchange
    obtain ⟨reply, -, rfl⟩ := List.mem_map.mp hexchange
    exact hrequest
  cases h with
  | notPositive => exact List.forall_mem_nil _
  | sizeUnknown => simp [Request.Reads]
  | tooLarge => simp [Request.Reads]
  | refused =>
    exact List.forall_mem_cons.mpr ⟨.inl trivial, hasked _ (.inr rfl) _⟩
  | created =>
    refine List.forall_mem_cons.mpr ⟨.inl trivial, List.forall_mem_append.mpr ⟨?_, ?_⟩⟩
    · exact hasked _ (.inr rfl) _
    · exact hasked (.getGroup g.id) (.inl trivial) _

/-- Every growth of a node group that a store shows enlists the instances that it launches. A
stalled store launches none, so only one that is not stalled has to have free names. -/
theorem enlisted_of_growth {n : Nat} {total : Duration} {delta : Int} {record : List (Sigma Reply)}
    {outcome : Except NodeGroupError Unit} (hgrowth : Growth g n total delta record outcome)
    (hdistinct : (before.groups.map (·.id)).Nodup) (hgoverns : Governs settings before g)
    (hshown : g ∈ nodeGroupsIn settings payload before)
    (hgives : Store.respond.Gives before record after)
    (hfree : before.stalled = false →
      before.FreshUpTo after.created ∧ before.UnlistedUpTo after.created) :
    Enlisted settings payload g.id before after := by
  cases hstalled : before.stalled with
  | true => exact .of_kept (Store.kept_of_gives_of_stalled hgives hstalled)
  | false =>
    obtain ⟨hfresh, hunlisted⟩ := hfree hstalled
    have hready : Ready settings payload after.created g before :=
      ⟨hdistinct, hgoverns, hshown, hfresh, hunlisted⟩
    exact hready.enlisted (requests_of_growth hgrowth) hgives (Nat.le_refl _)

/-! ### Cycles before and after -/

/-- Stores with the same frames have the same number of groups in the cluster. -/
theorem length_cluster_of_frames
    (hframes : after.groups.map (·.frame) = before.groups.map (·.frame)) :
    (after.groups.filter (ofCluster settings)).length =
      (before.groups.filter (ofCluster settings)).length := by
  have hids := congrArg List.length (@clusterIds_of_frames settings before after hframes)
  rw [clusterIds, clusterIds, List.length_map, List.length_map] at hids
  exact hids

/-- Take a cycle on a store that can be built in which no planned failure fires, and let a node
group that it has found grow, whatever becomes of that, on a store of the same content. Unless the
store is stalled, the names that it gives out are neither taken nor listed before. Then every later
cycle in which no planned failure fires, on a store of the content that the growth has left, finds
the same node groups and skips as many groups. It finds the instances that are new in the store in
the group that has grown, and all others where the first cycle has found them. -/
theorem refresh_after_increaseSize (clock : Clock) (world : World Store) (c : Catalog)
    (hbuilt : world.partner.Built)
    (hinterval : 0 < (clock.lasting c.settings.convergence.interval).nanos)
    (hquiet : world.partner.Undisturbed (c.round clock Store.respond world).record)
    (g : NodeGroup) (hg : g ∈ (c.round clock Store.respond world).catalog.nodeGroups)
    (before : World Store)
    (hbefore : Store.Kept (c.round clock Store.respond world).world.partner before.partner)
    (delta : Int) (grown : World Store)
    (hgrown : grown = ((g.increaseSize delta).run.run clock Store.respond before).2)
    (hfree : before.partner.stalled = false →
      before.partner.FreshUpTo grown.partner.created ∧
        before.partner.UnlistedUpTo grown.partner.created)
    (later : World Store) (hlater : Store.Kept grown.partner later.partner)
    (c' : Catalog) (hsettings : c'.settings = c.settings) (hpayload : c'.payload = c.payload)
    (hquiet' : later.partner.Undisturbed (c'.round clock Store.respond later).record) :
    let first := c.round clock Store.respond world
    let second := c'.round clock Store.respond later
    ∃ summary summary', first.result = .ok summary ∧ second.result = .ok summary' ∧
      second.catalog.nodeGroups = first.catalog.nodeGroups ∧
      summary'.skipped = summary.skipped ∧
      ∀ id, second.catalog.membership.find? id =
        if before.partner.instances.find? id = none ∧
          (grown.partner.instances.find? id).isSome then some g.id
        else first.catalog.membership.find? id := by
  intro first second
  obtain ⟨hfirst, hgives⟩ := c.transcript_round clock Store.respond world
  obtain ⟨hsecond, hgives'⟩ := c'.transcript_round clock Store.respond later
  obtain ⟨found, hdiscover, hresult, hcatalog, hshows⟩ :=
    shows_of_undisturbed hfirst hgives hquiet
  obtain ⟨found', -, hresult', hcatalog', hshows'⟩ :=
    shows_of_undisturbed hsecond hgives' hquiet'
  rw [hsettings, hpayload] at hshows'
  have hkept : Store.Kept world.partner before.partner :=
    (Store.kept_of_gives hgives (reads_of_refresh hfirst)).trans hbefore
  -- The node group is one that the store shows when the growth begins.
  rw [hcatalog] at hg
  have hgoverns : Governs c.settings before.partner g :=
    (governs_of_discover hdiscover hgives g hg).of_frames (by rw [hkept.groups])
  have hshown : g ∈ nodeGroupsIn c.settings c.payload before.partner := by
    rw [nodeGroupsIn_of_kept hkept, ← hshows.nodeGroups]
    exact hg
  have hdistinct : (before.partner.groups.map (·.id)).Nodup := by
    rw [hkept.groups]
    exact hbuilt.distinct
  have henlisted : Enlisted c.settings c.payload g.id before.partner later.partner := by
    obtain ⟨record, hincrease, hgiven⟩ :=
      transcript_run clock Store.respond (g.increaseSize delta).run before
    rw [← hgrown] at hgiven
    have hgrowth := growth_of_increaseSize (hgoverns.pace ▸ hinterval) hincrease
    exact (enlisted_of_growth hgrowth hdistinct hgoverns hshown hgiven hfree).trans
      (.of_kept hlater)
  -- Reads before the growth and what happens after it leave the content alone.
  have hnodeGroups : found'.nodeGroups = found.nodeGroups := by
    rw [hshows'.nodeGroups, henlisted.nodeGroups, nodeGroupsIn_of_kept hkept, hshows.nodeGroups]
  refine ⟨found.summary, found'.summary, hresult, hresult', ?_, ?_, fun id => ?_⟩
  · show (c'.round clock Store.respond later).catalog.nodeGroups =
      (c.round clock Store.respond world).catalog.nodeGroups
    rw [hcatalog, hcatalog']
    exact hnodeGroups
  · -- The groups of the cluster are as many, and as many of them are surfaced.
    have hframes : later.partner.groups.map (·.frame) = world.partner.groups.map (·.frame) := by
      rw [henlisted.frames, hkept.groups]
    have hcount := hshows.skipped
    have hcount' := hshows'.skipped
    rw [hnodeGroups, length_cluster_of_frames hframes, ← hcount] at hcount'
    exact Nat.add_left_cancel hcount'
  · show (c'.round clock Store.respond later).catalog.membership.find? id =
      if _ then some g.id else (c.round clock Store.respond world).catalog.membership.find? id
    rw [hcatalog, hcatalog', Catalog.membership, Catalog.membership, hshows'.membership,
      henlisted.index, indexIn_of_kept hkept, ← hshows.membership, hlater.instances]

/-- A group of two zones, whose image is deprecated, grows by an instance without a zone. The next
cycle finds the group as it was, and the instance in it. -/
theorem refresh_after_increaseSize_balanced :
    let live (id : InstanceId) (zone : String) : Instance :=
      ⟨id, "n", "active", "t", ⟨"i", .deprecated⟩, zone, ["main", "w"], none⟩
    let store : Store :=
      (((Store.putGroup {} ⟨"main", "c", "", []⟩).putGroup ⟨"w", "w.c", "1:3", []⟩).putInstance
        (live "a" "z")).putInstance (live "b" "y")
    let join := "kubeadm join 10.0.0.1:6443 --token abcdef.0123456789abcdef " ++
      "--discovery-token-ca-cert-hash sha256:0123abcd"
    ∃ payload : Payload, payload.joinCommand = join ∧
      let c : Catalog := { settings := { clusterName := "c" }, payload }
      let first := c.round .bounded Store.respond ⟨store, .zero⟩
      let g := first.catalog.nodeGroups.getD 0 default
      let grown := ((g.increaseSize 1).run.run .bounded Store.respond first.world).2
      let second := first.catalog.round .bounded Store.respond grown
      g.id = "w" ∧ g.template.zoneId = none ∧
        second.catalog.nodeGroups = first.catalog.nodeGroups ∧
        first.catalog.membership.find? "srv-00001" = none ∧
        second.catalog.membership.find? "srv-00001" = some "w" := by
  intro live store join
  refine ⟨⟨"1.17.4", join, ⟨⟨1, 17, 4, [], []⟩, by decide +kernel⟩, by decide +kernel⟩, rfl, ?_⟩
  intro c first g grown second
  have hbuilt : store.Built :=
    .putInstance (.putInstance (.putGroup (.putGroup .empty _) _) _) _
  have hfound : 0 < first.catalog.nodeGroups.length := by decide +kernel
  have hg : g ∈ first.catalog.nodeGroups := by
    have hget : first.catalog.nodeGroups[0] = g := List.getElem_eq_getD default
    rw [← hget]
    exact List.getElem_mem hfound
  have hid : g.id = "w" := by decide +kernel
  have hcreated : grown.partner.created = 1 := by decide +kernel
  let before : Store := (c.round .bounded Store.respond ⟨store, .zero⟩).world.partner
  have hfree : Store.FreshUpTo grown.partner.created before ∧
      Store.UnlistedUpTo grown.partner.created before := by
    have hnone : before.created = 0 := by decide +kernel
    rw [hcreated]
    constructor
    · intro n hn hlimit
      rw [hnone] at hn
      obtain rfl : n = 1 := Nat.le_antisymm hlimit hn
      decide +kernel
    · intro n hn hlimit
      rw [hnone] at hn
      obtain rfl : n = 1 := Nat.le_antisymm hlimit hn
      decide +kernel
  obtain ⟨hsettings, hpayload, -⟩ := @holding_round .bounded Store Store.respond c ⟨store, .zero⟩
  obtain ⟨_, _, -, -, hnodeGroups, -, hindex⟩ :=
    refresh_after_increaseSize .bounded ⟨store, .zero⟩ c hbuilt (by decide) (by decide +kernel) g hg
      _ (.refl _) 1 grown rfl (fun _ => hfree) grown (.refl _) _ hsettings hpayload
      (by decide +kernel)
  have hnew := hindex "srv-00001"
  rw [if_pos (by decide +kernel), hid] at hnew
  exact ⟨hid, by decide +kernel, hnodeGroups, by decide +kernel, hnew⟩

end ElasticGroups.Fleet
