import ElasticGroups.Proofs.Cloud.Failures
import ElasticGroups.Proofs.Cloud.Listing
import ElasticGroups.Proofs.Scaling.Lagging

/-!
# Growth in a store

What a growth comes to that a store serves without a lag, told by the switch of the store and by the
first of its requests that the plan of failures hits. Instances that were created before a failure
stay, the failure ends the growth at once, and a stalled store is waited for in vain.

The module introduces:

* `Targets g store` — new instances of the node group join a group of the store, and no other but a
  parent;
* `Enlarged g before count after` — all that a number of creations does to the store;
* `NodeGroup.creations g group ids` — the requests of a growth up to the end of its creations.

A run is either stopped by a creation that fails or goes on to the wait for the new size
(`NodeGroup.run_increaseSize_recorded`), and the first hit tells which (`firstHit_of_stopped`,
`firstHit_of_created`).
-/

namespace ElasticGroups.Scaling

open Cloud Session

/-- The new instances of a node group join a group of the store, and no other but a parent. -/
structure Targets (g : NodeGroup) (store : Store) : Prop where
  /-- The groups of the store have different names. -/
  distinct : (store.groups.map (·.id)).Nodup
  /-- The store has the group. -/
  known : (store.group? g.id).isSome = true
  /-- New instances join the group. -/
  own : g.template.groupId = g.id
  /-- The parent is another group, if there is one. -/
  parent : g.template.parentGroupId ≠ some g.id

/-- The store has the group that the template names as its own. -/
theorem Targets.ownKnown {g : NodeGroup} {store : Store} (h : Targets g store) :
    (store.group? g.template.groupId).isSome = true := by
  rw [h.own]
  exact h.known

/-- What a number of creations from the template of a node group does to a store. -/
structure Enlarged (g : NodeGroup) (before : Store) (count : Nat) (after : Store) : Prop where
  /-- There are records of the new instances, which are made from the template. -/
  records : ∀ id ∈ before.newIds count, after.instances.find? id = some {
    id := id
    name := g.template.name
    status := "creating"
    instanceType := g.template.instanceType
    image := ⟨g.template.imageId, .available⟩
    zoneId := g.template.zoneId.getD ""
    groupIds := g.template.groupIds
    deletedAt := none }
  /-- All other records are as before. -/
  others : ∀ id, id ∉ before.newIds count → after.instances.find? id = before.instances.find? id
  /-- There are as many records more as instances were created. -/
  size : after.instances.size = before.instances.size + count
  /-- The group and its parent list the new instances at their end, and nothing else about any group
  is changed. -/
  groups : after.groups = before.groups.map fun group =>
    if group.id = g.id ∨ g.template.parentGroupId = some group.id then
      { group with members := group.members ++ (before.newIds count).map (⟨·, "creating"⟩) }
    else group
  /-- The groups list exactly the live instances, each once. -/
  coherent : after.Coherent

variable {g : NodeGroup} {store middle after : Store} {group : InstanceGroup} {count : Nat}
  {ids : List InstanceId}

/-- Where the names are free, what is gained enlarges the store. -/
theorem Enlarged.of_gained (htargets : Targets g store) (hcoherent : store.Coherent)
    (hfresh : store.FreshUpTo (store.created + ids.length))
    (h : store.Gained g.template ids after) : Enlarged g store ids.length after where
  records := by
    intro id hid
    rw [← h.names] at hid
    rw [h.find?, if_pos hid]
    rfl
  others := by
    intro id hid
    rw [← h.names] at hid
    rw [h.find?, if_neg hid]
  size := h.size_instances hfresh
  groups := by
    -- The template names the group itself, and its parent if there is one.
    rw [h.groups, ← h.names]
    refine List.map_congr_left fun group _ => if_congr ?_ rfl rfl
    rw [LaunchTemplate.mem_groupIds, htargets.own, or_comm]
  coherent := h.coherent hfresh hcoherent

/-- A store that keeps its content stays as enlarged as it is. -/
theorem Enlarged.of_kept (hkept : Store.Kept middle after) (h : Enlarged g store count middle) :
    Enlarged g store count after where
  records := by
    rw [hkept.instances]
    exact h.records
  others := by
    rw [hkept.instances]
    exact h.others
  size := by
    rw [hkept.instances]
    exact h.size
  groups := hkept.groups.trans h.groups
  coherent := h.coherent.of_kept hkept

/-! ### The run -/

/-- The requests of a growth up to the end of its creations, when all of them are answered. -/
def NodeGroup.creations (g : NodeGroup) (group : InstanceGroup) (ids : List InstanceId) :
    List (Sigma Reply) :=
  ⟨.getGroup g.id, .ok group⟩ :: asked (.createInstance g.template) (ids.map .ok)

/-- A growth in a store that is not kept from looking the group up: the creations are stopped by the
first that fails, with nothing asked behind it, or else the new size is watched for. -/
theorem NodeGroup.run_increaseSize_recorded {clock : Clock} {delta : Int}
    (hpace : 0 < (clock.lasting g.convergence.interval).nanos)
    (hknown : (store.group? g.id).isSome = true) (hadmits : Admits g store delta)
    (hquiet : (store.failures.meet .getGroup).1 = none) (now : Duration) :
    let run := (g.increaseSize delta).run.run clock Store.respond.recorded ⟨(store, []), now⟩
    let desired := store.sizeOf g.id + delta.toNat
    ∃ (group : InstanceGroup) (ids : List InstanceId) (created : Store),
      store.group? g.id = some group ∧ store.sizeOf g.id = group.size ∧
      Responder.Gives Store.respond store (g.creations group ids) created ∧
      ((ids.length = delta.toNat ∧ ∃ replies result,
        Responder.Gives Store.respond created (asked (.getGroup g.id) replies) run.2.partner.1 ∧
        Watch (Request.getGroup g.id) (sizeVerdict desired) (g.convergence.observations clock)
          (g.convergence.patience clock) replies result ∧
        (run.1 = result.mapError fun
          | .failed error => error
          | .timedOut waited => .convergenceTimeout g.id (.size desired) waited) ∧
        run.2.now = now + (clock.lasting g.convergence.interval).times replies.length) ∨
      ∃ error, ids.length < delta.toNat ∧
        Responder.Gives Store.respond created [⟨.createInstance g.template, .error error⟩]
          run.2.partner.1 ∧
        run.1 = .error (.provider error) ∧ run.2.now = now ∧
        run.2.partner.2.map (·.1) =
          .getGroup g.id :: List.replicate (ids.length + 1) (.createInstance g.template)) := by
  intro run desired
  obtain ⟨group, hgroup⟩ := Option.isSome_iff_exists.mp hknown
  have hsize := sizeOf_eq_size hgroup
  have hpositive := hadmits.positive
  have hbound := hadmits.bound
  simp only [desired]
  rw [hsize] at hbound ⊢
  have hlooked := Store.respond_getGroup_of_not_hit hquiet hgroup
  have hread := Responder.recorded_eq hlooked []
  obtain ⟨ids, created, ⟨hlength, hcreate, replies, result, hreplies, hwatch, houtcome, hnow⟩ |
    ⟨error, hlength, hcreate, hfailed⟩⟩ :=
      NodeGroup.run_increaseSize ⟨(store, []), now⟩ hpace hread (by omega) hbound
  · exact ⟨group, ids, created.1, hgroup, rfl, .cons hlooked (Responder.gives_recorded hcreate).1,
      .inl ⟨hlength, replies, result, (Responder.gives_recorded hreplies).1, hwatch, houtcome, hnow⟩⟩
  · -- The creation that fails is the last request: all before it are answered.
    obtain ⟨hgives, hrecord⟩ := Responder.gives_recorded hcreate
    rw [asked, List.map_append] at hgives
    obtain ⟨middle, hanswered, hlast⟩ := Responder.gives_append.mp hgives
    have hrun : run = (.error (.provider error), ⟨created, now⟩) := hfailed
    refine ⟨group, ids, middle, hgroup, rfl, .cons hlooked hanswered,
      .inr ⟨error, hlength, ?_, ?_, ?_, ?_⟩⟩
    · rw [hrun]
      exact hlast
    · rw [hrun]
    · rw [hrun]
    · rw [hrun, hrecord]
      simp

/-! ### The first hit -/

section Hits

variable {created : Store}
  (hgives : Responder.Gives Store.respond store (g.creations group ids) created)

include hgives

/-- Creations that are all answered leave the first hit to what is asked behind them. -/
theorem firstHit_of_created (rest : List Operation) :
    store.failures.firstHit (.getGroup :: List.replicate ids.length .createInstance ++ rest) =
      (created.failures.firstHit rest).map fun hit => (hit.1 + (ids.length + 1), hit.2) := by
  have hhit := Store.firstHit_of_gives hgives (by simp [NodeGroup.creations, asked]) rest
  have hlength : (g.creations group ids).length = ids.length + 1 := by
    simp [NodeGroup.creations, asked]
  have hkinds : ((g.creations group ids).map (·.1)).map Request.operation =
      .getGroup :: List.replicate ids.length .createInstance := by
    simp [NodeGroup.creations, Request.operation]
  rw [hlength, hkinds] at hhit
  exact hhit

/-- A creation that fails is the first hit. -/
theorem firstHit_of_stopped (hknown : (store.group? g.template.groupId).isSome = true)
    {error : ProviderError}
    (hlast : Responder.Gives Store.respond created [⟨.createInstance g.template, .error error⟩] after)
    (hlength : ids.length < count) (rest : List Operation) :
    store.failures.firstHit (.getGroup :: List.replicate count .createInstance ++ rest) =
      some (ids.length + 1, error) := by
  obtain ⟨more, rfl⟩ := Nat.exists_eq_add_of_lt hlength
  have hknown' : (created.group? g.template.groupId).isSome = true := by
    rw [Store.isSome_group?_of_gives hgives, hknown]
  have hdue := Store.meet_of_createInstance_error hknown' hlast.1
  -- The failing creation is the first of those that are left behind the answered ones.
  have hhit := firstHit_of_created hgives
    (.createInstance :: (List.replicate more .createInstance ++ rest))
  rw [FailurePlan.firstHit_cons_of_some hdue] at hhit
  rw [Nat.add_assoc, List.replicate_add, List.replicate_succ]
  simpa using hhit

end Hits

/-! ### What the growth comes to -/

section Growth

variable {clock : Clock} {now : Duration} {delta : Int} (htargets : Targets g store)
  (hcoherent : store.Coherent) (hadmits : Admits g store delta)
  (hpace : 0 < (clock.lasting g.convergence.interval).nanos)

/-- Creations that are all answered by a store that is not stalled gain what they should. -/
theorem Targets.gained_of_creations (htargets : Targets g store) {created : Store}
    (hgroup : store.group? g.id = some group)
    (hgives : Responder.Gives Store.respond store (g.creations group ids) created)
    (hstalled : store.stalled = false) : store.Gained g.template ids created := by
  obtain ⟨hlooked, hcreate⟩ := hgives
  have hquiet := @Store.meet_eq_none_of_ok store (.getGroup g.id) group hlooked
  rw [Store.respond_getGroup_of_not_hit hquiet hgroup] at hcreate
  have hparent : g.template.parentGroupId ≠ some g.template.groupId := by
    rw [htargets.own]
    exact htargets.parent
  -- The look-up is counted, and changes nothing that is gained on.
  have hgained := Store.gained_of_gives hcreate hstalled htargets.distinct hparent
  exact ⟨hgained.names, hgained.created, hgained.groups, hgained.find?⟩

include htargets hadmits hpace

/-- A growth that is not hit before the looks behind its creations goes on to the wait, with that much
of the plan left. -/
theorem Targets.watch_of_not_hit {looks : List Operation}
    (hhit : store.failures.firstHit
      (.getGroup :: List.replicate delta.toNat .createInstance ++ looks) = none) (now : Duration) :
    let run := (g.increaseSize delta).run.run clock Store.respond.recorded ⟨(store, []), now⟩
    let desired := store.sizeOf g.id + delta.toNat
    ∃ (group : InstanceGroup) (ids : List InstanceId) (created : Store)
      (replies : List (Reply (.getGroup g.id))) (result : Except (PollError NodeGroupError) Unit),
      store.group? g.id = some group ∧ store.sizeOf g.id = group.size ∧ ids.length = delta.toNat ∧
      Responder.Gives Store.respond store (g.creations group ids) created ∧
      created.failures.firstHit looks = none ∧
      Responder.Gives Store.respond created (asked (.getGroup g.id) replies) run.2.partner.1 ∧
      Watch (Request.getGroup g.id) (NodeGroup.sizeVerdict desired)
        (g.convergence.observations clock) (g.convergence.patience clock) replies result ∧
      (run.1 = result.mapError fun
        | .failed error => error
        | .timedOut waited => .convergenceTimeout g.id (.size desired) waited) ∧
      run.2.now = now + (clock.lasting g.convergence.interval).times replies.length := by
  have hquiet : (store.failures.meet .getGroup).1 = none :=
    FailurePlan.meet_eq_none_of_firstHit fun _ hfirst => by
      rw [← List.cons_append, hhit] at hfirst
      cases hfirst
  obtain ⟨group, ids, created, hgroup, hsize, hgives,
    ⟨hlength, replies, result, hwait⟩ | ⟨error, hlength, hlast, -⟩⟩ :=
      NodeGroup.run_increaseSize_recorded hpace htargets.known hadmits hquiet now
  · refine ⟨group, ids, created, replies, result, hgroup, hsize, hlength, hgives, ?_, hwait⟩
    have hcreated := firstHit_of_created hgives looks
    rw [hlength, hhit] at hcreated
    exact Option.map_eq_none_iff.mp hcreated.symm
  · have hstopped := firstHit_of_stopped hgives htargets.ownKnown hlast hlength looks
    rw [hhit] at hstopped
    cases hstopped

/-- A growth in a stalled store that is not hit is waited for in vain, and leaves no trace. -/
theorem increaseSize_stalled (hstalled : store.stalled = true)
    (hhit : store.failures.firstHit (.getGroup :: List.replicate delta.toNat .createInstance ++
      List.replicate (g.convergence.observations clock) .getGroup) = none) :
    let run := (g.increaseSize delta).run.run clock Store.respond.recorded ⟨(store, []), now⟩
    run.1 = .error (.convergenceTimeout g.id (.size (store.sizeOf g.id + delta.toNat))
        (g.convergence.patience clock)) ∧
      run.2.partner.1.groups = store.groups ∧ run.2.partner.1.instances = store.instances ∧
      run.2.now = now + g.convergence.patience clock := by
  intro run
  obtain ⟨group, ids, created, replies, result, hgroup, hsize, hlength, hgives, hquiet, hreplies,
    hwatch, houtcome, hnow⟩ := htargets.watch_of_not_hit hadmits hpace hhit now
  have hkept := Store.kept_of_gives_of_stalled hgives hstalled
  have hlooks := Store.kept_of_gives hreplies (by simp [asked, Request.Reads])
  have hgroup' : created.group? g.id = some group := by
    rw [Store.group?, hkept.groups]
    exact hgroup
  -- Every look within the limit shows the group at its old size.
  have hverdict : ∀ k (hk : k < replies.length),
      NodeGroup.sizeVerdict (store.sizeOf g.id + delta.toNat) replies[k] = .ok false := by
    intro k hk
    rw [Store.eq_ok_of_gives_getGroup hreplies hgroup' hquiet k hk
      (Nat.lt_of_lt_of_le hk hwatch.length_le), NodeGroup.sizeVerdict, hsize]
    have hpositive := hadmits.positive
    rw [decide_eq_false (by omega)]
  obtain ⟨hcount, rfl⟩ := hwatch.of_forall_false hverdict fun _ _ => rfl
  have hall := hkept.trans hlooks
  refine ⟨houtcome, hall.groups, hall.instances, ?_⟩
  rw [hnow, hcount]
  rfl

include hcoherent

/-- A growth whose creation is hit ends there, and what was created before it stays. -/
theorem increaseSize_stopped (hstalled : store.stalled = false) {k : Nat} {error : ProviderError}
    (hk : 1 ≤ k)
    (hhit : store.failures.firstHit (.getGroup :: List.replicate delta.toNat .createInstance) =
      some (k, error)) :
    let run := (g.increaseSize delta).run.run clock Store.respond.recorded ⟨(store, []), now⟩
    run.1 = .error (.provider error) ∧ Enlarged g store (k - 1) run.2.partner.1 ∧
      run.2.now = now ∧
      run.2.partner.2.map (·.1) =
        .getGroup g.id :: List.replicate k (.createInstance g.template) := by
  intro run
  have hquiet : (store.failures.meet .getGroup).1 = none :=
    FailurePlan.meet_eq_none_of_firstHit fun _ hfirst => by
      rw [hhit] at hfirst
      cases hfirst
      cases hk
  obtain ⟨group, ids, created, hgroup, -, hgives, ⟨hlength, -⟩ |
    ⟨error', hlength, hlast, houtcome, hnow, hasked⟩⟩ :=
      NodeGroup.run_increaseSize_recorded hpace htargets.known hadmits hquiet now
  · -- If all creations were answered, none would have been hit.
    have hnone := firstHit_of_created hgives []
    rw [hlength, List.append_nil, hhit] at hnone
    cases hnone
  · -- The creation that failed is the one that is hit first, so its place and its error are these.
    have hstopped := firstHit_of_stopped hgives htargets.ownKnown hlast hlength []
    rw [List.append_nil, hhit] at hstopped
    cases hstopped
    have hgained := htargets.gained_of_creations hgroup hgives hstalled
    -- It has changed nothing itself.
    have hfailed := Store.effect_respond created (.createInstance g.template)
    rw [hlast.1, ← hlast.2] at hfailed
    have hfresh : store.FreshUpTo (store.created + ids.length) := fun n hn hlimit =>
      hadmits.fresh n hn (by omega)
    exact ⟨houtcome, (Enlarged.of_gained htargets hcoherent hfresh hgained).of_kept
      hfailed.kept_of_error, hnow, hasked⟩

/-- A growth that is not hit is seen at the first look, with all instances created. -/
theorem increaseSize_grown (hstalled : store.stalled = false)
    (hhit : store.failures.firstHit
      (.getGroup :: List.replicate delta.toNat .createInstance ++ [.getGroup]) = none) :
    let run := (g.increaseSize delta).run.run clock Store.respond.recorded ⟨(store, []), now⟩
    run.1 = .ok () ∧ Enlarged g store delta.toNat run.2.partner.1 ∧
      run.2.partner.1.sizeOf g.id = store.sizeOf g.id + delta.toNat ∧
      run.2.now = now + clock.lasting g.convergence.interval := by
  intro run
  obtain ⟨group, ids, created, replies, result, hgroup, hsize, hlength, hgives, hquiet, hreplies,
    hwatch, houtcome, hnow⟩ := htargets.watch_of_not_hit hadmits hpace hhit now
  have hgained := htargets.gained_of_creations hgroup hgives hstalled
  have hnamed : g.id ∈ g.template.groupIds :=
    LaunchTemplate.mem_groupIds.mpr (.inr htargets.own.symm)
  have hid : group.id = g.id := ((Store.group?_eq_some_iff htargets.distinct).mp hgroup).2
  have hquiet' : created.failures.firstHit (List.replicate 1 .getGroup) = none := hquiet
  -- The first look shows the group at its new size, so it is the only one.
  obtain ⟨hcount, rfl⟩ := hwatch.of_holds (Nat.le_max_left _ _) fun hk => by
    rw [Store.eq_ok_of_gives_getGroup hreplies (hgained.group?_eq hgroup) hquiet' 0 hk Nat.one_pos,
      NodeGroup.sizeVerdict, g.template.size_join (hid ▸ hnamed), hsize, hlength]
    simp
  have hlooks := Store.kept_of_gives hreplies (by simp [asked, Request.Reads])
  have hfresh : store.FreshUpTo (store.created + ids.length) := by
    rw [hlength]
    exact hadmits.fresh
  have henlarged := Enlarged.of_gained htargets hcoherent hfresh hgained
  rw [hlength] at henlarged
  refine ⟨houtcome, henlarged.of_kept hlooks, ?_, ?_⟩
  · rw [Store.sizeOf_of_kept hlooks, hgained.sizeOf_eq htargets.known hnamed, hlength]
  · rw [hnow, hcount, Duration.times_succ, Duration.times_zero, Duration.add_zero]

end Growth

/-- A growth within the bound of a group, in a coherent store that gives out free names, comes to one
of three ends unless a look is hit. If a creation is the first to be hit, the growth fails as planned
and at once, with the instances created before it. If nothing is hit, all instances are there after one
interval, or, if the store is stalled, the growth waits up to its limit and leaves no trace. The size
is looked up in front of the creations, so the creation at position `k` is the `k`-th one. -/
theorem increaseSize_exact (clock : Clock) (g : NodeGroup) (store : Store) (now : Duration)
    (delta : Int) (htargets : Targets g store) (hcoherent : store.Coherent)
    (hadmits : Admits g store delta)
    (hinterval : 0 < (clock.lasting g.convergence.interval).nanos) :
    let pace := clock.lasting g.convergence.interval
    let limit := g.convergence.observations clock
    let size := store.sizeOf g.id
    let run := (g.increaseSize delta).run.run clock Store.respond.recorded ⟨(store, []), now⟩
    let after := run.2.partner.1
    let begins := Operation.getGroup :: List.replicate delta.toNat .createInstance
    (pace = g.convergence.interval →
      limit = max 1 (g.convergence.timeout.nanos ⌈/⌉ g.convergence.interval.nanos)) ∧
    (∀ k error, store.stalled = false → 1 ≤ k → store.failures.firstHit begins = some (k, error) →
      run.1 = .error (.provider error) ∧ Enlarged g store (k - 1) after ∧ run.2.now = now ∧
      run.2.partner.2.map (·.1) =
        .getGroup g.id :: List.replicate k (.createInstance g.template)) ∧
    (store.stalled = false → store.failures.firstHit (begins ++ [.getGroup]) = none →
      run.1 = .ok () ∧ Enlarged g store delta.toNat after ∧
      after.sizeOf g.id = size + delta.toNat ∧ run.2.now = now + pace) ∧
    (store.stalled = true →
      store.failures.firstHit (begins ++ List.replicate limit .getGroup) = none →
      run.1 =
        .error (.convergenceTimeout g.id (.size (size + delta.toNat)) (pace.times limit)) ∧
      after.groups = store.groups ∧ after.instances = store.instances ∧
      run.2.now = now + pace.times limit) := by
  intro pace limit size run after begins
  refine ⟨fun hpace => ?_, fun k error hstalled hk hhit => ?_, fun hstalled hhit => ?_,
    fun hstalled hhit => ?_⟩
  · exact Convergence.observations_of_lasting hpace
  · exact increaseSize_stopped htargets hcoherent hadmits hinterval hstalled hk hhit
  · exact increaseSize_grown htargets hcoherent hadmits hinterval hstalled hhit
  · exact increaseSize_stalled htargets hadmits hinterval hstalled hhit

/-- A group of one grows by two: if the second creation is to fail, one instance is created and no time
passes; if none is, the group has three members after a second; and a stalled store is waited for in
vain for thirty seconds. -/
theorem increaseSize_exact_two :
    let g : NodeGroup := ⟨"w", ⟨1, 4⟩, ⟨"n", "t", "i", none, "w", some "main", ""⟩, {}⟩
    let inst : Instance := ⟨"a", "n", "active", "t", ⟨"i", .available⟩, "z", ["main", "w"], none⟩
    let store : Store := .ofSnapshot ⟨[⟨"main", "c", "", []⟩, ⟨"w", "w.c", "1:4", []⟩], [inst]⟩
    let failing := store.planFailure .createInstance 2 (.rejected "quota exceeded")
    let stalled := { store with stalled := true }
    let run (store : Store) := (g.increaseSize 2).run.run .bounded Store.respond.recorded
      ⟨(store, []), .zero⟩
    0 < (Clock.bounded.lasting g.convergence.interval).nanos ∧
      (∀ s ∈ [store, failing, stalled], Targets g s ∧ s.Coherent ∧ Admits g s 2) ∧
      (run failing).1 = .error (.provider (.rejected "quota exceeded")) ∧
      Enlarged g failing 1 (run failing).2.partner.1 ∧ (run failing).2.now = .zero ∧
      (run store).1 = .ok () ∧ (run store).2.partner.1.sizeOf "w" = 3 ∧
      (run store).2.now = .ofSeconds 1 ∧
      (run stalled).1 = .error (.convergenceTimeout "w" (.size 3) (.ofSeconds 30)) ∧
      (run stalled).2.partner.1.groups = stalled.groups ∧
      (run stalled).2.now = .ofSeconds 30 := by
  intro g inst store failing stalled run
  have hinterval : 0 < (Clock.bounded.lasting g.convergence.interval).nanos := by decide
  have hcoherent : store.Coherent := (Store.faithful_ofSnapshot (by decide) (by decide)).coherent
  have hgroups : store.groups =
      [⟨"main", "c", "", [⟨"a", "active"⟩]⟩, ⟨"w", "w.c", "1:4", [⟨"a", "active"⟩]⟩] := by
    decide +kernel
  have hready (s : Store) (hkept : Store.Kept store s) (hcreated : s.created = 0) :
      Targets g s ∧ s.Coherent ∧ Admits g s 2 := by
    refine ⟨⟨?_, ?_, rfl, by decide⟩, hcoherent.of_kept hkept, ⟨by decide, ?_, ?_⟩⟩
    · rw [hkept.groups, hgroups]
      decide
    · rw [Store.group?, hkept.groups, hgroups]
      decide
    · rw [Store.sizeOf, Store.group?, hkept.groups, hgroups]
      decide
    · rw [hcreated]
      intro n hn hlimit
      obtain rfl | rfl : n = 1 ∨ n = 2 := by
        have : (2 : Int).toNat = 2 := rfl
        omega
      all_goals
        rw [hkept.instances]
        decide +kernel
  have hstore := hready store (.refl store) rfl
  have hfailing := hready failing ⟨rfl, rfl, Nat.le_refl _⟩ rfl
  have hstalled := hready stalled ⟨rfl, rfl, Nat.le_refl _⟩ rfl
  have hlimit : g.convergence.observations .bounded = 30 := by
    rw [Convergence.observations, Nat.ceilDiv_eq_add_pred_div]
    decide
  have hsize : store.sizeOf g.id = 1 := by
    rw [Store.sizeOf, Store.group?, hgroups]
    decide
  obtain ⟨-, hstopped, -, -⟩ := increaseSize_exact .bounded g failing .zero 2 hfailing.1 hfailing.2.1
    hfailing.2.2 hinterval
  obtain ⟨hfailed, henlarged, hfailedAt, -⟩ :=
    hstopped 2 (.rejected "quota exceeded") rfl (by decide) (by decide +kernel)
  obtain ⟨-, -, hgrown, -⟩ := increaseSize_exact .bounded g store .zero 2 hstore.1 hstore.2.1
    hstore.2.2 hinterval
  obtain ⟨hdone, -, hgrew, hdoneAt⟩ := hgrown rfl (FailurePlan.firstHit_nil _)
  obtain ⟨-, -, -, hwaited⟩ := increaseSize_exact .bounded g stalled .zero 2 hstalled.1 hstalled.2.1
    hstalled.2.2 hinterval
  rw [hlimit] at hwaited
  obtain ⟨htimeout, hsame, -, htimeoutAt⟩ := hwaited rfl (FailurePlan.firstHit_nil _)
  refine ⟨hinterval, by simp [hstore, hfailing, hstalled], hfailed, henlarged, hfailedAt, hdone, ?_,
    hdoneAt.trans (by decide), ?_, hsame, htimeoutAt.trans (by decide)⟩
  · exact hgrew.trans (congrArg (· + 2) hsize)
  · refine htimeout.trans ?_
    have hstalledSize : stalled.sizeOf g.id = 1 := hsize
    rw [hstalledSize]
    decide

end ElasticGroups.Scaling
