import ElasticGroups.Proofs.Cloud.Lagging
import ElasticGroups.Proofs.Scaling.Running

/-!
# Growth behind a lagging view

How long a node group waits for new instances that a provider does not show at once. Every creation
starts the lag again and every look-up uses it up by one, so the number of instances does not matter:
the group is seen at its new size by the look-up that follows the last one of the lag, if the wait
comes to it, and all instances are created in either case.

The module introduces:

* `Poised g view` — the node group grows a group of a healthy store, of which the view hides nothing
  yet;
* `Admits g store delta` — the increase is within the bound, and the names that it needs are free;
* `NodeGroupError.waited?` — the time that was waited in vain.

The outcome and the time of a growth are told by the lag and the limit of the wait alone
(`increaseSize_lagging`).
-/

namespace ElasticGroups.Scaling

open Cloud Session

/-- The time that was waited in vain. -/
def NodeGroupError.waited? : NodeGroupError → Option Duration
  | .convergenceTimeout _ _ waited => some waited
  | _ => none

/-- A node group grows a group of a healthy store, which it sees through a view that hides nothing
yet. What the groups list need not agree with the records. -/
structure Poised (g : NodeGroup) (view : Lagging) : Prop where
  /-- Nothing is hidden. -/
  shown : view.hidden = []
  /-- The store applies its changes, and no failure is planned. -/
  healthy : view.store.Healthy
  /-- The groups of the store have different names. -/
  distinct : (view.store.groups.map (·.id)).Nodup
  /-- The store has the group. -/
  known : (view.store.group? g.id).isSome = true
  /-- New instances join the group. -/
  own : g.template.groupId = g.id
  /-- The parent is another group, if there is one. -/
  parent : g.template.parentGroupId ≠ some g.id

/-- A node group may grow by a number of instances: at least one, within its bound, and with names
that are not taken. -/
structure Admits (g : NodeGroup) (store : Store) (delta : Int) : Prop where
  /-- The increase is one. -/
  positive : 1 ≤ delta
  /-- The new size is within the bound. -/
  bound : store.sizeOf g.id + delta ≤ g.bounds.max
  /-- The next names are not taken. -/
  fresh : store.FreshUpTo (store.created + delta.toNat)

variable {g : NodeGroup} {view : Lagging}

/-- The template of a poised node group names its group. -/
theorem Poised.named (h : Poised g view) : g.id ∈ g.template.groupIds :=
  LaunchTemplate.mem_groupIds.mpr (.inr h.own.symm)

/-- A look-up shows the desired size when the lag is used up, and not before. -/
theorem sizeVerdict_shown {template : LaunchTemplate} {group : InstanceGroup}
    {ids : List InstanceId} (hnamed : group.id ∈ template.groupIds) (hids : ids ≠ [])
    (lag k : Nat) :
    NodeGroup.sizeVerdict (group.size + ids.length)
        (.ok (if k < lag then Lagging.conceal ids (template.join ids group)
          else template.join ids group)) = .ok (decide (lag ≤ k)) := by
  have hpos := List.length_pos_of_ne_nil hids
  have hconcealed := Lagging.size_conceal_join_le template ids group
  rw [NodeGroup.sizeVerdict]
  by_cases hlasts : k < lag
  · rw [if_pos hlasts, decide_eq_false (by omega), decide_eq_false (by omega)]
  · rw [if_neg hlasts, template.size_join hnamed, decide_eq_true (Nat.le_refl _),
      decide_eq_true (by omega)]

/-- The wait for new instances behind a view that hides them: it ends with the look-up that follows
the last one of the lag, or else at its limit, and the store only counts the look-ups. -/
theorem shown_of_watch {created after : Lagging} {template : LaunchTemplate}
    {group : InstanceGroup} {ids : List InstanceId} {limit : Nat} {total : Duration}
    {replies : List (Reply (.getGroup g.id))}
    {result : Except (PollError NodeGroupError) Unit} (hhealthy : created.store.Healthy)
    (hgroup : created.store.group? g.id = some (template.join ids group))
    (hhidden : created.hidden = ids) (hnamed : group.id ∈ template.groupIds) (hids : ids ≠ [])
    (hreplies : Responder.Gives Lagging.respond created (asked (.getGroup g.id) replies) after)
    (hwatch : Watch (Request.getGroup g.id) (NodeGroup.sizeVerdict (group.size + ids.length)) limit
      total replies result) :
    (∃ calls, after.store = { created.store with calls }) ∧
      replies.length = min (created.hiddenFor + 1) limit ∧
      result = if created.hiddenFor + 1 ≤ limit then .ok () else .error (.timedOut total) := by
  obtain ⟨hstore, hshown⟩ := Lagging.shown_of_gives hreplies hhealthy hgroup
  refine ⟨hstore, hwatch.of_threshold fun k hk => ?_⟩
  rw [hshown k hk, hhidden]
  exact sizeVerdict_shown hnamed hids _ _

/-- A growth behind a lagging view: all instances are created, and the wait for them ends with the
look-up that follows the last one of the lag, or else at its limit. -/
theorem Poised.run_increaseSize {clock : Clock} (h : Poised g view) (now : Duration)
    (hinterval : 0 < (clock.lasting g.convergence.interval).nanos) {delta : Int}
    (hdelta : Admits g view.store delta) :
    let limit := g.convergence.observations clock
    let run := (g.increaseSize delta).run.run clock Lagging.respond ⟨view, now⟩
    run.1 = (if view.lag.create + 1 ≤ limit then .ok ()
      else .error (.convergenceTimeout g.id (.size (view.store.sizeOf g.id + delta.toNat))
        (g.convergence.patience clock))) ∧
    run.2.now =
      now + (clock.lasting g.convergence.interval).times (min (view.lag.create + 1) limit) ∧
    view.store.Gained g.template (view.store.newIds delta.toNat) run.2.partner.store := by
  intro limit run
  obtain ⟨group, hgroup⟩ := Option.isSome_iff_exists.mp h.known
  have hsize := sizeOf_eq_size hgroup
  have hnamed : group.id ∈ g.template.groupIds := by
    rw [((Store.group?_eq_some_iff h.distinct).mp hgroup).2]
    exact h.named
  have hparent : g.template.parentGroupId ≠ some g.template.groupId := by
    rw [h.own]
    exact h.parent
  have hpositive := hdelta.positive
  have hbound := hdelta.bound
  rw [hsize] at hbound
  -- The reading of the size shows the group in full, since nothing is hidden yet.
  have hread := Lagging.respond_getGroup (h.healthy.respond_getGroup hgroup)
  rw [h.shown, Lagging.conceal_nil, ite_self, ite_self] at hread
  obtain ⟨ids, created, ⟨hlength, hcreate, replies, result, hreplies, hwatch, houtcome, hnow⟩ |
    ⟨error, -, hcreate, -⟩⟩ :=
      NodeGroup.run_increaseSize ⟨view, now⟩ hinterval hread (by omega) hbound
  · have hids : ids ≠ [] := List.ne_nil_of_length_pos (by omega)
    -- The creations reach the store, and hide all new instances from the look-ups of the wait.
    obtain ⟨hstore, hhidden, hhiddenFor⟩ := Lagging.created_of_gives hcreate
    have hgained := Store.gained_of_gives hstore h.healthy.stalled h.distinct hparent
    have hhealthy : created.store.Healthy := by
      refine Store.Healthy.of_gives ?_ hstore
      exact ⟨h.healthy.stalled, h.healthy.failures⟩
    rw [← hlength] at hwatch
    obtain ⟨⟨calls, hcalls⟩, hcount, rfl⟩ :=
      shown_of_watch hhealthy (hgained.group?_eq hgroup) hhidden hnamed hids hreplies hwatch
    rw [hhiddenFor hids] at houtcome hcount
    refine ⟨?_, ?_, ?_⟩
    · rw [houtcome, hsize]
      split <;> rfl
    · rw [hnow, hcount]
    · -- Look-ups are only counted, so what the creations have done is what is found at the end.
      have hnames : ids = view.store.newIds delta.toNat := by
        rw [← hlength]
        exact hgained.names
      rw [← hnames, hcalls]
      exact ⟨hgained.names, hgained.created, hgained.groups, hgained.find?⟩
  · -- A healthy store fails no creation.
    refine absurd hcreate (Lagging.not_gives_error ⟨h.healthy.stalled, h.healthy.failures⟩ ?_)
    rw [h.own]
    exact h.known

/-- A node group that grows a group of a healthy store, seen through a view that hides new instances
from some look-ups, succeeds just when one more look-up than these fits its limit, and takes one
interval for each of its look-ups. Otherwise it has waited up to its limit. In both cases all
instances are created and listed by the group, and how many they are makes no difference to the
outcome or the time. -/
theorem increaseSize_lagging (clock : Clock) (g : NodeGroup) (view : Lagging) (now : Duration)
    (hpoised : Poised g view) (hinterval : 0 < (clock.lasting g.convergence.interval).nanos) :
    let pace := clock.lasting g.convergence.interval
    let limit := g.convergence.observations clock
    let size := view.store.sizeOf g.id
    let run (delta : Int) := (g.increaseSize delta).run.run clock Lagging.respond ⟨view, now⟩
    (pace = g.convergence.interval →
      limit = max 1 (g.convergence.timeout.nanos ⌈/⌉ g.convergence.interval.nanos)) ∧
    (∀ delta, Admits g view.store delta →
      let after := (run delta).2.partner.store
      (view.lag.create + 1 ≤ limit → (run delta).1 = .ok () ∧
        (run delta).2.now = now + pace.times (view.lag.create + 1)) ∧
      (limit < view.lag.create + 1 →
        (run delta).1 = .error
          (.convergenceTimeout g.id (.size (size + delta.toNat)) (pace.times limit)) ∧
        (run delta).2.now = now + pace.times limit) ∧
      view.store.Gained g.template (view.store.newIds delta.toNat) after ∧
      after.instances.size = view.store.instances.size + delta.toNat ∧
      after.sizeOf g.id = size + delta.toNat) ∧
    ∀ delta delta', Admits g view.store delta → Admits g view.store delta' →
      (run delta').1.mapError NodeGroupError.waited? = (run delta).1.mapError NodeGroupError.waited? ∧
        (run delta').2.now = (run delta).2.now := by
  intro pace limit size run
  refine ⟨fun hpace => ?_, fun delta hdelta => ?_, fun delta delta' hdelta hdelta' => ?_⟩
  · show max 1 (_ ⌈/⌉ pace.nanos) = _
    rw [hpace]
  · obtain ⟨hresult, hnow, hgained⟩ := hpoised.run_increaseSize now hinterval hdelta
    have hlength := Store.length_newIds view.store delta.toNat
    refine ⟨fun hlag => ⟨?_, ?_⟩, fun hlag => ⟨?_, ?_⟩, hgained, ?_, ?_⟩
    · rw [hresult, if_pos hlag]
    · rw [hnow, Nat.min_eq_left hlag]
    · rw [hresult, if_neg (Nat.not_le_of_lt hlag)]
      rfl
    · rw [hnow, Nat.min_eq_right (Nat.le_of_lt hlag)]
    · rw [hgained.size_instances (by rw [hlength]; exact hdelta.fresh), hlength]
    · rw [hgained.sizeOf_eq hpoised.known hpoised.named, hlength]
  · obtain ⟨hresult, hnow, -⟩ := hpoised.run_increaseSize now hinterval hdelta
    obtain ⟨hresult', hnow', -⟩ := hpoised.run_increaseSize now hinterval hdelta'
    -- The awaited size is all that the outcome tells of the number of instances.
    refine ⟨?_, hnow'.trans hnow.symm⟩
    rw [hresult, hresult']
    split <;> rfl

/-- A group of one that grows by two is seen at its new size after six seconds if five look-ups hide
the new instances, and is waited for in vain for thirty seconds if thirty do. -/
theorem increaseSize_lagging_hidden :
    let g : NodeGroup := ⟨"w", ⟨1, 4⟩, ⟨"n", "t", "i", none, "w", some "main", ""⟩, {}⟩
    let store : Store := (Store.putGroup {} ⟨"main", "c", "", []⟩).putGroup
      ⟨"w", "w.c", "1:4", [⟨"a", "active"⟩]⟩
    let view (lag : Nat) : Lagging := { store, lag := { create := lag } }
    let run (lag : Nat) :=
      (g.increaseSize 2).run.run .bounded Lagging.respond ⟨view lag, .zero⟩
    (∀ lag, Poised g (view lag)) ∧ Admits g store 2 ∧
      0 < (Clock.bounded.lasting g.convergence.interval).nanos ∧
      (run 5).1 = .ok () ∧ (run 5).2.now = .ofSeconds 6 ∧ (run 5).2.partner.store.sizeOf "w" = 3 ∧
      (run 30).1 = .error (.convergenceTimeout "w" (.size 3) (.ofSeconds 30)) ∧
      (run 30).2.now = .ofSeconds 30 ∧ (run 30).2.partner.store.sizeOf "w" = 3 := by
  intro g store view run
  have hdistinct : (store.groups.map (·.id)).Nodup := by decide
  have hknown : (store.group? g.id).isSome = true := by decide
  have hhealthy : store.Healthy := by decide
  have hpoised (lag : Nat) : Poised g (view lag) :=
    ⟨rfl, hhealthy, hdistinct, hknown, rfl, by decide⟩
  have hadmits : Admits g store 2 := ⟨by decide, by decide, fun _ _ _ => rfl⟩
  have hinterval : 0 < (Clock.bounded.lasting g.convergence.interval).nanos := by decide
  have hlimit : g.convergence.observations .bounded = 30 := by
    rw [Convergence.observations, Nat.ceilDiv_eq_add_pred_div]
    decide
  obtain ⟨-, hgrown, -⟩ := increaseSize_lagging .bounded g (view 5) .zero (hpoised 5) hinterval
  obtain ⟨hseen, -, -, -, hsize⟩ := hgrown 2 hadmits
  obtain ⟨-, hgrown', -⟩ := increaseSize_lagging .bounded g (view 30) .zero (hpoised 30) hinterval
  obtain ⟨-, hmissed, -, -, hsize'⟩ := hgrown' 2 hadmits
  rw [hlimit] at hseen hmissed
  obtain ⟨hresult, hnow⟩ := hseen (by decide)
  obtain ⟨hresult', hnow'⟩ := hmissed (by decide)
  exact ⟨hpoised, hadmits, hinterval, hresult, hnow.trans (by decide), hsize.trans (by decide),
    hresult'.trans (by decide), hnow'.trans (by decide), hsize'.trans (by decide)⟩

end ElasticGroups.Scaling
