import ElasticGroups.Proofs.Cloud.Listing
import ElasticGroups.Proofs.Cloud.Retiring
import ElasticGroups.Proofs.Scaling.Running

/-!
# Deletion from a healthy store

How far the deletion of several instances comes, told by the members that the group has at first. Each
deletion takes one member away, so the size that counts at a position is the first size less the
deletions before it, and an instance that is named again is no member any more.

The module introduces:

* `MayGo g group ids n` — the instance at a position is deleted if those before it are;
* `Shrinking g group ids count outcome` — the number of instances that are deleted, with the outcome:
  they are all deleted, or the group is at its least size at the first position where it cannot go on,
  or the instance there is foreign to it.

On a healthy store that is coherent, the deletion of one instance is decided by the list of members
(`NodeGroup.run_deleteInstance_of_member`, `NodeGroup.run_deleteInstance_of_not_member`), and a
deletion of several comes exactly so far, retires what it deletes and takes one interval for each
(`deleteNodes_exact`).
-/

namespace ElasticGroups.Scaling

open Cloud Session

/-- The instance at a position may be deleted when those before it have been: the group is still above
its least size then, and the instance is a member that was not named before. -/
def MayGo (g : NodeGroup) (group : InstanceGroup) (ids : List InstanceId) (n : Nat) : Prop :=
  g.bounds.min < group.size - n ∧
    ∃ id, ids[n]? = some id ∧ group.hasMember id = true ∧ id ∉ ids.take n

/-- How far the deletion of instances comes: the number of those that are deleted, and the outcome. -/
inductive Shrinking (g : NodeGroup) (group : InstanceGroup) (ids : List InstanceId) :
    Nat → Except NodeGroupError Unit → Prop
  /-- All instances are deleted. -/
  | complete (hall : ∀ n < ids.length, MayGo g group ids n) : Shrinking g group ids ids.length (.ok ())
  /-- The group is at its least size, or below it. -/
  | atMinimum {n : Nat} (hbefore : ∀ k < n, MayGo g group ids k) (hn : n < ids.length)
      (hsize : group.size - n ≤ g.bounds.min) :
      Shrinking g group ids n (.error (.minSizeReached (group.size - n) g.bounds.min))
  /-- The instance is none of the members, or it was deleted before. -/
  | foreign {n : Nat} {id : InstanceId} (hbefore : ∀ k < n, MayGo g group ids k)
      (hid : ids[n]? = some id) (hsize : g.bounds.min < group.size - n)
      (hmissing : group.hasMember id = false ∨ id ∈ ids.take n) :
      Shrinking g group ids n (.error (.foreignInstance id g.id))

variable {g : NodeGroup} {group : InstanceGroup} {id : InstanceId} {ids : List InstanceId}

/-- All that are deleted may go, and the next one may not. -/
theorem Shrinking.ends {count : Nat} {outcome : Except NodeGroupError Unit}
    (h : Shrinking g group ids count outcome) :
    (∀ k < count, MayGo g group ids k) ∧ ¬ MayGo g group ids count := by
  cases h with
  | complete hall =>
    refine ⟨hall, ?_⟩
    rintro ⟨-, id, hid, -⟩
    simp at hid
  | atMinimum hbefore hn hsize => exact ⟨hbefore, fun hgo => absurd hgo.1 (Nat.not_lt_of_le hsize)⟩
  | foreign hbefore hid hsize hmissing =>
    refine ⟨hbefore, ?_⟩
    rintro ⟨-, other, hother, hmember, hnew⟩
    obtain rfl := Option.some.inj (hid.symm.trans hother)
    rcases hmissing with hmissing | hagain
    · exact ne_true_of_eq_false hmissing hmember
    · exact hnew hagain

/-- The members leave no choice of how far the deletion comes. -/
theorem Shrinking.unique {count count' : Nat} {outcome outcome' : Except NodeGroupError Unit}
    (h : Shrinking g group ids count outcome) (h' : Shrinking g group ids count' outcome') :
    count = count' ∧ outcome = outcome' := by
  obtain rfl : count = count' := by
    -- Neither ends before the other, which goes on there.
    rcases Nat.lt_trichotomy count count' with hlt | heq | hgt
    · exact absurd (h'.ends.1 count hlt) h.ends.2
    · exact heq
    · exact absurd (h.ends.1 count' hgt) h'.ends.2
  refine ⟨rfl, ?_⟩
  -- At one position there is one way to end: behind all instances, at the least size, or above it.
  cases h with
  | complete =>
    cases h' with
    | complete => rfl
    | atMinimum _ hn => exact absurd hn (Nat.lt_irrefl _)
    | foreign _ hid => simp at hid
  | atMinimum _ hn hsize =>
    cases h' with
    | complete => exact absurd hn (Nat.lt_irrefl _)
    | atMinimum => rfl
    | foreign _ _ habove => exact absurd habove (Nat.not_lt_of_le hsize)
  | foreign _ hid habove =>
    cases h' with
    | complete => simp at hid
    | atMinimum _ _ hsize => exact absurd habove (Nat.not_lt_of_le hsize)
    | foreign _ hid' =>
      obtain rfl := Option.some.inj (hid.symm.trans hid')
      rfl

/-! ### From one instance to the next -/

section Next

variable (hnodup : (group.members.map (·.id)).Nodup) (hmember : group.hasMember id = true)

include hmember

/-- The first instance may go if it is a member of a group above its least size. -/
theorem mayGo_zero (hsize : g.bounds.min < group.size) : MayGo g group (id :: ids) 0 :=
  ⟨hsize, id, rfl, hmember, List.not_mem_nil⟩

include hnodup

/-- What may go once the first instance is gone may go behind it. -/
theorem MayGo.succ {n : Nat} (h : MayGo g (group.dropMember id) ids n) :
    MayGo g group (id :: ids) (n + 1) := by
  obtain ⟨hleft, other, hother, hlisted, hnew⟩ := h
  obtain ⟨hlisted, hne⟩ := InstanceGroup.hasMember_dropMember.mp hlisted
  have hdrop := InstanceGroup.size_dropMember hnodup hmember
  refine ⟨by omega, other, hother, hlisted, ?_⟩
  rw [List.take_succ_cons, List.mem_cons, not_or]
  exact ⟨hne, hnew⟩

variable (hsize : g.bounds.min < group.size)

include hsize

theorem MayGo.forall_succ {n : Nat} (h : ∀ k < n, MayGo g (group.dropMember id) ids k) :
    ∀ k < n + 1, MayGo g group (id :: ids) k := by
  rintro (_ | k) hk
  · exact mayGo_zero hmember hsize
  · exact (h k (Nat.lt_of_succ_lt_succ hk)).succ hnodup hmember

/-- A deletion that begins with a member goes on from the group without it. -/
theorem Shrinking.cons {count : Nat} {outcome : Except NodeGroupError Unit}
    (h : Shrinking g (group.dropMember id) ids count outcome) :
    Shrinking g group (id :: ids) (count + 1) outcome := by
  have hdrop := InstanceGroup.size_dropMember hnodup hmember
  -- The group without the first instance is smaller by one, so the size at each position agrees.
  have hleft (n : Nat) : (group.dropMember id).size - n = group.size - (n + 1) := by omega
  cases h with
  | complete hall => exact .complete (MayGo.forall_succ hnodup hmember hsize hall)
  | @atMinimum n hbefore hn hmin =>
    rw [hleft] at hmin ⊢
    exact .atMinimum (MayGo.forall_succ hnodup hmember hsize hbefore) (Nat.succ_lt_succ hn) hmin
  | @foreign n other hbefore hother habove hmissing =>
    rw [hleft] at habove
    refine .foreign (MayGo.forall_succ hnodup hmember hsize hbefore) hother habove ?_
    rw [List.take_succ_cons, List.mem_cons]
    rcases hmissing with hmissing | hagain
    · -- An instance that is missing without the first one is the first one, or was missing before.
      by_cases hsame : other = id
      · exact .inr (.inl hsame)
      · refine .inl (eq_false_of_ne_true fun hlisted => ?_)
        exact ne_true_of_eq_false hmissing (InstanceGroup.hasMember_dropMember.mpr ⟨hlisted, hsame⟩)
    · exact .inr (.inr hagain)

end Next

/-! ### One instance -/

section Store

variable {store : Store} {clock : Clock} {now : Duration}
  (hcoherent : store.Coherent) (hhealthy : store.Healthy) (hgroup : store.group? g.id = some group)

include hcoherent hgroup

/-- A coherent store shows an instance as missing when the group does not list it. -/
theorem removalVerdict_serve (id : InstanceId) :
    g.removalVerdict (store.serve (.getInstance id)).1 = .ok (!group.hasMember id) := by
  obtain ⟨hmem, hid⟩ := Store.mem_of_group? hgroup
  have hlisted := hcoherent.listed group hmem id
  rw [hid] at hlisted
  -- Without a record the instance is missing; a record is missing if it is deleted or of other groups.
  rw [Store.serve]
  cases hfound : store.instances.find? id with
  | none =>
    have hmissing : group.hasMember id = false := by simpa [hfound] using hlisted
    rw [hmissing]
    rfl
  | some i =>
    have hmember : group.hasMember id = (!i.isDeleted && i.inGroup g.id) := by
      rw [Bool.eq_iff_iff, hlisted]
      simp [hfound]
    rw [hmember, Bool.not_and, Bool.not_not]
    rfl

include hhealthy

namespace NodeGroup

/-- An instance that the group does not list is foreign to it, and nothing is retired. -/
theorem run_deleteInstance_of_not_member (hmember : group.hasMember id = false) :
    ∃ after, store.Retired [] after ∧
      (g.deleteInstance id).run.run clock Store.respond ⟨store, now⟩ =
        (.error (.foreignInstance id g.id), ⟨after, now⟩) := by
  have hverdict := removalVerdict_serve hcoherent hgroup id
  rw [hmember] at hverdict
  refine ⟨_, .of_calls store (store.calls.bump .getInstance), ?_⟩
  rw [deleteInstance, run_isMissing_bind (hhealthy.respond_getInstance id) hverdict]
  rfl

/-- A member is retired, and is gone at the first look. -/
theorem run_deleteInstance_of_member (hmember : group.hasMember id = true) :
    ∃ after, store.Retired [id] after ∧ after.Coherent ∧ after.Healthy ∧
      (g.deleteInstance id).run.run clock Store.respond ⟨store, now⟩ =
        (.ok (), ⟨after, now + clock.lasting g.convergence.interval⟩) := by
  obtain ⟨hmem, -⟩ := Store.mem_of_group? hgroup
  obtain ⟨i, hfound, hlive, -⟩ := (hcoherent.listed group hmem id).mp hmember
  have hverdict := removalVerdict_serve hcoherent hgroup id
  rw [hmember] at hverdict
  -- The three requests leave these stores behind, and the last one is about a deleted instance.
  let looked : Store := { store with calls := store.calls.bump .getInstance }
  let gone : Store := { looked.retire i id with calls := looked.calls.bump .destroyInstance }
  let after : Store := { gone with calls := gone.calls.bump .getInstance }
  have hlooked : looked.Healthy := ⟨hhealthy.stalled, hhealthy.failures⟩
  have hgone : gone.Healthy := ⟨hhealthy.stalled, hhealthy.failures⟩
  have hdestroyed : Store.respond (.destroyInstance id) looked = (.ok (), gone) :=
    hlooked.respond_destroyInstance hfound hlive
  have hmissing : g.removalVerdict (gone.serve (.getInstance id)).1 = .ok true := by
    have hdeleted : gone.instances.find? id =
        some { i with status := "deleted", deletedAt := some store.clock } := by
      show (store.instances.insert id _).find? id = _
      rw [OrderedMap.find?_insert, if_pos rfl]
    rw [Store.serve, hdeleted]
    rfl
  have hlookedCoherent : looked.Coherent := ⟨hcoherent.nodup, hcoherent.listed⟩
  have hafter : after.Coherent := .of_retired rfl rfl hlookedCoherent
  refine ⟨after, .single hfound hlive after.calls, hafter, ⟨hhealthy.stalled, hhealthy.failures⟩, ?_⟩
  rw [deleteInstance, run_isMissing_bind (hhealthy.respond_getInstance id) hverdict]
  show (Attempt.call (.destroyInstance id) >>= fun _ =>
    g.waitFor (.removal id) (g.isMissing id)).run.run clock Store.respond ⟨looked, now⟩ = _
  rw [Attempt.run_call_bind hdestroyed,
    run_waitFor_of_holds (g.run_isMissing id) (hgone.respond_getInstance id) hmissing]

end NodeGroup

end Store

/-! ### Several instances -/

/-- A deletion of several looks at the size, which is only counted, and fails at the least size; else
it deletes the first instance, and goes on from what that leaves. -/
theorem NodeGroup.run_deleteNodes_cons {store : Store} (hhealthy : store.Healthy)
    (hgroup : store.group? g.id = some group) (clock : Clock) (r : InstanceRef)
    (rest : List InstanceRef) (now : Duration) :
    let looked : Store := { store with calls := store.calls.bump .getGroup }
    (g.deleteNodes (r :: rest)).run.run clock Store.respond ⟨store, now⟩ =
      if group.size ≤ g.bounds.min then
        (.error (.minSizeReached group.size g.bounds.min), ⟨looked, now⟩)
      else (g.deleteInstance r.id >>= fun _ => g.deleteNodes rest).run.run clock Store.respond
        ⟨looked, now⟩ := by
  intro looked
  have hlooked : (g.deleteNodes (r :: rest)).run.run clock Store.respond ⟨store, now⟩ = (do
      if group.size ≤ g.bounds.min then
        throw (.minSizeReached group.size g.bounds.min)
      g.deleteInstance r.id
      g.deleteNodes rest : Attempt Unit).run.run clock Store.respond ⟨looked, now⟩ :=
    run_targetSize_bind g (hhealthy.respond_getGroup hgroup) _
  rw [hlooked]
  by_cases hmin : group.size ≤ g.bounds.min
  · rw [if_pos hmin, if_pos hmin]
    rfl
  · rw [if_neg hmin, if_neg hmin]

/-- The deletion of instances from a healthy store that is coherent comes as far as the members that
the group has at first allow. What it has come to is deleted: these instances were live, are marked as
deleted and are off all lists, and nothing else changes. Each of them takes one interval. -/
theorem deleteNodes_exact (clock : Clock) (g : NodeGroup) (refs : List InstanceRef) (store : Store)
    (now : Duration) (group : InstanceGroup) (hcoherent : store.Coherent) (hhealthy : store.Healthy)
    (hgroup : store.group? g.id = some group) :
    let ids := refs.map (·.id)
    let run := (g.deleteNodes refs).run.run clock Store.respond ⟨store, now⟩
    ∃ count, Shrinking g group ids count run.1 ∧ store.Retired (ids.take count) run.2.partner ∧
      run.2.now = now + (clock.lasting g.convergence.interval).times count := by
  -- The induction is on the instances: the first one leaves a store with one member less, which is
  -- healthy and coherent again.
  induction refs generalizing store now group with
  | nil =>
    refine ⟨0, .complete (by simp), .of_calls store store.calls, ?_⟩
    rw [Duration.times_zero, Duration.add_zero]
    rfl
  | cons r rest ih =>
    intro ids run
    let looked : Store := { store with calls := store.calls.bump .getGroup }
    have hkept : store.Retired [] looked := .of_calls store _
    have hlooked : looked.Healthy := ⟨hhealthy.stalled, hhealthy.failures⟩
    have hlookedCoherent : looked.Coherent := ⟨hcoherent.nodup, hcoherent.listed⟩
    have hrun : run = _ := NodeGroup.run_deleteNodes_cons hhealthy hgroup clock r rest now
    have hstay : now = now + (clock.lasting g.convergence.interval).times 0 := by
      rw [Duration.times_zero, Duration.add_zero]
    by_cases hmin : group.size ≤ g.bounds.min
    · rw [if_pos hmin] at hrun
      rw [hrun]
      exact ⟨0, .atMinimum (by simp) (by simp [ids]) hmin, hkept, hstay⟩
    · have hsize := Nat.lt_of_not_le hmin
      rw [if_neg hmin, run_exceptT_bind] at hrun
      cases hmember : group.hasMember r.id with
      | false =>
        obtain ⟨after, hretired, hfirst⟩ := @NodeGroup.run_deleteInstance_of_not_member g group r.id
          looked clock now hlookedCoherent hlooked hgroup hmember
        rw [hrun, hfirst]
        exact ⟨0, .foreign (by simp) rfl hsize (.inl hmember), hkept.trans hretired, hstay⟩
      | true =>
        obtain ⟨middle, hretired, hmiddle, hmiddleHealthy, hfirst⟩ :=
          @NodeGroup.run_deleteInstance_of_member g group r.id looked clock now hlookedCoherent
            hlooked hgroup hmember
        have hnodup := hcoherent.nodup group (Store.mem_of_group? hgroup).1
        have hleft : middle.group? g.id = some (group.dropMember r.id) := by
          rw [(hkept.trans hretired).group?_eq, hgroup, ← group.without_singleton]
          rfl
        -- The others are deleted one interval later, from the group without the first one.
        obtain ⟨count, hshrinking, hrest, hnow⟩ := ih middle
          (now + clock.lasting g.convergence.interval) _ hmiddle hmiddleHealthy hleft
        rw [hrun, hfirst]
        refine ⟨count + 1, hshrinking.cons hnodup hmember hsize,
          (hkept.trans hretired).trans hrest, ?_⟩
        rw [Duration.times_succ, ← Duration.add_assoc]
        exact hnow

/-- Of three members, one that is named twice goes once and is foreign then; and two of them go before
the group is at its least size. -/
theorem deleteNodes_exact_three :
    let g : NodeGroup := ⟨"w", ⟨1, 4⟩, ⟨"n", "t", "i", none, "w", some "main", ""⟩, {}⟩
    let inst (id : InstanceId) : Instance :=
      ⟨id, "n", "active", "t", ⟨"i", .available⟩, "z", ["main", "w"], none⟩
    let store : Store := .ofSnapshot
      ⟨[⟨"main", "c", "", []⟩, ⟨"w", "w.c", "1:4", []⟩], [inst "a", inst "b", inst "c"]⟩
    let run (ids : List InstanceId) := (g.deleteNodes (ids.map (⟨·⟩))).run.run .bounded Store.respond
      ⟨store, .zero⟩
    store.Coherent ∧ store.Healthy ∧
      (run ["b", "b", "a"]).1 = .error (.foreignInstance "b" "w") ∧
      store.Retired ["b"] (run ["b", "b", "a"]).2.partner ∧
      (run ["b", "b", "a"]).2.now = .ofSeconds 1 ∧
      (run ["c", "a", "b"]).1 = .error (.minSizeReached 1 1) ∧
      store.Retired ["c", "a"] (run ["c", "a", "b"]).2.partner ∧
      (run ["c", "a", "b"]).2.now = .ofSeconds 2 := by
  intro g inst store run
  have hcoherent : store.Coherent := (Store.faithful_ofSnapshot (by decide) (by decide)).coherent
  have hhealthy : store.Healthy := by decide +kernel
  let group : InstanceGroup :=
    ⟨"w", "w.c", "1:4", [⟨"a", "active"⟩, ⟨"b", "active"⟩, ⟨"c", "active"⟩]⟩
  have hgroup : store.group? g.id = some group := by decide +kernel
  have hrepeated : Shrinking g group ["b", "b", "a"] 1 (.error (.foreignInstance "b" "w")) := by
    refine .foreign (fun k hk => ?_) rfl (by decide) (.inr (by decide))
    obtain rfl : k = 0 := by omega
    exact ⟨by decide, "b", rfl, by decide, by decide⟩
  have hminimum : Shrinking g group ["c", "a", "b"] 2 (.error (.minSizeReached 1 1)) := by
    refine .atMinimum (fun k hk => ?_) (by decide) (by decide)
    obtain rfl | rfl : k = 0 ∨ k = 1 := by omega
    · exact ⟨by decide, "c", rfl, by decide, by decide⟩
    · exact ⟨by decide, "a", rfl, by decide, by decide⟩
  -- Each run ends in one of the two ways, and the members leave no other.
  have hexact (ids : List InstanceId) : ∃ count, Shrinking g group ids count (run ids).1 ∧
      store.Retired (ids.take count) (run ids).2.partner ∧
      (run ids).2.now = .zero + (Clock.bounded.lasting g.convergence.interval).times count := by
    have hrefs : (ids.map InstanceRef.mk).map (·.id) = ids := by
      rw [List.map_map]
      exact List.map_id ids
    have hrun := deleteNodes_exact .bounded g (ids.map (⟨·⟩)) store .zero group hcoherent hhealthy
      hgroup
    rw [hrefs] at hrun
    exact hrun
  obtain ⟨count, hshrinking, hretired, hnow⟩ := hexact ["b", "b", "a"]
  obtain ⟨rfl, houtcome⟩ := hshrinking.unique hrepeated
  obtain ⟨count', hshrinking', hretired', hnow'⟩ := hexact ["c", "a", "b"]
  obtain ⟨rfl, houtcome'⟩ := hshrinking'.unique hminimum
  exact ⟨hcoherent, hhealthy, houtcome, hretired, hnow.trans (by decide), houtcome', hretired',
    hnow'.trans (by decide)⟩

end ElasticGroups.Scaling
