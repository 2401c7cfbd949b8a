import ElasticGroups.Proofs.Cloud.Effect
import ElasticGroups.Proofs.Scaling.Deletion

/-!
# Requests out of bounds

What an operation has done by the time it fails because the request was out of bounds, for every
provider and every clock. Only the looks at the size in front of all changes lead to such a failure,
neither a change nor a wait does. So an increase and a decrease have done nothing by then, and a
deletion has destroyed the instances in front of the one at which it met the least size.

The module introduces:

* `Admitted error` — the error is no bounds violation;
* `CreatesNone request` — the request creates no instance;
* `Order` — an increase, a decrease or a deletion, with everything that it is given;
* `MeetsLeast` — a deletion stops at an instance, because the group has the least size by then.

An order that fails with a bounds violation has therefore created nothing, and has only read unless
it is a deletion that met the least size behind its first instance. Deletions in front of that one
stand (`reads_iff_of_boundsViolation`).
-/

namespace ElasticGroups.Scaling

open Cloud Session

/-- The error is no bounds violation. -/
def Admitted (error : NodeGroupError) : Prop := error.isBoundsViolation = false

/-- The request creates no instance. -/
def CreatesNone (request : Request) : Prop := ∀ template, request ≠ .createInstance template

/-- An order to a node group to change its size. -/
inductive Order
  /-- Grow by a number of instances. -/
  | increase (delta : Int)
  /-- Shrink by a number of instances. -/
  | decrease (delta : Int)
  /-- Delete instances. -/
  | delete (refs : List InstanceRef)

namespace Order

/-- Carry an order out. -/
def attempt (g : NodeGroup) : Order → Attempt Unit
  | increase delta => g.increaseSize delta
  | decrease delta => g.decreaseTargetSize delta
  | delete refs => g.deleteNodes refs

/-- The instances that an order wants gone. -/
def refs : Order → List InstanceRef
  | delete refs => refs
  | _ => []

end Order

/-- A deletion stops at the instance behind those that it has deleted: the last that it sees is the
group at its least size or below, which it fails with. -/
structure MeetsLeast (g : NodeGroup) (refs done : List InstanceRef) (record : List (Sigma Reply))
    (error : NodeGroupError) : Prop where
  /-- There is an instance behind those that are deleted. -/
  next : ∃ r, done ++ [r] <+: refs
  /-- The size is looked at in front of that instance, and is no greater than the least. -/
  last : ∃ group, record.getLast? = some ⟨.getGroup g.id, .ok group⟩ ∧
    group.size ≤ g.bounds.min ∧ error = .minSizeReached group.size g.bounds.min

variable {clock : Clock} {record : List (Sigma Reply)} {error : NodeGroupError}
  {allowed : Request → Prop} {awaited : Awaited} {observe : Attempt Bool}

/-! ### The steps behind a look at the size -/

/-- A request that fails is no bounds violation. -/
theorem failsOnly_call (request : Request) : (Attempt.call request).run.FailsOnly Admitted := by
  rintro (error | answer)
  · exact rfl
  · exact trivial

section Steps

variable (g : NodeGroup)

theorem failsOnly_targetSize : g.targetSize.run.FailsOnly Admitted :=
  (failsOnly_call (.getGroup g.id)).exceptT_bind fun _ => trivial

theorem asksOnly_targetSize (h : allowed (.getGroup g.id)) :
    g.targetSize.run.AsksOnly allowed := by
  refine AsksOnly.exceptT_bind ⟨h, ?_⟩ fun group => trivial
  rintro (error | group) <;> exact trivial

theorem failsOnly_isMissing (id : InstanceId) : (g.isMissing id).run.FailsOnly Admitted := by
  rintro (error | i)
  · dsimp only
    split
    · exact trivial
    · exact rfl
  · exact trivial

theorem asksOnly_isMissing (id : InstanceId) (h : allowed (.getInstance id)) :
    (g.isMissing id).run.AsksOnly allowed := by
  rw [NodeGroup.run_isMissing]
  exact ⟨h, fun _ => trivial⟩

/-- A wait asks what its observation asks. -/
theorem asksOnly_waitFor (h : observe.run.AsksOnly allowed) :
    (g.waitFor awaited observe).run.AsksOnly allowed := by
  refine (h.pollFrom .zero).bind ?_
  rintro ((_ | _) | _) <;> exact trivial

/-- A wait that runs out of time is no bounds violation. -/
theorem failsOnly_waitFor (h : observe.run.FailsOnly Admitted) :
    (g.waitFor awaited observe).run.FailsOnly Admitted := by
  refine (h.pollFrom .zero).bind (fun _ => trivial) ?_
  rintro (waited | error) herror
  · exact rfl
  · exact herror

/-- Creating instances violates no bounds. -/
theorem failsOnly_createInstances (count : Nat) :
    (g.createInstances count).run.FailsOnly Admitted := by
  induction count with
  | zero => exact trivial
  | succ count ih => exact (failsOnly_call (.createInstance g.template)).exceptT_bind fun _ => ih

/-- Creating instances and waiting for them violates no bounds. -/
theorem failsOnly_grow (count desired : Nat) :
    (do
      g.createInstances count
      g.waitFor (.size desired) do
        let size ← g.targetSize
        return size ≥ desired : Attempt Unit).run.FailsOnly Admitted :=
  (failsOnly_createInstances g count).exceptT_bind fun _ =>
    failsOnly_waitFor g ((failsOnly_targetSize g).exceptT_bind fun _ => trivial)

/-- Deleting an instance violates no bounds: the size was looked at before. -/
theorem failsOnly_deleteInstance (id : InstanceId) :
    (g.deleteInstance id).run.FailsOnly Admitted := by
  refine (failsOnly_isMissing g id).exceptT_bind fun missing => ?_
  cases missing with
  | true => exact rfl
  | false =>
    exact (failsOnly_call (.destroyInstance id)).exceptT_bind fun _ =>
      failsOnly_waitFor g (failsOnly_isMissing g id)

/-- Deleting an instance looks it up and destroys it, and asks nothing else. -/
theorem asksOnly_deleteInstance (id : InstanceId) (hget : allowed (.getInstance id))
    (hdestroy : allowed (.destroyInstance id)) : (g.deleteInstance id).run.AsksOnly allowed := by
  refine AsksOnly.exceptT_bind (asksOnly_isMissing g id hget) fun missing => ?_
  cases missing with
  | true => exact trivial
  | false =>
    refine AsksOnly.exceptT_bind ⟨hdestroy, ?_⟩ fun _ =>
      asksOnly_waitFor g (asksOnly_isMissing g id hget)
    rintro (error | answer) <;> exact trivial

end Steps

variable {g : NodeGroup}

/-- A deletion of an instance that succeeds has destroyed it, and no other. -/
theorem destroyed_of_deleteInstance {id : InstanceId}
    (h : (g.deleteInstance id).run.Transcript clock record (.ok ())) :
    record.filterMap destroyTarget? = [id] := by
  simp only [NodeGroup.deleteInstance, transcript_exceptT_bind, NodeGroup.run_isMissing,
    transcript_ask, transcript_done] at h
  obtain ⟨_, -, ⟨⟩⟩ | ⟨_, rest, missing, rfl, ⟨reply, _, rfl, rfl, -⟩, h⟩ := h
  cases missing with
  | true => cases h.2
  | false =>
    simp only [Bool.false_eq_true, if_false] at h
    obtain ⟨_, -, ⟨⟩⟩ | ⟨⟨⟩, later, rfl, hwait⟩ := Attempt.transcript_call_bind.mp h
    -- The wait only looks the instance up.
    have hasks : (g.waitFor (.removal id) (g.isMissing id)).run.AsksOnly (· = .getInstance id) :=
      asksOnly_waitFor g (asksOnly_isMissing g id rfl)
    have hlooks := hasks.of_mem hwait
    have hnone : later.filterMap destroyTarget? = [] := by
      refine List.filterMap_eq_nil_iff.mpr fun exchange hexchange => ?_
      obtain ⟨request, reply⟩ := exchange
      obtain rfl : request = .getInstance id := hlooks _ hexchange
      rfl
    show id :: later.filterMap destroyTarget? = [id]
    rw [hnone]

/-! ### Orders out of bounds -/

/-- An increase that violates the bounds has only read. -/
theorem reads_of_increaseSize {delta : Int}
    (h : (g.increaseSize delta).run.Transcript clock record (.error error))
    (hviolation : error.isBoundsViolation = true) : ∀ exchange ∈ record, exchange.1.Reads := by
  simp only [NodeGroup.increaseSize] at h
  split at h
  case isTrue =>
    obtain ⟨rfl, -⟩ := h
    exact List.forall_mem_nil _
  case isFalse =>
    rw [NodeGroup.transcript_targetSize_bind] at h
    obtain ⟨_, rfl, -⟩ | ⟨group, rest, rfl, h⟩ := h
    · exact List.forall_mem_singleton.mpr trivial
    · split at h
      case isTrue =>
        obtain ⟨rfl, -⟩ := h
        exact List.forall_mem_singleton.mpr trivial
      case isFalse =>
        -- Behind the look at the size, nothing fails with a bounds violation.
        have hadmitted := (failsOnly_grow g delta.toNat (group.size + delta.toNat)).of_transcript h
        rw [Admitted, hviolation] at hadmitted
        cases hadmitted

/-- Refusing to shrink only reads. -/
theorem asksOnly_decreaseTargetSize (g : NodeGroup) (delta : Int) :
    (g.decreaseTargetSize delta).run.AsksOnly Request.Reads := by
  simp only [NodeGroup.decreaseTargetSize]
  split
  · exact trivial
  · exact AsksOnly.exceptT_bind (asksOnly_targetSize g trivial) fun size => trivial

/-- A deletion creates no instance. -/
theorem asksOnly_deleteNodes (g : NodeGroup) (refs : List InstanceRef) :
    (g.deleteNodes refs).run.AsksOnly CreatesNone := by
  induction refs with
  | nil => exact trivial
  | cons r rest ih =>
    have hfirst : (g.deleteInstance r.id).run.AsksOnly CreatesNone :=
      asksOnly_deleteInstance g r.id (fun _ => nofun) fun _ => nofun
    refine AsksOnly.exceptT_bind (asksOnly_targetSize g fun _ => nofun) fun size => ?_
    split
    · exact trivial
    · exact AsksOnly.exceptT_bind hfirst fun _ => ih

/-- A deletion that violates the bounds has met the least size, and has destroyed the instances in
front of the one at which it did. -/
theorem destroyed_of_boundsViolation {refs : List InstanceRef}
    (h : (g.deleteNodes refs).run.Transcript clock record (.error error))
    (hviolation : error.isBoundsViolation = true) :
    ∃ done, record.filterMap destroyTarget? = done.map (·.id) ∧
      MeetsLeast g refs done record error := by
  -- The induction is on the instances to delete: each begins with a look at the size.
  induction refs generalizing record with
  | nil => cases h.2
  | cons r rest ih =>
    simp only [NodeGroup.deleteNodes, NodeGroup.currentSize,
      NodeGroup.transcript_targetSize_bind] at h
    obtain ⟨_, -, ⟨⟩⟩ | ⟨group, record, rfl, h⟩ := h
    · cases hviolation
    · split at h
      case isTrue hsize =>
        obtain ⟨rfl, ⟨⟩⟩ := h
        exact ⟨[], rfl, ⟨r, List.prefix_append [r] rest⟩, group, rfl, hsize, rfl⟩
      case isFalse =>
        rw [transcript_exceptT_bind] at h
        obtain ⟨_, hfirst, ⟨⟩⟩ | ⟨first, later, ⟨⟩, rfl, hfirst, hlater⟩ := h
        · have hadmitted := (failsOnly_deleteInstance g r.id).of_transcript hfirst
          rw [Admitted, hviolation] at hadmitted
          cases hadmitted
        · obtain ⟨done, hdestroyed, ⟨next, hnext⟩, least, hlast, hleast⟩ := ih hlater
          refine ⟨r :: done, ?_, ⟨next, List.cons_prefix_cons.mpr ⟨rfl, hnext⟩⟩, least, ?_, hleast⟩
          · show (first ++ later).filterMap destroyTarget? = r.id :: done.map (·.id)
            rw [List.filterMap_append, destroyed_of_deleteInstance hfirst, hdestroyed]
            rfl
          · rw [List.getLast?_cons, List.getLast?_append, hlast]
            rfl

theorem createsNone_of_reads {request : Request} (h : request.Reads) : CreatesNone request := by
  rintro template rfl
  exact h

/-- What creates nothing only reads if it destroys nothing either. -/
theorem reads_iff_of_createsNone (h : ∀ exchange ∈ record, CreatesNone exchange.1) :
    (∀ exchange ∈ record, exchange.1.Reads) ↔ record.filterMap destroyTarget? = [] := by
  rw [List.filterMap_eq_nil_iff]
  refine forall₂_congr fun exchange hexchange => ?_
  obtain ⟨request, reply⟩ := exchange
  cases request with
  | createInstance template => exact absurd rfl (h _ hexchange template)
  | destroyInstance id => exact iff_of_false (fun hreads => hreads) (by simp [destroyTarget?])
  | _ => exact iff_of_true trivial rfl

/-- An order that fails with a bounds violation has created nothing, and has destroyed the instances
in front of the one at which it met the least size. -/
theorem done_of_boundsViolation {order : Order}
    (h : (order.attempt g).run.Transcript clock record (.error error))
    (hviolation : error.isBoundsViolation = true) :
    (∀ exchange ∈ record, CreatesNone exchange.1) ∧
      ∃ done, done <+: order.refs ∧ record.filterMap destroyTarget? = done.map (·.id) ∧
        (done ≠ [] → MeetsLeast g order.refs done record error) := by
  -- What has only read has created and destroyed nothing.
  have hread (hreads : ∀ exchange ∈ record, exchange.1.Reads) :
      (∀ exchange ∈ record, CreatesNone exchange.1) ∧
        ∃ done, done <+: order.refs ∧ record.filterMap destroyTarget? = done.map (·.id) ∧
          (done ≠ [] → MeetsLeast g order.refs done record error) := by
    have hcreates : ∀ exchange ∈ record, CreatesNone exchange.1 := fun exchange hexchange =>
      createsNone_of_reads (hreads exchange hexchange)
    have hnone := (reads_iff_of_createsNone hcreates).mp hreads
    exact ⟨hcreates, [], List.nil_prefix, hnone, fun hne => absurd rfl hne⟩
  cases order with
  | increase delta => exact hread (reads_of_increaseSize h hviolation)
  | decrease delta => exact hread ((asksOnly_decreaseTargetSize g delta).of_mem h)
  | delete refs =>
    obtain ⟨done, hdestroyed, hleast⟩ := destroyed_of_boundsViolation h hviolation
    obtain ⟨r, hnext⟩ := hleast.next
    have hdone : done <+: refs := (List.prefix_append done [r]).trans hnext
    exact ⟨(asksOnly_deleteNodes g refs).of_mem h, done, hdone, hdestroyed, fun _ => hleast⟩

/-- Whatever a provider replies, on whatever clock: an order that fails with a bounds violation has
created nothing. If it is a deletion, it has destroyed the instances in front of the one at which it
met the least size, one after the other, and otherwise none. So it has only read exactly if the
bounds were violated before anything was destroyed, which they are unless a deletion met the least
size behind its first instance. An order that has only read leaves a store with the content that it
had. -/
theorem reads_iff_of_boundsViolation (clock : Clock) (now : Duration) (g : NodeGroup)
    (order : Order) (error : NodeGroupError) (hviolation : error.isBoundsViolation = true) :
    (∀ (σ : Type) (respond : Responder Reply σ) (state : σ),
      let run := (order.attempt g).run.run clock respond.recorded ⟨(state, []), now⟩
      let record := run.2.partner.2
      run.1 = .error error →
        (∀ exchange ∈ record, CreatesNone exchange.1) ∧
        ∃ done, done <+: order.refs ∧ record.filterMap destroyTarget? = done.map (·.id) ∧
          ((∀ exchange ∈ record, exchange.1.Reads) ↔ done = []) ∧
          (done ≠ [] → MeetsLeast g order.refs done record error)) ∧
    ∀ store : Store,
      let run := (order.attempt g).run.run clock Store.respond.recorded ⟨(store, []), now⟩
      run.1 = .error error → (∀ exchange ∈ run.2.partner.2, exchange.1.Reads) →
        Store.Kept store run.2.partner.1 := by
  constructor
  · intro σ respond state run record herror
    have htranscript := (transcript_recorded clock respond (order.attempt g).run state now).1
    change (order.attempt g).run.Transcript clock record run.1 at htranscript
    rw [herror] at htranscript
    obtain ⟨hcreates, done, hdone, hdestroyed, hleast⟩ :=
      done_of_boundsViolation htranscript hviolation
    refine ⟨hcreates, done, hdone, hdestroyed, ?_, hleast⟩
    rw [reads_iff_of_createsNone hcreates, hdestroyed, List.map_eq_nil_iff]
  · intro store run _ hreads
    have hgives := (transcript_recorded clock Store.respond (order.attempt g).run store now).2
    exact Store.kept_of_gives hgives hreads

/-- A group of two that must keep two refuses to delete one of them, which leaves the store as it
was. If it must keep one, it deletes the first, and meets its least size at the second. -/
theorem reads_iff_of_boundsViolation_store :
    let g (least : Nat) : NodeGroup := ⟨"g", ⟨least, 3⟩, ⟨"n", "t", "i", none, "g", none, ""⟩, {}⟩
    let live (id : InstanceId) : Instance :=
      ⟨id, "n", "active", "t", ⟨"i", .available⟩, "", ["g"], none⟩
    let store : Store :=
      (Store.putInstance (.putInstance (.putGroup {} ⟨"g", "w.c", "2:3", []⟩) (live "a")) (live "b"))
    let order : Order := .delete [⟨"a"⟩, ⟨"b"⟩]
    let run := (order.attempt (g 2)).run.run .bounded Store.respond.recorded ⟨(store, []), .zero⟩
    let halted := (order.attempt (g 1)).run.run .bounded Store.respond.recorded ⟨(store, []), .zero⟩
    (run.1 = .error (.minSizeReached 2 2) ∧
      (NodeGroupError.minSizeReached 2 2).isBoundsViolation = true ∧
      (∀ exchange ∈ run.2.partner.2, CreatesNone exchange.1) ∧
      (∀ exchange ∈ run.2.partner.2, exchange.1.Reads) ∧ Store.Kept store run.2.partner.1) ∧
    halted.1 = .error (.minSizeReached 1 1) ∧
      (NodeGroupError.minSizeReached 1 1).isBoundsViolation = true ∧
      halted.2.partner.2.filterMap destroyTarget? = ["a"] ∧
      MeetsLeast (g 1) order.refs [⟨"a"⟩] halted.2.partner.2 (.minSizeReached 1 1) := by
  intro g live store order run halted
  have hrefused (least : Nat) := reads_iff_of_boundsViolation .bounded .zero (g least) order
    (.minSizeReached least least) rfl
  constructor
  · have herror : run.1 = .error (.minSizeReached 2 2) := by decide +kernel
    have hcreates := ((hrefused 2).1 Store Store.respond store herror).1
    have hnone : run.2.partner.2.filterMap destroyTarget? = [] := by decide +kernel
    have hreads := (reads_iff_of_createsNone hcreates).mpr hnone
    exact ⟨herror, rfl, hcreates, hreads, (hrefused 2).2 store herror hreads⟩
  · have herror : halted.1 = .error (.minSizeReached 1 1) := by decide +kernel
    obtain ⟨-, done, -, hdone, -, hleast⟩ := (hrefused 1).1 Store Store.respond store herror
    have hids : done.map (·.id) = ["a"] := hdone.symm.trans (by decide +kernel)
    obtain ⟨⟨_⟩, rfl, rfl⟩ := List.map_eq_singleton_iff.mp hids
    exact ⟨herror, rfl, by decide +kernel, hleast (List.cons_ne_nil _ _)⟩

/-- A group of two that must keep one deletes the first of its instances and then fails with a
bounds violation at the second, so a bounds violation does not mean that nothing was changed. -/
theorem boundsViolation_after_deletion :
    let g : NodeGroup := ⟨"g", ⟨1, 3⟩, ⟨"n", "t", "i", none, "g", none, ""⟩, {}⟩
    let live (id : InstanceId) : Instance :=
      ⟨id, "n", "active", "t", ⟨"i", .available⟩, "", ["g"], none⟩
    let store : Store :=
      (Store.putInstance (.putInstance (.putGroup {} ⟨"g", "w.c", "1:3", []⟩) (live "a")) (live "b"))
    let run := ((Order.delete [⟨"a"⟩, ⟨"b"⟩]).attempt g).run.run .bounded Store.respond.recorded
      ⟨(store, []), .zero⟩
    run.1 = .error (.minSizeReached 1 1) ∧
      (NodeGroupError.minSizeReached 1 1).isBoundsViolation = true ∧
      run.2.partner.2.filterMap destroyTarget? = ["a"] ∧
      (store.instances.find? "a").map (·.isDeleted) = some false ∧
      (run.2.partner.1.instances.find? "a").map (·.isDeleted) = some true ∧
      run.2.partner.1.groups = [⟨"g", "w.c", "1:3", [⟨"b", "active"⟩]⟩] := by
  decide +kernel

end ElasticGroups.Scaling
