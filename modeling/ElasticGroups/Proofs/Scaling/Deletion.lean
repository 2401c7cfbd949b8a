import ElasticGroups.Cloud.Store
import ElasticGroups.Proofs.Scaling.Requests

/-!
# Deletion with authority

What a node group asks while it deletes instances, for every provider. Nothing is assumed about
the replies: they may fail, contradict each other or show the past.

The module introduces, each as a relation between what is asked and replied and the outcome:

* `Departure` — the wait for a destroyed instance to be gone;
* `Removal` — the deletion of one instance: the size is read, the instance is looked up, it is
  destroyed, and its departure is awaited, up to the first step that fails;
* `Batch` — the deletion of several instances, one after the other, up to the first that fails.

Every transcript of `NodeGroup.deleteNodes` is a batch (`batch_of_deleteNodes`). In a batch an
instance is destroyed only right behind the two replies that authorise it, and only in its turn
(`Batch.authorised`, `Batch.destroyed_isPrefix`).
-/

namespace ElasticGroups.Scaling

open Cloud Session

/-- The wait for a destroyed instance to be gone from the group, with at most `limit` look-ups of
the instance, after the last of which `total` has been waited. -/
inductive Departure (g : NodeGroup) (limit : Nat) (total : Duration) (id : InstanceId) :
    List (Except ProviderError Instance) → Except NodeGroupError Unit → Prop
  /-- A look-up shows the instance missing. -/
  | gone {earlier : List (Except ProviderError Instance)} {last : Except ProviderError Instance}
      (hearlier : ∀ reply ∈ earlier, g.ShowsMember reply) (hlimit : earlier.length < limit)
      (hlast : g.ShowsMissing last) : Departure g limit total id (earlier ++ [last]) (.ok ())
  /-- A look-up fails, and not because the instance is not found. -/
  | lost {earlier : List (Except ProviderError Instance)} {error : ProviderError}
      (hearlier : ∀ reply ∈ earlier, g.ShowsMember reply) (hlimit : earlier.length < limit)
      (herror : error.isNotFound = false) :
      Departure g limit total id (earlier ++ [.error error]) (.error (.provider error))
  /-- All look-ups show the instance as a member. -/
  | overdue {replies : List (Except ProviderError Instance)}
      (hreplies : ∀ reply ∈ replies, g.ShowsMember reply) (hlimit : replies.length = limit) :
      Departure g limit total id replies
        (.error (.convergenceTimeout g.id (.removal id) total))

/-- The deletion of one instance, up to the first step that fails. -/
inductive Removal (g : NodeGroup) (limit : Nat) (total : Duration) (id : InstanceId) :
    List (Sigma Reply) → Except NodeGroupError Unit → Prop
  /-- The size cannot be read. -/
  | sizeUnknown (error : ProviderError) :
      Removal g limit total id [⟨.getGroup g.id, .error error⟩] (.error (.provider error))
  /-- The group is at or below its least size. -/
  | atMinimum {group : InstanceGroup} (hsize : group.size ≤ g.bounds.min) :
      Removal g limit total id [⟨.getGroup g.id, .ok group⟩]
        (.error (.minSizeReached group.size g.bounds.min))
  /-- The instance cannot be looked up. -/
  | memberUnknown {group : InstanceGroup} {error : ProviderError}
      (hsize : g.bounds.min < group.size) (herror : error.isNotFound = false) :
      Removal g limit total id [⟨.getGroup g.id, .ok group⟩, ⟨.getInstance id, .error error⟩]
        (.error (.provider error))
  /-- The instance is no present member of the group. -/
  | foreign {group : InstanceGroup} {reply : Except ProviderError Instance}
      (hsize : g.bounds.min < group.size) (hreply : g.ShowsMissing reply) :
      Removal g limit total id [⟨.getGroup g.id, .ok group⟩, ⟨.getInstance id, reply⟩]
        (.error (.foreignInstance id g.id))
  /-- The provider does not destroy the instance. -/
  | refused {group : InstanceGroup} {i : Instance} {error : ProviderError}
      (hsize : g.bounds.min < group.size) (hi : g.ShowsMember (.ok i)) :
      Removal g limit total id
        [⟨.getGroup g.id, .ok group⟩, ⟨.getInstance id, .ok i⟩, ⟨.destroyInstance id, .error error⟩]
        (.error (.provider error))
  /-- The instance is destroyed, and its departure is awaited. -/
  | destroyed {group : InstanceGroup} {i : Instance}
      {replies : List (Except ProviderError Instance)} {outcome : Except NodeGroupError Unit}
      (hsize : g.bounds.min < group.size) (hi : g.ShowsMember (.ok i))
      (hdeparture : Departure g limit total id replies outcome) :
      Removal g limit total id
        (⟨.getGroup g.id, .ok group⟩ :: ⟨.getInstance id, .ok i⟩ :: ⟨.destroyInstance id, .ok ()⟩ ::
          asked (.getInstance id) replies)
        outcome

/-- The deletion of several instances, one after the other, up to the first that fails. -/
inductive Batch (g : NodeGroup) (limit : Nat) (total : Duration) :
    List InstanceRef → List (Sigma Reply) → Except NodeGroupError Unit → Prop
  /-- No instance is left. -/
  | done : Batch g limit total [] [] (.ok ())
  /-- A deletion fails, and nothing follows it. -/
  | stopped {r : InstanceRef} {rest : List InstanceRef} {record : List (Sigma Reply)}
      {error : NodeGroupError} (hfirst : Removal g limit total r.id record (.error error)) :
      Batch g limit total (r :: rest) record (.error error)
  /-- A deletion succeeds, and the others follow it. -/
  | next {r : InstanceRef} {rest : List InstanceRef} {first later : List (Sigma Reply)}
      {outcome : Except NodeGroupError Unit} (hfirst : Removal g limit total r.id first (.ok ()))
      (hlater : Batch g limit total rest later outcome) :
      Batch g limit total (r :: rest) (first ++ later) outcome

variable {g : NodeGroup} {clock : Clock} {limit : Nat} {total : Duration}

/-! ### The transcripts of the operations -/

/-- The wait for an instance to be missing is a wait for its departure. -/
theorem departure_of_waitFor {id : InstanceId} {record : List (Sigma Reply)}
    {outcome : Except NodeGroupError Unit}
    (hpace : 0 < (clock.lasting g.convergence.interval).nanos)
    (h : (g.waitFor (.removal id) (g.isMissing id)).run.Transcript clock record outcome) :
    ∃ replies, record = asked (.getInstance id) replies ∧
      Departure g (g.convergence.observations clock) (g.convergence.patience clock) id
        replies outcome := by
  obtain ⟨replies, result, hrecord, hwatch, rfl⟩ :=
    NodeGroup.watch_of_waitFor hpace (g.run_isMissing id) h
  refine ⟨replies, hrecord, ?_⟩
  cases hwatch with
  | held hearlier hlimit hlast =>
    exact .gone (fun reply hreply => NodeGroup.removalVerdict_eq_false_iff.mp
      (hearlier reply hreply)) hlimit (NodeGroup.removalVerdict_eq_true_iff.mp hlast)
  | failed hearlier hlimit hlast =>
    obtain ⟨error, rfl, herror, rfl⟩ := NodeGroup.removalVerdict_eq_error_iff.mp hlast
    exact .lost (fun reply hreply => NodeGroup.removalVerdict_eq_false_iff.mp
      (hearlier reply hreply)) hlimit herror
  | timedOut hreplies hlimit =>
    exact .overdue (fun reply hreply => NodeGroup.removalVerdict_eq_false_iff.mp
      (hreplies reply hreply)) hlimit

/-- Deleting an instance from a group that has more members than it must have is a removal. -/
theorem removal_of_deleteInstance {id : InstanceId} {group : InstanceGroup}
    {record : List (Sigma Reply)} {outcome : Except NodeGroupError Unit}
    (hpace : 0 < (clock.lasting g.convergence.interval).nanos)
    (hsize : g.bounds.min < group.size)
    (h : (g.deleteInstance id).run.Transcript clock record outcome) :
    Removal g (g.convergence.observations clock) (g.convergence.patience clock) id
      (⟨.getGroup g.id, .ok group⟩ :: record) outcome := by
  -- The look-up decides: it fails, it shows no member, or the destruction follows it.
  simp only [NodeGroup.deleteInstance, transcript_exceptT_bind, NodeGroup.run_isMissing,
    transcript_ask, transcript_done] at h
  rcases h with ⟨e, ⟨reply, _, rfl, rfl, hreply⟩, rfl⟩ |
    ⟨_, rest, missing, rfl, ⟨reply, _, rfl, rfl, hreply⟩, h⟩
  · obtain ⟨error, rfl, herror, rfl⟩ := NodeGroup.removalVerdict_eq_error_iff.mp hreply.symm
    exact .memberUnknown hsize herror
  · cases missing with
    | true =>
      simp only [if_true, transcript_throw_bind] at h
      obtain ⟨rfl, rfl⟩ := h
      exact .foreign hsize (NodeGroup.removalVerdict_eq_true_iff.mp hreply.symm)
    | false =>
      have hmember := NodeGroup.removalVerdict_eq_false_iff.mp hreply.symm
      obtain ⟨i, rfl, hi⟩ := hmember
      simp only [Bool.false_eq_true, if_false] at h
      rcases Attempt.transcript_call_bind.mp h with ⟨error, rfl, rfl⟩ | ⟨⟨⟩, record, rfl, hwait⟩
      · exact .refused hsize ⟨i, rfl, hi⟩
      · obtain ⟨replies, rfl, hdeparture⟩ := departure_of_waitFor hpace hwait
        exact .destroyed hsize ⟨i, rfl, hi⟩ hdeparture

/-- Every transcript of the deletion of instances is a batch. -/
theorem batch_of_deleteNodes {refs : List InstanceRef} {record : List (Sigma Reply)}
    {outcome : Except NodeGroupError Unit}
    (hpace : 0 < (clock.lasting g.convergence.interval).nanos)
    (h : (g.deleteNodes refs).run.Transcript clock record outcome) :
    Batch g (g.convergence.observations clock) (g.convergence.patience clock)
      refs record outcome := by
  -- The induction is on the instances to delete: each begins with a look at the size.
  induction refs generalizing record with
  | nil =>
    obtain ⟨rfl, rfl⟩ := h
    exact .done
  | cons r rest ih =>
    simp only [NodeGroup.deleteNodes, NodeGroup.currentSize,
      NodeGroup.transcript_targetSize_bind] at h
    rcases h with ⟨error, rfl, rfl⟩ | ⟨group, record, rfl, h⟩
    · exact .stopped (.sizeUnknown error)
    · split at h
      case isTrue hsize =>
        obtain ⟨rfl, rfl⟩ := h
        exact .stopped (.atMinimum hsize)
      case isFalse hsize =>
        have hsize := Nat.lt_of_not_le hsize
        rw [transcript_exceptT_bind] at h
        rcases h with ⟨error, hfirst, rfl⟩ | ⟨first, later, ⟨⟩, rfl, hfirst, hlater⟩
        · exact .stopped (removal_of_deleteInstance hpace hsize hfirst)
        · exact .next (removal_of_deleteInstance hpace hsize hfirst) (ih hlater)

/-! ### What is asked -/

/-- The instance that an exchange is about to destroy. -/
def destroyTarget? : Sigma Reply → Option InstanceId
  | ⟨.destroyInstance id, _⟩ => some id
  | _ => none

/-- Every destruction in the record directly follows a size above the least one and a look-up that
shows the instance as a member. -/
def Authorised (g : NodeGroup) (record : List (Sigma Reply)) : Prop :=
  ∀ earlier id reply later, record = earlier ++ ⟨.destroyInstance id, reply⟩ :: later →
    ∃ before group i,
      earlier = before ++ [⟨.getGroup g.id, .ok group⟩, ⟨.getInstance id, .ok i⟩] ∧
        g.bounds.min < group.size ∧ i.isDeleted = false ∧ i.inGroup g.id = true

/-- Whenever a look-up right behind a reading of the size does not find the instance, nothing
follows it and the instance is reported as foreign. -/
def RefusesUnknown (g : NodeGroup) (record : List (Sigma Reply))
    (outcome : Except NodeGroupError Unit) : Prop :=
  ∀ earlier size id resource name later,
    record = earlier ++ ⟨.getGroup g.id, size⟩ ::
      ⟨.getInstance id, .error (.notFound resource name)⟩ :: later →
    later = [] ∧ outcome = .error (.foreignInstance id g.id)

variable {id : InstanceId} {refs : List InstanceRef} {first rest record : List (Sigma Reply)}
  {outcome : Except NodeGroupError Unit}

/-- A record without destructions needs no authority. -/
theorem Authorised.of_destroyTarget?_eq_none
    (h : ∀ exchange ∈ record, destroyTarget? exchange = none) : Authorised g record := by
  rintro earlier id reply later rfl
  have := h ⟨.destroyInstance id, reply⟩ (by simp)
  simp [destroyTarget?] at this

/-- Two replies authorise the destruction behind them. -/
theorem Authorised.grant {group : InstanceGroup} {i : Instance}
    {reply : Reply (.destroyInstance id)} (hsize : g.bounds.min < group.size)
    (hi : g.ShowsMember (.ok i)) (hrest : ∀ exchange ∈ rest, destroyTarget? exchange = none) :
    Authorised g (⟨.getGroup g.id, .ok group⟩ :: ⟨.getInstance id, .ok i⟩ ::
      ⟨.destroyInstance id, reply⟩ :: rest) := by
  obtain ⟨_, ⟨rfl⟩, hlive, hgroup⟩ := hi
  -- The destruction has two replies before it, and none of those behind it is a destruction.
  rintro (_ | ⟨a, _ | ⟨b, _ | ⟨c, earlier⟩⟩⟩) id' reply' later h
  · simp at h
  · simp at h
  · simp only [List.cons_append, List.nil_append, List.cons.injEq, Sigma.mk.injEq,
      Request.destroyInstance.injEq] at h
    obtain ⟨rfl, rfl, ⟨rfl, -⟩, -⟩ := h
    exact ⟨[], group, i, rfl, hsize, hlive, hgroup⟩
  · simp only [List.cons_append, List.cons.injEq] at h
    have := hrest ⟨.destroyInstance id', reply'⟩ (by simp [h.2.2.2])
    simp [destroyTarget?] at this

/-- Records in which all destructions are authorised may be put together. -/
theorem Authorised.append (hfirst : Authorised g first) (hrest : Authorised g rest) :
    Authorised g (first ++ rest) := by
  intro earlier id reply later h
  rcases List.append_eq_append_iff.mp h with ⟨middle, rfl, hmiddle⟩ | ⟨middle, rfl, hmiddle⟩
  · -- The destruction is in the later record, whose own replies authorise it.
    obtain ⟨before, group, i, rfl, hgranted⟩ := hrest _ _ _ _ hmiddle
    exact ⟨first ++ before, group, i, by simp, hgranted⟩
  · cases middle with
    | nil =>
      -- A record cannot begin with a destruction that it authorises.
      obtain ⟨before, group, i, hnil, -⟩ := hrest [] _ _ _ hmiddle.symm
      simp at hnil
    | cons exchange middle =>
      obtain ⟨rfl, -⟩ := List.cons.inj hmiddle
      exact hfirst _ _ _ _ rfl

/-- Looking instances up destroys none. -/
theorem destroyTarget?_asked_getInstance (replies : List (Except ProviderError Instance)) :
    ∀ exchange ∈ asked (.getInstance id) replies, destroyTarget? exchange = none := by
  intro exchange hexchange
  obtain ⟨reply, -, rfl⟩ := List.mem_map.mp hexchange
  rfl

namespace Removal

/-- A removal asks for the size, and otherwise only about its own instance. -/
theorem asks (h : Removal g limit total id record outcome) :
    ∀ exchange ∈ record, exchange.1 = .getGroup g.id ∨ exchange.1 = .getInstance id ∨
      exchange.1 = .destroyInstance id := by
  cases h <;> simp +contextual [asked]

/-- A removal destroys its own instance at most once. -/
theorem destroyed_isPrefix (h : Removal g limit total id record outcome) :
    record.filterMap destroyTarget? <+: [id] := by
  cases h with
  | refused => exact List.prefix_rfl
  | @destroyed group i replies =>
    show id :: (asked (.getInstance id) replies).filterMap destroyTarget? <+: [id]
    rw [List.filterMap_eq_nil_iff.mpr (destroyTarget?_asked_getInstance replies)]
  | _ => exact List.nil_prefix

/-- A removal succeeds only when its instance was destroyed and last seen missing. -/
theorem gone (h : Removal g limit total id record (.ok ())) :
    ∃ before earlier last,
      record = before ++ ⟨.destroyInstance id, .ok ()⟩ ::
        asked (.getInstance id) (earlier ++ [last]) ∧ g.ShowsMissing last := by
  cases h with
  | @destroyed group i replies _ hsize hi hdeparture =>
    cases hdeparture with
    | @gone earlier last hearlier hlimit hlast =>
      exact ⟨[⟨.getGroup g.id, .ok group⟩, ⟨.getInstance id, .ok i⟩], earlier, last, rfl, hlast⟩

/-- A successful removal has destroyed its instance. -/
theorem destroyed_eq (h : Removal g limit total id record (.ok ())) :
    record.filterMap destroyTarget? = [id] := by
  refine h.destroyed_isPrefix.eq_of_length_le ?_
  obtain ⟨before, earlier, last, rfl, -⟩ := h.gone
  refine List.length_pos_of_mem (a := id) (List.mem_filterMap.mpr ?_)
  exact ⟨⟨.destroyInstance id, .ok ()⟩, by simp, rfl⟩

/-- A removal destroys nothing without authority. -/
theorem authorised (h : Removal g limit total id record outcome) : Authorised g record := by
  cases h with
  | refused hsize hi => exact .grant hsize hi (by simp)
  | destroyed hsize hi hdeparture => exact .grant hsize hi (destroyTarget?_asked_getInstance _)
  | _ => exact .of_destroyTarget?_eq_none (by simp [destroyTarget?])

/-- A removal begins with its one reading of the size. -/
theorem begins (h : Removal g limit total id record outcome) :
    ∃ size later, record = ⟨.getGroup g.id, size⟩ :: later ∧
      ∀ exchange ∈ later, exchange.1 ≠ .getGroup g.id := by
  cases h with
  | destroyed => exact ⟨_, _, rfl, by simp [asked]⟩
  | _ => exact ⟨_, _, rfl, by simp⟩

/-- A removal of an instance that is not found ends there. -/
theorem refusesUnknown (h : Removal g limit total id record outcome) :
    RefusesUnknown g record outcome := by
  rintro (_ | ⟨exchange, earlier⟩) size id' resource name later hrecord
  · cases h <;> simp_all [ProviderError.isNotFound]
  · obtain ⟨size', tail, rfl, htail⟩ := h.begins
    obtain ⟨-, rfl⟩ := List.cons.inj hrecord
    exact absurd rfl (htail ⟨.getGroup g.id, size⟩ (by simp))

end Removal

namespace Batch

variable (h : Batch g limit total refs record outcome)

include h

/-- A batch asks for the size, and otherwise only about the instances to delete. -/
theorem asks : ∀ exchange ∈ record, exchange.1 = .getGroup g.id ∨
    ∃ r ∈ refs, exchange.1 = .getInstance r.id ∨ exchange.1 = .destroyInstance r.id := by
  induction h with
  | done => simp
  | stopped hfirst =>
    intro exchange hexchange
    exact (hfirst.asks exchange hexchange).imp_right fun h => ⟨_, List.mem_cons_self, h⟩
  | next hfirst hlater ih =>
    intro exchange hexchange
    rcases List.mem_append.mp hexchange with hexchange | hexchange
    · exact (hfirst.asks exchange hexchange).imp_right fun h => ⟨_, List.mem_cons_self, h⟩
    · refine (ih exchange hexchange).imp_right ?_
      rintro ⟨r, hr, h⟩
      exact ⟨r, List.mem_cons_of_mem _ hr, h⟩

/-- A batch destroys its instances in their order, each at most once, up to where it ends. -/
theorem destroyed_isPrefix : record.filterMap destroyTarget? <+: refs.map (·.id) := by
  induction h with
  | done => exact List.nil_prefix
  | stopped hfirst =>
    exact hfirst.destroyed_isPrefix.trans (by simp)
  | next hfirst hlater ih =>
    rw [List.filterMap_append, hfirst.destroyed_eq]
    simpa using ih

/-- A batch destroys nothing without authority. -/
theorem authorised : Authorised g record := by
  induction h with
  | done => exact .of_destroyTarget?_eq_none (by simp)
  | stopped hfirst => exact hfirst.authorised
  | next hfirst hlater ih => exact hfirst.authorised.append ih

/-- A batch begins with a reading of the size, unless there is nothing to delete. -/
theorem begins {exchange : Sigma Reply} {later : List (Sigma Reply)}
    (hrecord : record = exchange :: later) : exchange.1 = .getGroup g.id := by
  cases h with
  | done => simp at hrecord
  | stopped hfirst =>
    obtain ⟨size, tail, rfl, -⟩ := hfirst.begins
    rw [← (List.cons.inj hrecord).1]
  | next hfirst hlater =>
    obtain ⟨size, tail, rfl, -⟩ := hfirst.begins
    rw [← (List.cons.inj hrecord).1]

/-- A batch ends at an instance that is not found. -/
theorem refusesUnknown : RefusesUnknown g record outcome := by
  induction h with
  | done => intro earlier; simp
  | stopped hfirst => exact hfirst.refusesUnknown
  | next hfirst hlater ih =>
    intro earlier size id resource name later hrecord
    rcases List.append_eq_append_iff.mp hrecord with ⟨middle, -, hrest⟩ | ⟨middle, rfl, hrest⟩
    · exact ih _ _ _ _ _ _ hrest
    · match middle with
      | [] => exact ih [] _ _ _ _ _ hrest.symm
      | [exchange] =>
        -- The next removal would begin with a look-up of an instance.
        obtain ⟨-, hrest⟩ := List.cons.inj hrest
        simpa using hlater.begins hrest.symm
      | a :: b :: middle =>
        -- Both exchanges belong to the first removal, which did not succeed then.
        simp only [List.cons_append, List.cons.injEq] at hrest
        obtain ⟨rfl, rfl, -⟩ := hrest
        obtain ⟨-, hfailed⟩ := hfirst.refusesUnknown _ _ _ _ _ _ rfl
        cases hfailed

/-- A batch succeeds only when every instance was destroyed and last seen missing. -/
theorem gone (hok : outcome = .ok ()) :
    ∃ blocks, record = blocks.flatten ∧
      List.Forall₂ (fun r block => ∃ before earlier last,
        block = before ++ ⟨.destroyInstance r.id, .ok ()⟩ ::
          asked (.getInstance r.id) (earlier ++ [last]) ∧ g.ShowsMissing last) refs blocks := by
  induction h with
  | done => exact ⟨[], rfl, .nil⟩
  | stopped => cases hok
  | next hfirst hlater ih =>
    obtain ⟨blocks, rfl, hblocks⟩ := ih hok
    exact ⟨_ :: blocks, rfl, .cons hfirst.gone hblocks⟩

end Batch

/-! ### Runs with any provider -/

/-- Whatever a provider replies, on whatever clock, the requests of a deletion form a batch with at
most as many look-ups behind a destruction as the timeout holds intervals. No instance is created;
the instances destroyed are the first of those to delete, in their order and each once; every
destruction directly follows the two replies that authorise it; the deletion succeeds only if
every instance was destroyed and last seen missing; and an instance that is not found is reported
as foreign, with nothing asked behind it. -/
theorem deleteNodes_authority {σ : Type} (clock : Clock) (respond : Responder Reply σ) (state : σ)
    (now : Duration) (g : NodeGroup) (refs : List InstanceRef)
    (hinterval : 0 < (clock.lasting g.convergence.interval).nanos) :
    let run := (g.deleteNodes refs).run.run clock respond.recorded ⟨(state, []), now⟩
    let record := run.2.partner.2
    Batch g (g.convergence.observations clock) (g.convergence.patience clock) refs record run.1 ∧
      (clock.lasting g.convergence.interval = g.convergence.interval →
        g.convergence.observations clock =
          max 1 (g.convergence.timeout.nanos ⌈/⌉ g.convergence.interval.nanos)) ∧
      (∀ exchange ∈ record, exchange.1 = .getGroup g.id ∨
        ∃ r ∈ refs, exchange.1 = .getInstance r.id ∨ exchange.1 = .destroyInstance r.id) ∧
      record.filterMap destroyTarget? <+: refs.map (·.id) ∧
      (∀ earlier id reply later, record = earlier ++ ⟨.destroyInstance id, reply⟩ :: later →
        ∃ before group i,
          earlier = before ++ [⟨.getGroup g.id, .ok group⟩, ⟨.getInstance id, .ok i⟩] ∧
            g.bounds.min < group.size ∧ i.isDeleted = false ∧ i.inGroup g.id = true) ∧
      (run.1 = .ok () → ∃ blocks, record = blocks.flatten ∧
        List.Forall₂ (fun r block => ∃ before earlier last,
          block = before ++ ⟨.destroyInstance r.id, .ok ()⟩ ::
            asked (.getInstance r.id) (earlier ++ [last]) ∧ g.ShowsMissing last) refs blocks) ∧
      (∀ earlier size id resource name later,
        record = earlier ++ ⟨.getGroup g.id, size⟩ ::
          ⟨.getInstance id, .error (.notFound resource name)⟩ :: later →
        later = [] ∧ run.1 = .error (.foreignInstance id g.id)) := by
  intro run record
  have hbatch : Batch g (g.convergence.observations clock) (g.convergence.patience clock) refs
      record run.1 :=
    batch_of_deleteNodes hinterval (transcript_recorded clock respond _ state now).1
  refine ⟨hbatch, fun hlasting => ?_, hbatch.asks, hbatch.destroyed_isPrefix, hbatch.authorised,
    hbatch.gone, hbatch.refusesUnknown⟩
  rw [Convergence.observations, hlasting]

/-- A deletion from a store with a group of two that must keep one: the first instance goes, the
second one stays. -/
theorem deleteNodes_authority_store :
    let g : NodeGroup := ⟨"g", ⟨1, 3⟩, ⟨"n", "t", "i", none, "g", none, ""⟩, {}⟩
    let live (id : InstanceId) : Instance :=
      ⟨id, "n", "active", "t", ⟨"i", .available⟩, "", ["g"], none⟩
    let store : Store :=
      (Store.putInstance (.putInstance (.putGroup {} ⟨"g", "w.c", "1:3", []⟩) (live "a")) (live "b"))
    let run := (g.deleteNodes [⟨"a"⟩, ⟨"b"⟩]).run.run .bounded Store.respond.recorded
      ⟨(store, []), .zero⟩
    0 < (Clock.bounded.lasting g.convergence.interval).nanos ∧
      run.1 = .error (.minSizeReached 1 1) ∧
      run.2.partner.2.filterMap destroyTarget? = ["a"] ∧
      Batch g (g.convergence.observations .bounded) (g.convergence.patience .bounded)
        [⟨"a"⟩, ⟨"b"⟩] run.2.partner.2 run.1 :=
  ⟨by decide, by decide +kernel, by decide +kernel,
    (deleteNodes_authority .bounded Store.respond _ .zero _ _ (by decide)).1⟩

end ElasticGroups.Scaling
