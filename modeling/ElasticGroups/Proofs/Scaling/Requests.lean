import ElasticGroups.Proofs.Session.Polling
import ElasticGroups.Scaling.NodeGroup

/-!
# Requests of a node group

The transcripts of the parts from which the operations of a node group are put together: one
request, a look at the size, a look at an instance, and a wait for either.

The module introduces:

* `NodeGroup.ShowsMember`, `NodeGroup.ShowsMissing` — what a reply to a look-up of an instance says
  about it as a member of the group. A reply that says neither is a failure other than a missing
  resource;
* `NodeGroup.sizeVerdict`, `NodeGroup.removalVerdict` — the observations that the group waits for,
  as functions of one reply.

A wait that observes through one request is a watch (`NodeGroup.watch_of_waitFor`).
-/

namespace ElasticGroups.Scaling

open Cloud Session

variable {clock : Clock} {record : List (Sigma Reply)} {α : Type}

namespace Attempt

/-- A request that fails ends what follows it; one that is answered is followed by it. -/
theorem transcript_call_bind {request : Request} {next : request.Answer → Attempt α}
    {final : Except NodeGroupError α} :
    (call request >>= next).run.Transcript clock record final ↔
      (∃ error, record = [⟨request, .error error⟩] ∧ final = .error (.provider error)) ∨
        ∃ answer rest, record = ⟨request, .ok answer⟩ :: rest ∧
          (next answer).run.Transcript clock rest final := by
  show (ask request _).Transcript clock record final ↔ _
  rw [transcript_ask]
  constructor
  · rintro ⟨error | answer, rest, rfl, h⟩
    · obtain ⟨rfl, rfl⟩ := h
      exact .inl ⟨error, rfl, rfl⟩
    · exact .inr ⟨answer, rest, rfl, h⟩
  · rintro (⟨error, rfl, rfl⟩ | ⟨answer, rest, rfl, h⟩)
    · exact ⟨.error error, [], rfl, rfl, rfl⟩
    · exact ⟨.ok answer, rest, rfl, h⟩

end Attempt

namespace NodeGroup

variable (g : NodeGroup)

/-! ### Looking at the size -/

/-- A look at the size is a look-up of the group. -/
theorem transcript_targetSize_bind {next : Nat → Attempt α} {final : Except NodeGroupError α} :
    (g.targetSize >>= next).run.Transcript clock record final ↔
      (∃ error, record = [⟨.getGroup g.id, .error error⟩] ∧ final = .error (.provider error)) ∨
        ∃ group rest, record = ⟨.getGroup g.id, .ok group⟩ :: rest ∧
          (next group.size).run.Transcript clock rest final := by
  -- Reading the size and going on is asking for the group and going on with its size.
  have hsize : (g.targetSize >>= next) =
      (Attempt.call (.getGroup g.id) >>= fun group => next group.size) := by
    show ExceptT.mk (Session.ask _ _) = ExceptT.mk (Session.ask _ _)
    congr 2
    funext reply
    cases reply <;> rfl
  rw [hsize]
  exact Attempt.transcript_call_bind

/-- What a look-up of the group says about a desired size. -/
def sizeVerdict (desired : Nat) :
    Except ProviderError InstanceGroup → Except NodeGroupError Bool
  | .ok group => .ok (group.size ≥ desired)
  | .error error => .error (.provider error)

/-- Observing the size is asking for a verdict on a look-up of the group. -/
theorem run_observeSize (desired : Nat) :
    (do let size ← g.targetSize; return decide (size ≥ desired) : Attempt Bool).run =
      .ask (.getGroup g.id) fun reply => .done (sizeVerdict desired reply) := by
  show Session.ask _ _ = Session.ask _ _
  congr 1
  ext reply
  cases reply <;> rfl

/-! ### Looking at an instance -/

/-- The reply shows the instance as a present member of the group. -/
def ShowsMember (reply : Except ProviderError Instance) : Prop :=
  ∃ i, reply = .ok i ∧ i.isDeleted = false ∧ i.inGroup g.id = true

/-- The reply shows that the instance is missing from the group: it is not found, deleted, or does
not name the group. -/
def ShowsMissing (reply : Except ProviderError Instance) : Prop :=
  (∃ resource id, reply = .error (.notFound resource id)) ∨
    ∃ i, reply = .ok i ∧ (i.isDeleted = true ∨ i.inGroup g.id = false)

/-- Whether a look-up of an instance shows it missing from the group. -/
def removalVerdict : Except ProviderError Instance → Except NodeGroupError Bool
  | .ok i => .ok (i.isDeleted || !i.inGroup g.id)
  | .error error => if error.isNotFound then .ok true else .error (.provider error)

/-- Asking whether an instance is missing is asking for a verdict on a look-up of it. -/
theorem run_isMissing (id : InstanceId) :
    (g.isMissing id).run =
      .ask (.getInstance id) fun reply => .done (g.removalVerdict reply) := by
  show Session.ask _ _ = Session.ask _ _
  congr 1
  funext reply
  cases reply with
  | ok i => rfl
  | error error =>
    simp only [removalVerdict]
    split <;> rfl

variable {g} {reply : Except ProviderError Instance}

theorem removalVerdict_eq_false_iff : g.removalVerdict reply = .ok false ↔ g.ShowsMember reply := by
  cases reply with
  | ok i => simp [removalVerdict, ShowsMember]
  | error error =>
    simp only [removalVerdict, ShowsMember, reduceCtorEq, false_and, exists_false, iff_false]
    split <;> simp

theorem removalVerdict_eq_true_iff : g.removalVerdict reply = .ok true ↔ g.ShowsMissing reply := by
  cases reply with
  | ok i => simp [removalVerdict, ShowsMissing]
  | error error => cases error <;> simp [removalVerdict, ShowsMissing, ProviderError.isNotFound]

theorem removalVerdict_eq_error_iff {e : NodeGroupError} :
    g.removalVerdict reply = .error e ↔
      ∃ error, reply = .error error ∧ error.isNotFound = false ∧ e = .provider error := by
  cases reply with
  | ok i => simp [removalVerdict]
  | error error =>
    cases hfound : error.isNotFound with
    | true => simp [removalVerdict, hfound]
    | false =>
      simp only [removalVerdict, hfound, Bool.false_eq_true, if_false, Except.error.injEq]
      constructor
      · rintro rfl
        exact ⟨error, rfl, hfound, rfl⟩
      · rintro ⟨_, rfl, -, rfl⟩
        rfl

/-! ### Waiting -/

/-- A wait that observes through one request is a watch, whose outcome names the group and what
was awaited. -/
theorem watch_of_waitFor {awaited : Awaited} {observe : Attempt Bool} {request : Request}
    {verdict : Reply request → Except NodeGroupError Bool}
    (hpace : 0 < (clock.lasting g.convergence.interval).nanos)
    (hobserve : observe.run = .ask request fun reply => .done (verdict reply))
    {outcome : Except NodeGroupError Unit}
    (h : (g.waitFor awaited observe).run.Transcript clock record outcome) :
    ∃ replies result, record = asked request replies ∧
      Watch request verdict (g.convergence.observations clock) (g.convergence.patience clock)
        replies result ∧
      outcome = result.mapError fun
        | .failed error => error
        | .timedOut waited => .convergenceTimeout g.id awaited waited := by
  change ((poll g.convergence observe.run).bind _).Transcript clock record outcome at h
  rw [transcript_bind, hobserve] at h
  obtain ⟨first, rest, result, rfl, hpoll, hrest⟩ := h
  obtain ⟨replies, rfl, hwatch⟩ := watch_of_poll hpace hpoll
  -- Nothing is asked behind the poll: its result is only put into the words of the group.
  refine ⟨replies, result, ?_, hwatch, ?_⟩
  · rcases result with (waited | error) | ⟨⟩ <;> obtain ⟨rfl, -⟩ := hrest <;>
      exact List.append_nil _
  · rcases result with (waited | error) | ⟨⟩ <;> exact hrest.2

end NodeGroup

end ElasticGroups.Scaling
