import ElasticGroups.Cloud.Store
import ElasticGroups.Proofs.Scaling.Growth
import ElasticGroups.Proofs.Session.Elapsed

/-!
# Runs of a node group

What the parts of a growth come to when they are run with a provider, in the state that the provider
is in after each of them and with the time that they take. Creations take no time, and the wait takes
one interval for each look-up.

* `NodeGroup.run_createInstances`: creations, up to the first failure;
* `NodeGroup.run_waitFor_of_holds`: a wait whose first observation holds;
* `NodeGroup.watch_of_run_waitFor`: a wait that observes through one request;
* `NodeGroup.run_increaseSize`: a growth that is admitted;
* `NodeGroup.now_of_creation_failed`: a growth in which a creation fails.

What holds of a growth with any provider is put together in `increaseSize_contract`.
-/

namespace ElasticGroups.Scaling

open Cloud Session

variable {σ : Type} {clock : Clock} {respond : Responder Reply σ} {world : World σ} {α : Type}

namespace Attempt

/-- A request that is answered is followed by what comes after it. -/
theorem run_call_bind {request : Request} {answer : request.Answer} {partner : σ}
    (h : respond request world.partner = (.ok answer, partner))
    (next : request.Answer → Attempt α) :
    (call request >>= next).run.run clock respond world =
      (next answer).run.run clock respond { world with partner } := by
  show (ask request _).run clock respond world = _
  rw [Session.run, h]
  rfl

/-- A request that fails ends what follows it. -/
theorem run_call_bind_error {request : Request} {error : ProviderError} {partner : σ}
    (h : respond request world.partner = (.error error, partner))
    (next : request.Answer → Attempt α) :
    (call request >>= next).run.run clock respond world =
      (.error (.provider error), { world with partner }) := by
  show (ask request _).run clock respond world = _
  rw [Session.run, h]
  rfl

end Attempt

namespace NodeGroup

variable (g : NodeGroup)

/-- A look at the size that is answered is followed by what comes after it. -/
theorem run_targetSize_bind {group : InstanceGroup} {partner : σ}
    (h : respond (.getGroup g.id) world.partner = (.ok group, partner)) (next : Nat → Attempt α) :
    (g.targetSize >>= next).run.run clock respond world =
      (next group.size).run.run clock respond { world with partner } := by
  show (ask (.getGroup g.id) _).run clock respond world = _
  rw [Session.run, h]
  rfl

/-- Creations run up to the first failure, and take no time. -/
theorem run_createInstances (clock : Clock) (respond : Responder Reply σ) (count : Nat)
    (world : World σ) :
    ∃ (ids : List InstanceId) (created : σ),
      (ids.length = count ∧
        respond.Gives world.partner (asked (.createInstance g.template) (ids.map .ok)) created ∧
        (g.createInstances count).run.run clock respond world =
          (.ok (), { world with partner := created })) ∨
      ∃ error, ids.length < count ∧
        respond.Gives world.partner
          (asked (.createInstance g.template) (ids.map .ok ++ [.error error])) created ∧
        (g.createInstances count).run.run clock respond world =
          (.error (.provider error), { world with partner := created }) := by
  -- The induction is on the creations that are left; the first of them may fail, or else the
  -- others follow it.
  induction count generalizing world with
  | zero => exact ⟨[], world.partner, .inl ⟨rfl, rfl, rfl⟩⟩
  | succ count ih =>
    cases hfirst : respond (.createInstance g.template) world.partner with
    | mk reply partner =>
    cases reply with
    | error error =>
      refine ⟨[], partner, .inr ⟨error, Nat.succ_pos _, .cons hfirst rfl, ?_⟩⟩
      exact Attempt.run_call_bind_error hfirst _
    | ok id =>
      have hrun := @Attempt.run_call_bind σ clock respond world Unit _ id partner hfirst
        fun _ => g.createInstances count
      obtain ⟨ids, created, ⟨hlength, hgives, hrest⟩ | ⟨error, hlength, hgives, hrest⟩⟩ :=
        ih { world with partner }
      · exact ⟨id :: ids, created,
          .inl ⟨congrArg (· + 1) hlength, .cons hfirst hgives, hrun.trans hrest⟩⟩
      · exact ⟨id :: ids, created,
          .inr ⟨error, Nat.succ_lt_succ hlength, .cons hfirst hgives, hrun.trans hrest⟩⟩

variable {g}

/-- A look-up of an instance that says whether it is missing is followed by what comes after it. -/
theorem run_isMissing_bind {id : InstanceId} {reply : Except ProviderError Instance} {missing : Bool}
    {partner : σ} (hreply : respond (.getInstance id) world.partner = (reply, partner))
    (hverdict : g.removalVerdict reply = .ok missing) (next : Bool → Attempt α) :
    (g.isMissing id >>= next).run.run clock respond world =
      (next missing).run.run clock respond { world with partner } := by
  rw [run_exceptT_bind, run_isMissing, Session.run, hreply]
  simp only [Session.run, hverdict]

/-- A wait whose first observation holds takes one interval. -/
theorem run_waitFor_of_holds {awaited : Awaited} {observe : Attempt Bool} {request : Request}
    {verdict : Reply request → Except NodeGroupError Bool} {reply : Reply request} {partner : σ}
    (hobserve : observe.run = .ask request fun reply => .done (verdict reply))
    (hreply : respond request world.partner = (reply, partner)) (hholds : verdict reply = .ok true) :
    (g.waitFor awaited observe).run.run clock respond world =
      (.ok (), ⟨partner, world.now + clock.lasting g.convergence.interval⟩) := by
  show ((poll g.convergence observe.run).bind _).run clock respond world = _
  rw [hobserve, poll, pollFrom]
  simp only [sleep_bind, ask_bind, done_bind, Session.run, hreply, hholds]

/-- A wait that observes through one request runs as a watch, whose outcome names the group and what
was awaited, and takes one interval for each observation. -/
theorem watch_of_run_waitFor {awaited : Awaited} {observe : Attempt Bool} {request : Request}
    {verdict : Reply request → Except NodeGroupError Bool}
    (hpace : 0 < (clock.lasting g.convergence.interval).nanos)
    (hobserve : observe.run = .ask request fun reply => .done (verdict reply))
    (respond : Responder Reply σ) (world : World σ) :
    let run := (g.waitFor awaited observe).run.run clock respond world
    ∃ replies result, respond.Gives world.partner (asked request replies) run.2.partner ∧
      Watch request verdict (g.convergence.observations clock) (g.convergence.patience clock)
        replies result ∧
      (run.1 = result.mapError fun
        | .failed error => error
        | .timedOut waited => .convergenceTimeout g.id awaited waited) ∧
      run.2.now = world.now + (clock.lasting g.convergence.interval).times replies.length := by
  intro run
  have hrun : run = ((Session.poll g.convergence observe.run).bind _).run clock respond world := rfl
  rw [run_bind, hobserve] at hrun
  obtain ⟨replies, hgives, hwatch, hnow⟩ :=
    @watch_of_run_poll _ _ _ _ clock g.convergence request verdict hpace respond world
  generalize (poll g.convergence _).run clock respond world = done at hrun hgives hwatch hnow
  obtain ⟨result, world'⟩ := done
  -- Nothing happens behind the poll: its result is only put into the words of the group.
  refine ⟨replies, result, ?_, hwatch, ?_, ?_⟩
  · rcases result with (waited | error) | ⟨⟩ <;> rw [hrun] <;> exact hgives
  · rcases result with (waited | error) | ⟨⟩ <;> rw [hrun] <;> rfl
  · rcases result with (waited | error) | ⟨⟩ <;> rw [hrun] <;> exact hnow

/-- A growth that is admitted, as it runs with any provider: creations up to the first failure, and
if there is none, a watch for the desired size. -/
theorem run_increaseSize (world : World σ)
    (hpace : 0 < (clock.lasting g.convergence.interval).nanos)
    {group : InstanceGroup} {partner : σ}
    (hsize : respond (.getGroup g.id) world.partner = (.ok group, partner)) {delta : Int}
    (hdelta : 0 < delta) (hmax : group.size + delta ≤ g.bounds.max) :
    let run := (g.increaseSize delta).run.run clock respond world
    ∃ (ids : List InstanceId) (created : σ),
      (ids.length = delta.toNat ∧
        respond.Gives partner (asked (.createInstance g.template) (ids.map .ok)) created ∧
        ∃ replies result, respond.Gives created (asked (.getGroup g.id) replies) run.2.partner ∧
          Watch (Request.getGroup g.id) (sizeVerdict (group.size + delta.toNat))
            (g.convergence.observations clock) (g.convergence.patience clock) replies result ∧
          (run.1 = result.mapError fun
            | .failed error => error
            | .timedOut waited =>
              .convergenceTimeout g.id (.size (group.size + delta.toNat)) waited) ∧
          run.2.now = world.now + (clock.lasting g.convergence.interval).times replies.length) ∨
      ∃ error, ids.length < delta.toNat ∧
        respond.Gives partner
          (asked (.createInstance g.template) (ids.map .ok ++ [.error error])) created ∧
        run = (.error (.provider error), { world with partner := created }) := by
  intro run
  have hrun : run = (g.createInstances delta.toNat >>= fun _ =>
      g.waitFor (.size (group.size + delta.toNat)) do
        let size ← g.targetSize
        return size ≥ group.size + delta.toNat).run.run clock respond { world with partner } := by
    simp only [run, increaseSize]
    rw [if_neg (by omega), run_targetSize_bind g hsize, if_neg (by omega)]
  rw [run_exceptT_bind] at hrun
  obtain ⟨ids, created, ⟨hlength, hgives, hcreate⟩ | ⟨error, hlength, hgives, hcreate⟩⟩ :=
    g.run_createInstances clock respond delta.toNat { world with partner }
  · rw [hcreate] at hrun
    refine ⟨ids, created, .inl ⟨hlength, hgives, ?_⟩⟩
    rw [hrun]
    exact watch_of_run_waitFor hpace (g.run_observeSize _) respond { world with partner := created }
  · rw [hcreate] at hrun
    exact ⟨ids, created, .inr ⟨error, hlength, hgives, hrun⟩⟩

/-- No time passes in a growth in which a creation fails. -/
theorem now_of_creation_failed (clock : Clock) (respond : Responder Reply σ) (state : σ)
    (now : Duration) {delta : Int} {template : LaunchTemplate} {error : ProviderError}
    (hpace : 0 < (clock.lasting g.convergence.interval).nanos) :
    let run := (g.increaseSize delta).run.run clock respond.recorded ⟨(state, []), now⟩
    ⟨.createInstance template, .error error⟩ ∈ run.2.partner.2 → run.2.now = now := by
  intro run hfailed
  obtain ⟨htranscript, hgives⟩ := transcript_recorded clock respond (g.increaseSize delta).run
    state now
  obtain ⟨hdelta, group, ids, hmax, hrecord, -⟩ :=
    (growth_of_increaseSize hpace htranscript).refused_of_mem hfailed
  rw [hrecord] at hgives
  have hsize : respond (.getGroup g.id) state = (.ok group, (respond (.getGroup g.id) state).2) :=
    Prod.ext hgives.1 rfl
  obtain ⟨ids, created, ⟨-, hcreate, replies, result, hreplies, -⟩ | ⟨error', -, -, hrun⟩⟩ :=
    run_increaseSize ⟨(state, []), now⟩ hpace (Responder.recorded_eq hsize []) hdelta hmax
  · -- Where all creations succeed, none that fails is in the record.
    have hkept := (Responder.gives_recorded hreplies).2
    rw [(Responder.gives_recorded hcreate).2] at hkept
    rw [hkept] at hfailed
    simp [asked] at hfailed
  · exact congrArg (·.2.now) hrun

end NodeGroup

/-! ### Runs with any provider -/

/-- Whatever a provider replies, on whatever clock, the requests of an increase of the size form a
growth, with at most as many look-ups behind the creations as the timeout holds intervals. The error
of a creation that fails is the outcome, and no time has passed by then. When the provider answers
the reading of the size and all creations, the increase succeeds exactly if the new size is seen in
the answers that the provider has within that limit. The sum of a size and an increase that both fit
a signed word is the same in words. -/
theorem increaseSize_contract {σ : Type} (clock : Clock) (respond : Responder Reply σ) (state : σ)
    (now : Duration) (g : NodeGroup) (delta : Int)
    (hinterval : 0 < (clock.lasting g.convergence.interval).nanos) :
    let run := (g.increaseSize delta).run.run clock respond.recorded ⟨(state, []), now⟩
    Growth g (g.convergence.observations clock) (g.convergence.patience clock) delta
        run.2.partner.2 run.1 ∧
      (∀ (template : LaunchTemplate) (error : ProviderError),
        ⟨.createInstance template, .error error⟩ ∈ run.2.partner.2 →
          run.1 = .error (.provider error) ∧ run.2.now = now) ∧
      (clock.lasting g.convergence.interval = g.convergence.interval →
        g.convergence.observations clock =
          max 1 (g.convergence.timeout.nanos ⌈/⌉ g.convergence.interval.nanos)) ∧
      (∀ (group : InstanceGroup) (ids : List InstanceId) (middle last : σ)
        (answers : List (Except ProviderError InstanceGroup)),
        0 < delta → group.size + delta ≤ g.bounds.max → ids.length = delta →
        respond.Gives state
          (⟨.getGroup g.id, .ok group⟩ :: asked (.createInstance g.template) (ids.map .ok))
          middle →
        respond.Gives middle (asked (.getGroup g.id) answers) last →
        answers.length = g.convergence.observations clock →
        (run.1 = .ok () ↔ Seen (group.size + delta.toNat) answers)) ∧
      (0 < delta → delta.toNat < Text.wordLimit / 2 →
        ∀ group : InstanceGroup, group.size < Text.wordLimit / 2 →
          (UInt64.ofNat group.size + UInt64.ofNat delta.toNat).toNat =
            group.size + delta.toNat) := by
  intro run
  obtain ⟨htranscript, hgives⟩ := transcript_recorded clock respond (g.increaseSize delta).run
    state now
  have hgrowth := growth_of_increaseSize hinterval htranscript
  refine ⟨hgrowth, fun template error hfailed => ?_, fun hlasting => ?_, ?_, ?_⟩
  · obtain ⟨-, group, ids, -, -, houtcome⟩ := hgrowth.refused_of_mem hfailed
    exact ⟨houtcome, NodeGroup.now_of_creation_failed clock respond state now hinterval hfailed⟩
  · rw [Convergence.observations, hlasting]
  · intro group ids middle last answers hdelta hmax hids hcreated hanswers hlimit
    exact hgrowth.ok_iff hgives hdelta hmax hids hcreated hanswers hlimit
  · intro _ hdelta group hgroup
    have hwords : Text.wordLimit / 2 = 9223372036854775808 := rfl
    rw [UInt64.toNat_add, UInt64.toNat_ofNat', UInt64.toNat_ofNat']
    omega

/-- A group of one in a store grows by two, which takes one look at its size and two creations, and
a second look to see them. Where the second creation fails, the growth ends with it at the time at
which it began, behind one look at the size and one creation that is answered. -/
theorem increaseSize_contract_store :
    let g : NodeGroup := ⟨"g", ⟨1, 3⟩, ⟨"n", "t", "i", none, "g", none, ""⟩, {}⟩
    let store : Store := .putGroup {} ⟨"g", "w.c", "1:3", [⟨"a", "active"⟩]⟩
    let run := (g.increaseSize 2).run.run .bounded Store.respond.recorded ⟨(store, []), .zero⟩
    let failing := store.planFailure .createInstance 2 (.rejected "full")
    let failed := (g.increaseSize 2).run.run .bounded Store.respond.recorded ⟨(failing, []), .zero⟩
    (0 < (Clock.bounded.lasting g.convergence.interval).nanos ∧ run.1 = .ok () ∧
      run.2.partner.2.length = 4 ∧
      Growth g (g.convergence.observations .bounded) (g.convergence.patience .bounded) 2
        run.2.partner.2 run.1) ∧
    failed.2.partner.2.length = 3 ∧ failed.1 = .error (.provider (.rejected "full")) ∧
      failed.2.now = .zero := by
  intro g store run failing failed
  have hinterval : 0 < (Clock.bounded.lasting g.convergence.interval).nanos := by decide
  have hgrowth := (increaseSize_contract .bounded Store.respond store .zero g 2 hinterval).1
  have hlast : failed.2.partner.2[2]? =
      some ⟨.createInstance g.template, .error (.rejected "full")⟩ := by rfl
  have hended := (increaseSize_contract .bounded Store.respond failing .zero g 2 hinterval).2.1
    g.template (.rejected "full") (List.mem_of_getElem? hlast)
  exact ⟨⟨hinterval, by decide +kernel, by decide +kernel, hgrowth⟩, by decide +kernel, hended⟩

end ElasticGroups.Scaling
