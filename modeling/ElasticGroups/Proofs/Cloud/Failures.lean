import ElasticGroups.Proofs.Cloud.Launching

/-!
# Planned failures along a run

Which of the requests to come a plan fails first. The plan looks at the kinds of the requests only, so
this can be told before any of them is sent.

The module introduces:

* `PlannedFailure.isDue operation` — the failure fires at a request of a kind, unless one in front of
  it does;
* `FailurePlan.firstHit plan operations` — the first of some requests that a plan fails, with its
  position and its error.

The failure that is taken out of a plan is the first one that is due (`FailurePlan.takeDue_eq`).
Requests that are answered were not hit, and leave the plan to those behind them
(`Store.firstHit_of_gives`). A creation for a group that is known fails only when it is hit
(`Store.meet_of_createInstance_error`), and a look-up of such a group is answered unless it is hit
(`Store.eq_ok_of_gives_getGroup`).
-/

namespace ElasticGroups.Cloud

/-- The failure is due at a request of a kind. -/
def PlannedFailure.isDue (operation : Operation) (failure : PlannedFailure) : Bool :=
  failure.operation = operation ∧ failure.remaining = 0

namespace FailurePlan

/-- What is taken out of a plan is the first failure that is due. -/
theorem takeDue_eq (operation : Operation) (plan : FailurePlan) :
    takeDue operation plan =
      ((plan.find? (·.isDue operation)).map (·.error), plan.eraseP (·.isDue operation)) := by
  induction plan with
  | nil => rfl
  | cons failure rest ih =>
    rw [takeDue]
    by_cases hdue : failure.operation = operation ∧ failure.remaining = 0
    · have hfires : failure.isDue operation = true := decide_eq_true hdue
      rw [if_pos hdue, List.find?_cons_of_pos hfires, List.eraseP_cons_of_pos hfires]
      rfl
    · have hwaits : ¬failure.isDue operation = true := fun h => hdue (of_decide_eq_true h)
      rw [if_neg hdue, ih, List.find?_cons_of_neg hwaits, List.eraseP_cons_of_neg hwaits]

/-- A plan that meets a request loses nothing, or it loses the failure that the request meets. -/
theorem meet_cases (operation : Operation) (plan : FailurePlan) :
    plan.meet operation = (none, plan.advance operation) ∨
      ∃ front due back, plan.advance operation = front ++ due :: back ∧
        plan.meet operation = (some due.error, front ++ back) := by
  rw [meet, takeDue_eq]
  cases hfound : (plan.advance operation).find? (·.isDue operation) with
  | none =>
    left
    rw [List.eraseP_of_forall_not (List.find?_eq_none.mp hfound)]
    rfl
  | some due =>
    obtain ⟨hdue, front, back, hplan, hfront⟩ := List.find?_eq_some_iff_append.mp hfound
    refine .inr ⟨front, due, back, hplan, ?_⟩
    -- Nothing in front of the failure is due, so it is the one that is taken out.
    have hwaits : ∀ failure ∈ front, ¬failure.isDue operation = true := fun failure hfailure =>
      by simpa using hfront failure hfailure
    rw [hplan, List.eraseP_append_right _ hwaits, List.eraseP_cons_of_pos hdue]
    rfl

/-- The first of some requests that a plan fails, told by their kinds: its position, and how it
fails. -/
def firstHit : FailurePlan → List Operation → Option (Nat × ProviderError)
  | _, [] => none
  | plan, operation :: rest =>
    match plan.meet operation with
    | (some error, _) => some (0, error)
    | (none, plan) => (plan.firstHit rest).map fun hit => (hit.1 + 1, hit.2)

variable {plan : FailurePlan} {operation : Operation} {rest : List Operation}

/-- A plan without failures hits nothing. -/
@[simp] theorem firstHit_nil (operations : List Operation) : firstHit [] operations = none := by
  induction operations with
  | nil => rfl
  | cons operation rest ih =>
    show (firstHit [] rest).map _ = none
    rw [ih, Option.map_none]

/-- A request that is hit at once is the first one. -/
theorem firstHit_cons_of_some {error : ProviderError} (h : (plan.meet operation).1 = some error) :
    plan.firstHit (operation :: rest) = some (0, error) := by
  rw [firstHit]
  generalize plan.meet operation = met at h
  obtain ⟨due, left⟩ := met
  obtain rfl : due = some error := h
  rfl

/-- Behind a request that is not hit, the plan goes on with what is left of it. -/
theorem firstHit_cons_of_none (h : (plan.meet operation).1 = none) :
    plan.firstHit (operation :: rest) =
      ((plan.meet operation).2.firstHit rest).map fun hit => (hit.1 + 1, hit.2) := by
  rw [firstHit]
  generalize plan.meet operation = met at h ⊢
  obtain ⟨due, left⟩ := met
  obtain rfl : due = none := h
  rfl

/-- A request that is not the first to be hit is not hit. -/
theorem meet_eq_none_of_firstHit (h : ∀ error, plan.firstHit (operation :: rest) ≠ some (0, error)) :
    (plan.meet operation).1 = none :=
  Option.eq_none_iff_forall_ne_some.mpr fun error hdue => h error (firstHit_cons_of_some hdue)

end FailurePlan

namespace Store

variable {store after : Store} {request : Request} {record : List (Sigma Reply)}

/-- A request leaves the plan as it has met it. -/
theorem failures_respond (store : Store) (request : Request) :
    (respond request store).2.failures = (store.failures.meet request.operation).2 := by
  rcases respond_eq store request with ⟨error, hfailed⟩ | hserved
  · rw [hfailed]
    rfl
  · obtain ⟨_, _, _, hserve⟩ := exists_serve_eq (store.receive request.operation).2 request
    rw [hserved, hserve]
    rfl

/-- A request that is hit fails as planned, and nothing is served. -/
theorem respond_eq_of_hit {error : ProviderError}
    (h : (store.failures.meet request.operation).1 = some error) :
    respond request store = (.error error, (store.receive request.operation).2) := by
  have hdue : (store.receive request.operation).1 = some error := h
  rw [respond]
  generalize store.receive request.operation = received at hdue
  obtain ⟨due, left⟩ := received
  obtain rfl : due = some error := hdue
  rfl

/-- A request that is hit fails as planned. -/
theorem respond_of_hit {error : ProviderError}
    (h : (store.failures.meet request.operation).1 = some error) :
    (respond request store).1 = .error error := by
  rw [respond_eq_of_hit h]

/-- A request that is not hit is served. -/
theorem respond_of_not_hit (h : (store.failures.meet request.operation).1 = none) :
    respond request store = (store.receive request.operation).2.serve request := by
  have hdue : (store.receive request.operation).1 = none := h
  rw [respond]
  generalize store.receive request.operation = received at hdue ⊢
  obtain ⟨due, left⟩ := received
  obtain rfl : due = none := hdue
  rfl

/-- A request that is answered was not hit. -/
theorem meet_eq_none_of_ok {answer : request.Answer} (h : (respond request store).1 = .ok answer) :
    (store.failures.meet request.operation).1 = none := by
  refine Option.eq_none_iff_forall_ne_some.mpr fun error hdue => ?_
  rw [respond_of_hit hdue] at h
  cases h

/-- Requests that are all answered leave the first hit to those behind them. -/
theorem firstHit_of_gives (hgives : Responder.Gives respond store record after)
    (hanswered : ∀ exchange ∈ record, ∃ answer, exchange.2 = .ok answer) (rest : List Operation) :
    store.failures.firstHit ((record.map (·.1)).map Request.operation ++ rest) =
      (after.failures.firstHit rest).map fun hit => (hit.1 + record.length, hit.2) := by
  induction record generalizing store with
  | nil =>
    obtain rfl := hgives
    simp
  | cons exchange later ih =>
    obtain ⟨request, reply⟩ := exchange
    obtain ⟨hreply, hlater⟩ := hgives
    rw [List.forall_mem_cons] at hanswered
    obtain ⟨⟨answer, hanswer⟩, hanswered⟩ := hanswered
    -- What is answered was not hit, and the others come one place later.
    have hnone := meet_eq_none_of_ok (hreply.trans hanswer)
    rw [List.map_cons, List.map_cons, List.cons_append, FailurePlan.firstHit_cons_of_none hnone,
      ← failures_respond store request, ih hlater hanswered, Option.map_map]
    rfl

/-! ### Requests about a known group -/

section Known

variable {id : GroupId} {group : InstanceGroup} {template : LaunchTemplate}

/-- No requests make a group known or unknown. -/
theorem isSome_group?_of_gives (hgives : Responder.Gives respond store record after) (id : GroupId) :
    (after.group? id).isSome = (store.group? id).isSome := by
  induction record generalizing store with
  | nil =>
    obtain rfl := hgives
    rfl
  | cons exchange later ih => rw [ih hgives.2, isSome_group?_respond]

/-- A creation for a known group fails only when it is hit. -/
theorem meet_of_createInstance_error {error : ProviderError}
    (hknown : (store.group? template.groupId).isSome = true)
    (h : (respond (.createInstance template) store).1 = .error error) :
    (store.failures.meet .createInstance).1 = some error := by
  cases hdue : (store.failures.meet .createInstance).1 with
  | none =>
    -- The request would be served, and the group is there.
    rw [@respond_of_not_hit store (.createInstance template) hdue, serve, create, if_neg] at h
    · cases h
    · rw [Option.isNone_iff_eq_none, ← Option.not_isSome_iff_eq_none, not_not]
      exact hknown
  | some due =>
    rw [@respond_of_hit store (.createInstance template) _ hdue] at h
    exact congrArg some (Except.error.inj h)

/-- A look-up of a known group that is not hit is answered, and changes nothing but the counters. -/
theorem respond_getGroup_of_not_hit (h : (store.failures.meet .getGroup).1 = none)
    (hgroup : store.group? id = some group) :
    respond (.getGroup id) store = (.ok group, (store.receive .getGroup).2) := by
  have hreceived : (store.receive .getGroup).2.group? id = some group := hgroup
  rw [@respond_of_not_hit store (.getGroup id) h, Request.operation, serve, hreceived]

/-- Look-ups of a known group are answered as long as they are not hit. -/
theorem eq_ok_of_gives_getGroup {replies : List (Reply (.getGroup id))} {count : Nat}
    (hgives : Responder.Gives respond store (asked (.getGroup id) replies) after)
    (hgroup : store.group? id = some group)
    (hquiet : store.failures.firstHit (List.replicate count .getGroup) = none) :
    ∀ k (hk : k < replies.length), k < count → replies[k] = .ok group := by
  induction replies generalizing store count with
  | nil => exact fun k hk => absurd hk (Nat.not_lt_zero k)
  | cons reply replies ih =>
    obtain ⟨hreply, hrest⟩ := hgives
    intro k hk hcount
    obtain ⟨count, rfl⟩ := Nat.exists_eq_succ_of_ne_zero (Nat.ne_zero_of_lt hcount)
    have hnone : (store.failures.meet .getGroup).1 = none :=
      FailurePlan.meet_eq_none_of_firstHit fun error hhit => by
        rw [← List.replicate_succ, hquiet] at hhit
        cases hhit
    cases k with
    | zero =>
      rw [respond_getGroup_of_not_hit hnone hgroup] at hreply
      exact hreply.symm
    | succ k =>
      -- The look-up keeps the group, and leaves the plan to those behind it.
      have hkept := (effect_respond store (.getGroup id)).kept_of_reads trivial
      refine ih hrest ?_ ?_ k (Nat.lt_of_succ_lt_succ hk) (Nat.lt_of_succ_lt_succ hcount)
      · rw [group?, hkept.groups]
        exact hgroup
      · rw [List.replicate_succ, FailurePlan.firstHit_cons_of_none hnone, Option.map_eq_none_iff]
          at hquiet
        rw [failures_respond]
        exact hquiet

end Known

end Store

end ElasticGroups.Cloud
