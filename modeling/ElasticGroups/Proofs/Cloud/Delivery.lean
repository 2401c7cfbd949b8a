import ElasticGroups.Proofs.Cloud.Failures
import ElasticGroups.Proofs.Cloud.History

/-!
# Delivery of planned failures

A store counts its failures down; along a history it fires those that the history tells to fire.

The module introduces:

* `History.storeAt store n` — the store when a place of the history is reached;
* `History.standing n i` — what the failure planned at the place `i` has become by the place `n`;
* `History.Met store n request` — what becomes of a request, and of the failures that are still to
  come;
* `History.Delivered` — what becomes of every failure.

The plan of a store that began with none is what the failures still to come have become
(`History.failures_storeAt`), so a request meets the failure that fires at its place
(`History.meet_storeAt`). All failures are delivered (`failures_delivered`).
-/

namespace ElasticGroups.Cloud

/-! ### Plans made from places -/

/-- From a plan that is made from places, the failure of the first place whose failure is due is
taken out. -/
theorem FailurePlan.takeDue_filterMap {operation : Operation} {entry : Nat → Option PlannedFailure}
    {due : Nat → Bool} {l : List Nat} (hl : l.Nodup)
    (hdue : ∀ i ∈ l, (entry i).any (·.isDue operation) = due i) :
    takeDue operation (l.filterMap entry) =
      ((l.find? due).bind fun i => (entry i).map (·.error),
        (l.filter fun i => l.find? due ≠ some i).filterMap entry) := by
  induction l with
  | nil => rfl
  | cons first rest ih =>
    rw [List.nodup_cons] at hl
    rw [List.forall_mem_cons] at hdue
    have hrest := ih hl.2 hdue.2
    -- The first place is there once, so it is not found among the others.
    have hother : rest.find? due ≠ some first := fun h => hl.1 (List.mem_of_find?_eq_some h)
    cases hentry : entry first with
    | none =>
      rw [hentry] at hdue
      rw [List.filterMap_cons_none hentry, hrest, List.find?_cons_of_neg (by simp [← hdue.1]),
        List.filter_cons, if_pos (decide_eq_true hother), List.filterMap_cons_none hentry]
    | some failure =>
      rw [hentry, Option.any_some] at hdue
      rw [List.filterMap_cons_some hentry, takeDue]
      by_cases hfires : failure.operation = operation ∧ failure.remaining = 0
      · have hkept : (rest.filter fun i => some first ≠ some i) = rest := by
          refine List.filter_eq_self.mpr fun i hi => decide_eq_true fun heq => hl.1 ?_
          rwa [Option.some.inj heq]
        have hfirst : due first = true := hdue.1.symm.trans (decide_eq_true hfires)
        rw [if_pos hfires, List.find?_cons_of_pos hfirst, List.filter_cons, if_neg (by simp), hkept,
          Option.bind_some, hentry]
        rfl
      · have hfirst : ¬due first = true := by
          rw [← hdue.1]
          exact fun h => hfires (of_decide_eq_true h)
        rw [if_neg hfires, hrest, List.find?_cons_of_neg hfirst, List.filter_cons,
          if_pos (decide_eq_true hother), List.filterMap_cons_some hentry]

namespace History

section Definitions

variable (history : History)

/-- The store when a place of the history is reached. -/
def storeAt (store : Store) : Nat → Store
  | 0 => store
  | n + 1 => (storeAt store n).apply (history n)

/-- What the failure planned at the place `i` has become by the place `n`: it has been brought
closer by every request of its kind since. -/
def standing (n i : Nat) : Option PlannedFailure :=
  (history i).failure?.map fun failure =>
    { failure with remaining := failure.remaining - history.requests failure.operation (i + 1) n }

end Definitions

variable {history : History} {operation : Operation} {store : Store} {request : Request} {n i : Nat}

/-! ### One change -/

/-- What is no request adds the failure that it plans to the plan. -/
theorem failures_apply {change : Store.Change} (h : change.operation? = none) :
    (store.apply change).failures = store.failures ++ change.failure?.toList := by
  cases change with
  | request sent => cases h
  | planFailure operation nth error => rfl
  | putInstance i =>
    show (store.putInstance i).failures = store.failures ++ []
    rw [List.append_nil, Store.putInstance]
    split <;> rfl
  | _ => exact (List.append_nil _).symm

/-- What is no request brings no failure closer. -/
theorem standing_succ_of_not_request (h : (history n).operation? = none) (i : Nat) :
    history.standing (n + 1) i = history.standing n i := by
  refine Option.map_congr fun failure _ => ?_
  rw [requests_succ_of_not_calls]
  intro hcalls
  rw [Calls, h] at hcalls
  cases hcalls

/-- A failure stands as it was planned until the next change. -/
theorem standing_self (history : History) (n : Nat) :
    history.standing (n + 1) n = (history n).failure? := by
  rw [standing]
  simp only [requests_eq_zero (Nat.le_refl (n + 1)), Nat.sub_zero]
  exact Option.map_id'

/-- A request brings the failures of its kind closer by one. -/
theorem advance_standing (hcalls : history.Calls operation n) {l : List Nat}
    (hl : ∀ i ∈ l, i < n) :
    FailurePlan.advance operation (l.filterMap (history.standing n)) =
      l.filterMap (history.standing (n + 1)) := by
  rw [FailurePlan.advance, List.map_filterMap]
  refine List.filterMap_congr fun i hi => ?_
  rw [standing, standing, Option.map_map]
  refine Option.map_congr fun failure _ => ?_
  rw [Function.comp_apply]
  split
  case isTrue hkind =>
    obtain rfl : failure.operation = operation := hkind
    rw [requests_succ_of_calls (Nat.add_one_le_of_lt (hl i hi)) hcalls]
    rfl
  case isFalse hkind =>
    have hother : ¬history.Calls failure.operation n := fun h =>
      hkind (Option.some.inj (h.symm.trans hcalls))
    rw [requests_succ_of_not_calls hother]

/-- A failure is due at a request when it stands at zero with the request counted. -/
theorem any_isDue_standing (hcalls : history.Calls operation n) (hi : i < n) :
    (history.standing (n + 1) i).any (·.isDue operation) = decide (history.Due operation n i) := by
  rw [Bool.eq_iff_iff, decide_eq_true_iff, Option.any_eq_true, Due]
  simp only [standing, Option.map_eq_some_iff]
  constructor
  · rintro ⟨_, ⟨failure, hfailure, rfl⟩, hdue⟩
    obtain ⟨rfl, hzero⟩ := of_decide_eq_true hdue
    rw [requests_succ_of_calls (Nat.add_one_le_of_lt hi) hcalls] at hzero
    exact ⟨failure, hfailure, rfl, Nat.le_of_sub_eq_zero hzero⟩
  · rintro ⟨failure, hfailure, rfl, hwaited⟩
    refine ⟨_, ⟨failure, hfailure, rfl⟩, decide_eq_true ⟨rfl, ?_⟩⟩
    rw [requests_succ_of_calls (Nat.add_one_le_of_lt hi) hcalls]
    exact Nat.sub_eq_zero_of_le hwaited

/-- Behind a request, the failures are still to come that were so before and have not fired. -/
theorem pending_succ_of_calls (hcalls : history.Calls operation n) :
    history.pending (n + 1) = (history.pending n).filter fun i => history.fired n ≠ some i := by
  rw [pending, if_neg, List.append_nil]
  · rfl
  · intro hplanned
    rw [Calls, Store.Change.operation?_eq_none hplanned] at hcalls
    cases hcalls

/-- Behind what is no request, the failures are still to come that were so before, and the one that
is planned. -/
theorem pending_succ_of_not_request (h : (history n).operation? = none) :
    history.pending (n + 1) =
      history.pending n ++ if (history n).failure?.isSome then [n] else [] := by
  rw [pending, firstDue, h]
  simp

/-! ### The plan along a history -/

/-- A request meets the failure that fires at its place, if the plan is what the failures still to
come have become. -/
theorem meet_of_failures_eq {plan : FailurePlan}
    (h : plan = (history.pending n).filterMap (history.standing n))
    (hcalls : history.Calls operation n) :
    plan.meet operation =
      ((history.fired n).bind fun i => (history i).failure?.map (·.error),
        (history.pending (n + 1)).filterMap (history.standing (n + 1))) := by
  have hlt : ∀ i ∈ history.pending n, i < n := fun i => lt_of_mem_pending
  -- The request is counted first, and only then is a failure looked for that is due.
  have herror : ∀ i, (history.standing (n + 1) i).map (·.error) =
      (history i).failure?.map (·.error) := fun i => Option.map_map _ _ _
  rw [h, FailurePlan.meet, advance_standing hcalls hlt,
    FailurePlan.takeDue_filterMap (sortedLT_pending history n).nodup
      fun i hi => any_isDue_standing hcalls (hlt i hi), ← fired_eq_find? hcalls,
    pending_succ_of_calls hcalls]
  simp only [herror]

/-- The plan of a store that began with none is what the failures still to come have become. -/
theorem failures_storeAt (hnone : store.failures = []) (n : Nat) :
    (history.storeAt store n).failures = (history.pending n).filterMap (history.standing n) := by
  induction n with
  | zero => exact hnone
  | succ n ih =>
    rw [storeAt]
    cases hchange : (history n).operation? with
    | none =>
      rw [failures_apply hchange, ih, pending_succ_of_not_request hchange, List.filterMap_append]
      -- No failure is brought closer, and what is planned stands as it was planned.
      congr 1
      · exact List.filterMap_congr fun i _ => (standing_succ_of_not_request hchange i).symm
      · cases hfailure : (history n).failure? with
        | none => rfl
        | some failure =>
          have hstanding := (standing_self history n).trans hfailure
          rw [if_pos Option.isSome_some, List.filterMap_cons_some hstanding]
          rfl
    | some operation =>
      obtain ⟨sent, hsent, rfl⟩ := Store.Change.exists_of_operation? hchange
      rw [hsent, Store.apply, Store.failures_respond, meet_of_failures_eq ih hchange]

/-! ### Delivery -/

/-- What becomes of a request of a history, which is the place `n` of it, and of the failures that
are still to come. -/
structure Met (history : History) (store : Store) (n : Nat) (request : Request) : Prop where
  /-- A failure fires just when one that is still to come is due. -/
  hit_iff : (history.fired n).isSome = true ↔
    ∃ i ∈ history.pending n, history.Due request.operation n i
  /-- The failure that fires is the one that was planned first of those that are due. -/
  first : ∀ i, history.fired n = some i →
    (i ∈ history.pending n ∧ history.Due request.operation n i) ∧
      ∀ j ∈ history.pending n, history.Due request.operation n j → i ≤ j
  /-- Then the request fails as was planned, and nothing is served. -/
  fails : ∀ i, history.fired n = some i → ∃ failure ∈ (history i).failure?,
    Store.respond request (history.storeAt store n) =
      (.error failure.error, ((history.storeAt store n).receive request.operation).2)
  /-- If no failure fires, the request is served. -/
  served : history.fired n = none → Store.respond request (history.storeAt store n) =
    ((history.storeAt store n).receive request.operation).2.serve request
  /-- The failure that fires is no longer to come, and all others are. -/
  leaves : ∀ i, i ∈ history.pending (n + 1) ↔ i ∈ history.pending n ∧ history.fired n ≠ some i

/-- What becomes of the failures that are planned along a history. -/
structure Delivered (history : History) : Prop where
  /-- No failure is lost: it is still to come until it fires. -/
  pending_iff : ∀ n i, i ∈ history.pending n ↔
    i < n ∧ (history i).failure?.isSome = true ∧ ∀ m < n, history.fired m ≠ some i
  /-- No failure fires twice. -/
  once : ∀ i m n, history.fired m = some i → history.fired n = some i → m = n
  /-- A failure fires at a request of its kind, and not before there have been as many of them as it
  had to wait for. -/
  own : ∀ n i, history.fired n = some i → ∃ failure ∈ (history i).failure?,
    i < n ∧ history.Calls failure.operation n ∧
      failure.remaining ≤ history.requests failure.operation (i + 1) (n + 1)
  /-- As long as no request of a kind is aimed at twice, each failure of this kind fires at the
  request at which it aims. -/
  apart : ∀ operation limit,
    (∀ t < limit, ∀ i j, history.Aims operation i t → history.Aims operation j t → i = j) →
      ∀ n < limit, history.Calls operation n → ∀ i,
        history.fired n = some i ↔ history.Aims operation i n
  /-- Due at a request are the failures that have aimed at it or at one before it, and that have not
  fired. -/
  due_iff : ∀ operation n, history.Calls operation n → ∀ i, i ∈ history.due operation n ↔
    (∃ t ≤ n, history.Aims operation i t) ∧ ∀ m < n, history.fired m ≠ some i
  /-- A failure that is due fires before there have been more requests of its kind than failures of
  this kind still to come that were planned before it. -/
  prompt : ∀ operation n m, ∀ i ∈ history.due operation n,
    (history.ahead operation n i).length < history.requests operation n m →
      ∃ t, n ≤ t ∧ t < m ∧ history.fired t = some i
  /-- Failures that are due at one request fire at this one and at those behind it, one after the
  other in the order in which they were planned, and then none does, as long as no other request is
  aimed at. -/
  inOrder : ∀ operation n m, n ≤ m → history.Calls operation m →
    (∀ t, n < t → t ≤ m → ∀ i, ¬history.Aims operation i t) →
      history.fired m = (history.due operation n)[history.requests operation n m]?

/-- Every request of a history is met as it should be. -/
theorem met (hnone : store.failures = []) (hchange : history n = .request request) :
    history.Met store n request := by
  have hcalls : history.Calls request.operation n := congrArg Store.Change.operation? hchange
  have hmeet := meet_of_failures_eq (failures_storeAt hnone n) hcalls
  constructor
  case hit_iff => simp [fired_eq_find? hcalls]
  case first =>
    intro i hfired
    obtain ⟨hdue, hleast⟩ := (fired_eq_some_iff hcalls).mp hfired
    exact ⟨mem_due.mp hdue, fun j hj hdue' => hleast j (mem_due.mpr ⟨hj, hdue'⟩)⟩
  case fails =>
    intro i hfired
    obtain ⟨_, -, -, failure, hfailure, -⟩ := exists_of_fired hfired
    refine ⟨failure, hfailure, Store.respond_eq_of_hit ?_⟩
    rw [hmeet, hfired, Option.bind_some, Option.mem_def.mp hfailure]
    rfl
  case served =>
    intro hfired
    refine Store.respond_of_not_hit ?_
    rw [hmeet, hfired]
    rfl
  case leaves =>
    intro i
    rw [pending_succ_of_calls hcalls, List.mem_filter, decide_eq_true_iff]

/-- All failures that are planned along a history are delivered. -/
theorem delivered (history : History) : history.Delivered where
  pending_iff := fun _ _ => mem_pending_iff
  once := fun _ _ _ => fired_unique
  own := fun n i hfired => by
    obtain ⟨_, hcalls, hpending, failure, hfailure, rfl, hwaited⟩ := exists_of_fired hfired
    have hi := lt_of_mem_pending hpending
    rw [← requests_succ_of_calls (Nat.add_one_le_of_lt hi) hcalls] at hwaited
    exact ⟨failure, hfailure, hi, hcalls, hwaited⟩
  apart := fun _ _ hapart _ hn hcalls i => fired_iff_aims hapart hn hcalls i
  due_iff := fun _ _ hcalls _ => mem_due_iff hcalls
  prompt := fun _ _ _ _ hdue hmany => exists_fired hdue hmany
  inOrder := fun _ _ _ hmn hcalls hnone => fired_eq_getElem? hmn hcalls hnone

end History

/-- Planned failures are neither lost nor duplicated, whatever happens to a store that began with
none. At all times the plan of the store is what the failures still to come have become. A request
fails as planned just when one of these is due: then the one planned first fires, and it alone is
taken out of the plan. So every failure fires once at most, at a request of its kind and not too
early; it fires at the request at which it aims where no two failures aim at one; and failures that
are due together fire one after the other. -/
theorem failures_delivered (history : History) {store : Store} (hnone : store.failures = []) :
    (∀ n, (history.storeAt store n).failures =
        (history.pending n).filterMap (history.standing n)) ∧
      (∀ n request, history n = .request request → history.Met store n request) ∧
        history.Delivered :=
  ⟨History.failures_storeAt hnone, fun _ _ hchange => History.met hnone hchange, history.delivered⟩

/-- Two failures are planned for the next look-up of a group, one of them by the number zero, which
counts as one. They meet the first two look-ups, in their order, and the third one is served. -/
theorem failures_delivered_twice :
    let history : History := fun n =>
      if n = 0 then .planFailure .getGroup 0 (.transport "lost")
      else if n = 1 then .planFailure .getGroup 1 (.rejected "full")
      else .request (.getGroup "g")
    ({} : Store).failures = [] ∧
      (Store.respond (.getGroup "g") (history.storeAt {} 2)).1 = .error (.transport "lost") ∧
      (Store.respond (.getGroup "g") (history.storeAt {} 3)).1 = .error (.rejected "full") ∧
      (Store.respond (.getGroup "g") (history.storeAt {} 4)).1 =
        .error (.notFound .group "g") := by
  intro history
  have hmet := (@failures_delivered history {} rfl).2.1
  obtain ⟨lost, hlost, hfirst⟩ := (hmet 2 _ rfl).fails 0 (by decide)
  obtain ⟨full, hfull, hsecond⟩ := (hmet 3 _ rfl).fails 1 (by decide)
  have hthird := (hmet 4 _ rfl).served (by decide)
  cases hlost
  cases hfull
  refine ⟨rfl, ?_, ?_, ?_⟩
  · rw [hfirst]
  · rw [hsecond]
  · rw [hthird]
    decide

end ElasticGroups.Cloud
