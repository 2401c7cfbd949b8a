import ElasticGroups.Proofs.Cloud.Groups
import Mathlib.Data.List.Sort
import Mathlib.Data.Nat.Count

/-!
# Planned failures along a history

Which failure meets which request, told by the order of what happens alone. A failure is named by
its place in the history, so that no two of them are the same, and nothing is counted down: a
failure that waits for some number of requests has come to its turn when there have been as many.

The module introduces:

* `History` — everything that happens to a store, one change after the other. A history that ends is
  the start of such a one;
* `History.requests operation m n` — how many requests of a kind the history has from the place `m`
  on and before the place `n`;
* `History.Due operation n i` — the failure planned at the place `i` is due at the place `n`;
* `History.pending n`, `History.fired n`, `History.due operation n` — the failures that are still to
  come at a place, the one that fires there, and those that are due there;
* `History.ahead operation n i` — those of the failures still to come that were planned before the
  place `i`;
* `History.Aims operation i n` — the failure planned at the place `i` aims at the request at the
  place `n`.

The failures that are still to come are those that were planned and have not fired
(`History.mem_pending_iff`), and due are those of them that have aimed at a request
(`History.mem_due_iff`). So a failure fires once at most (`History.fired_unique`). It fires at the
very request at which it aims if no request is aimed at twice (`History.fired_iff_aims`), it waits
for no more requests than there are failures ahead of it (`History.exists_fired`), and failures that
are due together fire one after the other (`History.fired_eq_getElem?`).
-/

namespace ElasticGroups.Cloud

namespace Store.Change

/-- The kind of the request that is received, if one is. -/
def operation? : Change → Option Operation
  | .request sent => some sent.operation
  | _ => none

/-- The failure that is planned, if one is, as it is put into the plan. -/
def failure? : Change → Option PlannedFailure
  | .planFailure operation nth error => some ⟨operation, max nth 1, error⟩
  | _ => none

variable {change : Change} {failure : PlannedFailure}

/-- A failure waits for one request at least. -/
theorem remaining_pos (h : failure ∈ change.failure?) : 0 < failure.remaining := by
  cases change with
  | planFailure operation nth error =>
    obtain rfl := Option.some.inj h
    exact Nat.lt_of_lt_of_le Nat.zero_lt_one (Nat.le_max_right nth 1)
  | _ => cases h

/-- What has the kind of a request is one. -/
theorem exists_of_operation? {operation : Operation} (h : change.operation? = some operation) :
    ∃ sent, change = .request sent ∧ sent.operation = operation := by
  cases change with
  | request sent => exact ⟨sent, rfl, Option.some.inj h⟩
  | _ => cases h

/-- What is planned is no request. -/
theorem operation?_eq_none (h : change.failure?.isSome = true) : change.operation? = none := by
  cases change with
  | request => cases h
  | _ => rfl

end Store.Change

/-- Everything that happens to a store, one change after the other. -/
abbrev History := Nat → Store.Change

namespace History

section Definitions

variable (history : History)

/-- A request of a kind is received at a place. -/
def Calls (operation : Operation) (n : Nat) : Prop := (history n).operation? = some operation

instance (operation : Operation) : DecidablePred (history.Calls operation) := fun _ =>
  inferInstanceAs (Decidable (_ = _))

/-- The number of requests of a kind from the place `m` on and before the place `n`. -/
def requests (operation : Operation) (m n : Nat) : Nat :=
  Nat.count (fun t => m ≤ t ∧ history.Calls operation t) n

/-- The failure planned at the place `i` is due at a request of a kind at the place `n`: with this
request it has waited for as many as it had to. -/
def Due (operation : Operation) (n i : Nat) : Prop :=
  ∃ failure ∈ (history i).failure?, failure.operation = operation ∧
    failure.remaining ≤ history.requests operation (i + 1) n + 1

instance (operation : Operation) (n : Nat) : DecidablePred (history.Due operation n) := fun _ =>
  inferInstanceAs (Decidable (∃ _ ∈ _, _ ∧ _))

/-- The first of some failures that is due at a place. -/
def firstDue (waiting : List Nat) (n : Nat) : Option Nat :=
  (history n).operation?.bind fun operation => waiting.find? fun i => history.Due operation n i

/-- The failures that are still to come when a place is reached, in the order in which they were
planned: the one that fires leaves, and the one that is planned comes in. -/
def pending : Nat → List Nat
  | 0 => []
  | n + 1 =>
    ((pending n).filter fun i => history.firstDue (pending n) n ≠ some i) ++
      if (history n).failure?.isSome then [n] else []

/-- The failure that fires at a place. -/
def fired (n : Nat) : Option Nat := history.firstDue (history.pending n) n

/-- The failures that are still to come and due at a request of a kind at a place. -/
def due (operation : Operation) (n : Nat) : List Nat :=
  (history.pending n).filter fun i => history.Due operation n i

/-- A failure of requests of a kind is planned at a place. -/
def Plans (operation : Operation) (n : Nat) : Prop :=
  ∃ failure ∈ (history n).failure?, failure.operation = operation

instance (operation : Operation) : DecidablePred (history.Plans operation) := fun _ =>
  inferInstanceAs (Decidable (∃ _ ∈ _, _))

/-- The failures of requests of a kind that are still to come at the place `n` and that were planned
before the place `i`. -/
def ahead (operation : Operation) (n i : Nat) : List Nat :=
  (history.pending n).filter fun j => j < i ∧ history.Plans operation j

/-- The failure planned at the place `i` aims at the request of a kind at the place `n`: among the
requests of this kind behind `i`, this one is the one it waits for. -/
def Aims (operation : Operation) (i n : Nat) : Prop :=
  i < n ∧ history.Calls operation n ∧ ∃ failure ∈ (history i).failure?,
    failure.operation = operation ∧ history.requests operation (i + 1) n + 1 = failure.remaining

end Definitions

variable {history : History} {operation : Operation} {m n i j : Nat}

/-! ### Counting requests -/

theorem requests_succ_of_calls (hm : m ≤ n) (h : history.Calls operation n) :
    history.requests operation m (n + 1) = history.requests operation m n + 1 := by
  rw [requests, Nat.count_succ, if_pos ⟨hm, h⟩]
  rfl

theorem requests_succ_of_not_calls (h : ¬history.Calls operation n) :
    history.requests operation m (n + 1) = history.requests operation m n := by
  rw [requests, Nat.count_succ, if_neg fun hcall => h hcall.2]
  rfl

theorem requests_eq_zero (h : n ≤ m) : history.requests operation m n = 0 :=
  Nat.count_of_forall_not fun _ hlt hcall => absurd hcall.1 (Nat.not_le_of_lt (hlt.trans_le h))

theorem requests_mono {n' : Nat} (h : n ≤ n') :
    history.requests operation m n ≤ history.requests operation m n' :=
  Nat.count_monotone _ h

/-- A failure that is due stays due. -/
theorem Due.mono (h : history.Due operation m i) (hmn : m ≤ n) : history.Due operation n i := by
  obtain ⟨failure, hfailure, hkind, hwaited⟩ := h
  exact ⟨failure, hfailure, hkind, hwaited.trans (Nat.succ_le_succ (requests_mono hmn))⟩

/-! ### What is still to come -/

/-- Still to come are the failures that were so before and have not fired, and the one that is
planned. -/
theorem mem_pending_succ :
    i ∈ history.pending (n + 1) ↔
      i ∈ history.pending n ∧ history.fired n ≠ some i ∨
        i = n ∧ (history n).failure?.isSome = true := by
  rw [pending, List.mem_append, List.mem_filter, decide_eq_true_iff, fired]
  refine or_congr_right ?_
  split
  case isTrue hplanned => simp [hplanned]
  case isFalse hnone => simp [hnone]

theorem lt_of_mem_pending (h : i ∈ history.pending n) : i < n := by
  induction n with
  | zero => cases h
  | succ n ih =>
    obtain ⟨hold, -⟩ | ⟨rfl, -⟩ := mem_pending_succ.mp h
    · exact Nat.lt_succ_of_lt (ih hold)
    · exact Nat.lt_succ_self i

/-- The failures stand in the order in which they were planned. -/
theorem sortedLT_pending (history : History) (n : Nat) : (history.pending n).SortedLT := by
  rw [List.sortedLT_iff_pairwise]
  induction n with
  | zero => exact .nil
  | succ n ih =>
    rw [pending]
    split
    case isTrue =>
      rw [List.pairwise_append]
      refine ⟨ih.filter _, List.pairwise_singleton _ _, fun i hi j hj => ?_⟩
      rw [List.mem_singleton.mp hj]
      exact lt_of_mem_pending (List.mem_of_mem_filter hi)
    case isFalse =>
      rw [List.append_nil]
      exact ih.filter _

/-! ### What fires -/

/-- What fires at a request is still to come and due there. -/
theorem exists_of_fired (h : history.fired n = some i) :
    ∃ operation, history.Calls operation n ∧ i ∈ history.pending n ∧ history.Due operation n i := by
  obtain ⟨operation, hcalls, hfound⟩ := Option.bind_eq_some_iff.mp h
  have hdue := List.find?_some hfound
  exact ⟨operation, hcalls, List.mem_of_find?_eq_some hfound, of_decide_eq_true hdue⟩

/-- What fires at a request is the first of the failures still to come that is due there. -/
theorem fired_eq_find? (h : history.Calls operation n) :
    history.fired n = (history.pending n).find? fun i => history.Due operation n i := by
  rw [fired, firstDue, h]
  rfl

theorem fired_eq_head? (h : history.Calls operation n) :
    history.fired n = (history.due operation n).head? := by
  rw [fired_eq_find? h, due, List.head?_filter]

theorem mem_due : i ∈ history.due operation n ↔
    i ∈ history.pending n ∧ history.Due operation n i := by
  rw [due, List.mem_filter, decide_eq_true_iff]

theorem sortedLT_due (history : History) (operation : Operation) (n : Nat) :
    (history.due operation n).SortedLT :=
  List.sortedLT_iff_pairwise.mpr ((sortedLT_pending history n).pairwise.filter _)

/-- What fires at a request is what was planned first of all that is due there. -/
theorem fired_eq_some_iff (h : history.Calls operation n) :
    history.fired n = some i ↔
      i ∈ history.due operation n ∧ ∀ j ∈ history.due operation n, i ≤ j := by
  have hsorted := (sortedLT_due history operation n).pairwise
  rw [fired_eq_head? h]
  cases hdue : history.due operation n with
  | nil => simp
  | cons first rest =>
    rw [hdue, List.pairwise_cons] at hsorted
    rw [List.head?_cons, Option.some_inj, List.forall_mem_cons, List.mem_cons]
    constructor
    · rintro rfl
      exact ⟨.inl rfl, Nat.le_refl _, fun j hj => Nat.le_of_lt (hsorted.1 j hj)⟩
    · rintro ⟨rfl | hi, hfirst, -⟩
      · rfl
      · exact absurd (hsorted.1 i hi) (Nat.not_lt_of_le hfirst)

/-- A failure is still to come if it was planned and has not fired. -/
theorem mem_pending_iff :
    i ∈ history.pending n ↔
      i < n ∧ (history i).failure?.isSome = true ∧ ∀ m < n, history.fired m ≠ some i := by
  induction n with
  | zero => simp [pending]
  | succ n ih =>
    rw [mem_pending_succ, ih]
    constructor
    · rintro (⟨⟨hi, hplanned, hnever⟩, hnow⟩ | ⟨rfl, hplanned⟩)
      · refine ⟨Nat.lt_succ_of_lt hi, hplanned, fun m hm => ?_⟩
        obtain hm | rfl := Nat.lt_succ_iff_lt_or_eq.mp hm
        · exact hnever m hm
        · exact hnow
      · -- What fires was planned before.
        refine ⟨Nat.lt_succ_self i, hplanned, fun m hm hfired => ?_⟩
        obtain ⟨operation, -, hpending, -⟩ := exists_of_fired hfired
        exact absurd (lt_of_mem_pending hpending) (Nat.not_lt_of_le (Nat.le_of_lt_succ hm))
    · rintro ⟨hi, hplanned, hnever⟩
      obtain hi | rfl := Nat.lt_succ_iff_lt_or_eq.mp hi
      · exact .inl ⟨⟨hi, hplanned, fun m hm => hnever m (Nat.lt_succ_of_lt hm)⟩,
          hnever n (Nat.lt_succ_self n)⟩
      · exact .inr ⟨rfl, hplanned⟩

/-- A failure fires once at most. -/
theorem fired_unique (hm : history.fired m = some i) (hn : history.fired n = some i) : m = n := by
  -- Where it fires it is still to come, so it has not fired before.
  have hnever : ∀ {m n : Nat}, history.fired m = some i → history.fired n = some i → ¬m < n := by
    intro m n hm hn hlt
    obtain ⟨operation, -, hpending, -⟩ := exists_of_fired hn
    exact (mem_pending_iff.mp hpending).2.2 m hlt hm
  exact Nat.le_antisymm (Nat.le_of_not_lt (hnever hn hm)) (Nat.le_of_not_lt (hnever hm hn))

/-- A failure of one kind is never due at requests of another. -/
theorem Due.operation_eq {operation' : Operation} (h : history.Due operation m i)
    (h' : history.Due operation' n i) : operation = operation' := by
  obtain ⟨failure, hfailure, rfl, -⟩ := h
  obtain ⟨failure', hfailure', rfl, -⟩ := h'
  rw [Option.mem_unique hfailure hfailure']

/-- A failure fires at requests of its own kind only. -/
theorem calls_of_fired (h : history.fired n = some i) (hdue : history.Due operation m i) :
    history.Calls operation n := by
  obtain ⟨operation', hcalls, -, hdue'⟩ := exists_of_fired h
  rwa [hdue.operation_eq hdue']

/-! ### At what a failure aims -/

theorem Aims.due (h : history.Aims operation i m) (hmn : m ≤ n) : history.Due operation n i := by
  obtain ⟨-, -, failure, hfailure, hkind, hwaited⟩ := h
  have hdue : history.Due operation m i := ⟨failure, hfailure, hkind, hwaited.ge⟩
  exact hdue.mono hmn

theorem Aims.planned (h : history.Aims operation i n) : (history i).failure?.isSome = true := by
  obtain ⟨-, -, failure, hfailure, -⟩ := h
  rw [Option.mem_def.mp hfailure]
  rfl

/-- A failure aims at one request at most. -/
theorem Aims.unique (h : history.Aims operation i m) (h' : history.Aims operation i n) : m = n := by
  -- Behind the request at which it aims, more requests have been counted.
  have hnever : ∀ {m n : Nat}, history.Aims operation i m → history.Aims operation i n →
      ¬m < n := by
    intro m n h h' hlt
    obtain ⟨him, hcalls, failure, hfailure, -, hcount⟩ := h
    obtain ⟨-, -, failure', hfailure', -, hcount'⟩ := h'
    obtain rfl := Option.mem_unique hfailure hfailure'
    have hmore := @requests_mono history operation (i + 1) _ _ (Nat.add_one_le_of_lt hlt)
    rw [requests_succ_of_calls (Nat.add_one_le_of_lt him) hcalls] at hmore
    omega
  exact Nat.le_antisymm (Nat.le_of_not_lt (hnever h' h)) (Nat.le_of_not_lt (hnever h h'))

/-- A failure that has waited for as many requests as it had to has aimed at one of them. -/
theorem exists_aims {failure : PlannedFailure} (hfailure : failure ∈ (history i).failure?)
    (hwaited : failure.remaining ≤ history.requests failure.operation (i + 1) n) :
    ∃ t < n, history.Aims failure.operation i t := by
  have hpos := Store.Change.remaining_pos hfailure
  -- The number of requests begins at zero and grows by one at a time.
  induction n with
  | zero =>
    rw [requests_eq_zero (Nat.zero_le _)] at hwaited
    exact absurd hwaited (Nat.not_le_of_lt hpos)
  | succ n ih =>
    by_cases hbefore : failure.remaining ≤ history.requests failure.operation (i + 1) n
    · obtain ⟨t, ht, haims⟩ := ih hbefore
      exact ⟨t, Nat.lt_succ_of_lt ht, haims⟩
    · have hi : i < n := by
        by_contra hle
        rw [requests_eq_zero (by omega)] at hwaited
        omega
      have hcalls : history.Calls failure.operation n := by
        by_contra hnone
        rw [requests_succ_of_not_calls hnone] at hwaited
        exact hbefore hwaited
      rw [requests_succ_of_calls (Nat.add_one_le_of_lt hi) hcalls] at hwaited
      exact ⟨n, Nat.lt_succ_self n, hi, hcalls, failure, hfailure, rfl, by omega⟩

/-- What is due at a request has aimed at it or at one before it. -/
theorem Due.exists_aims (h : history.Due operation n i) (hi : i < n)
    (hcalls : history.Calls operation n) : ∃ t ≤ n, history.Aims operation i t := by
  obtain ⟨failure, hfailure, rfl, hwaited⟩ := h
  rw [← requests_succ_of_calls (Nat.add_one_le_of_lt hi) hcalls] at hwaited
  obtain ⟨t, ht, haims⟩ := History.exists_aims hfailure hwaited
  exact ⟨t, Nat.le_of_lt_succ ht, haims⟩

/-- Due at a request are the failures that have aimed at it or at one before it, and that have not
fired. -/
theorem mem_due_iff (hcalls : history.Calls operation n) :
    i ∈ history.due operation n ↔
      (∃ t ≤ n, history.Aims operation i t) ∧ ∀ m < n, history.fired m ≠ some i := by
  rw [mem_due, mem_pending_iff]
  constructor
  · rintro ⟨⟨hi, -, hnever⟩, hdue⟩
    exact ⟨hdue.exists_aims hi hcalls, hnever⟩
  · rintro ⟨⟨t, ht, haims⟩, hnever⟩
    exact ⟨⟨haims.1.trans_le ht, haims.planned, hnever⟩, haims.due ht⟩

/-! ### When a failure fires -/

/-- As long as no request of a kind is aimed at twice, each of them meets the failure that aims at
it. -/
theorem fired_iff_aims {limit : Nat}
    (hapart : ∀ t < limit, ∀ i j, history.Aims operation i t → history.Aims operation j t → i = j)
    (hn : n < limit) (hcalls : history.Calls operation n) (i : Nat) :
    history.fired n = some i ↔ history.Aims operation i n := by
  induction n using Nat.strongRecOn generalizing i with
  | ind n ih =>
    -- Whatever aims at an earlier request has fired there, so due is only what aims at this one.
    have hdue : ∀ j, j ∈ history.due operation n ↔ history.Aims operation j n := by
      intro j
      rw [mem_due_iff hcalls]
      constructor
      · rintro ⟨⟨t, ht, haims⟩, hnever⟩
        obtain ht | rfl := Nat.lt_or_eq_of_le ht
        · exact absurd ((ih t ht (ht.trans hn) haims.2.1 j).mpr haims) (hnever t ht)
        · exact haims
      · intro haims
        refine ⟨⟨n, Nat.le_refl n, haims⟩, fun m hm hfired => ?_⟩
        have hbefore := calls_of_fired hfired (haims.due (Nat.le_refl n))
        have haims' := (ih m hm (hm.trans hn) hbefore j).mp hfired
        exact absurd (haims'.unique haims) (Nat.ne_of_lt hm)
    simp only [fired_eq_some_iff hcalls, hdue]
    exact ⟨fun h => h.1, fun haims => ⟨haims, fun j hj => (hapart n hn i j haims hj).le⟩⟩

/-- Of the failures planned before a given one, those are still to come that were so before and have
not fired. -/
theorem ahead_succ (hi : i ≤ n) :
    history.ahead operation (n + 1) i =
      (history.ahead operation n i).filter fun j => history.fired n ≠ some j := by
  have hnew : (if (history n).failure?.isSome then [n] else []).filter
      (fun j => decide (j < i ∧ history.Plans operation j)) = [] := by
    refine List.filter_eq_nil_iff.mpr fun j hj => ?_
    split at hj
    case isTrue =>
      rw [List.mem_singleton.mp hj, decide_eq_true_iff]
      exact fun h => absurd h.1 (Nat.not_lt_of_le hi)
    case isFalse => cases hj
  rw [ahead, pending, List.filter_append, hnew, List.append_nil, List.filter_comm]
  rfl

/-- While a failure that is due has not fired, every request of its kind takes one of the failures
ahead of it out of the plan. -/
theorem requests_add_length_ahead_le (hdue : i ∈ history.due operation n) (hmn : n ≤ m)
    (hpending : i ∈ history.pending m) :
    history.requests operation n m + (history.ahead operation m i).length ≤
      (history.ahead operation n i).length := by
  obtain ⟨hstart, hdue⟩ := mem_due.mp hdue
  have hi := lt_of_mem_pending hstart
  induction m, hmn using Nat.le_induction with
  | base => rw [requests_eq_zero (Nat.le_refl n), Nat.zero_add]
  | succ m hmn ih =>
    obtain ⟨hbefore, hnot⟩ | ⟨rfl, -⟩ := mem_pending_succ.mp hpending
    · have hcount := ih hbefore
      rw [ahead_succ (hi.le.trans hmn)]
      by_cases hcalls : history.Calls operation m
      · -- The failure is due at the request, so one ahead of it must fire there.
        have hmem : i ∈ history.due operation m := mem_due.mpr ⟨hbefore, hdue.mono hmn⟩
        obtain ⟨first, hfirst⟩ : ∃ first, history.fired m = some first := by
          rw [fired_eq_head? hcalls, ← Option.isSome_iff_exists, List.isSome_head?]
          exact List.ne_nil_of_mem hmem
        obtain ⟨hfirst', hleast⟩ := (fired_eq_some_iff hcalls).mp hfirst
        obtain ⟨hpending', failure, hfailure, hkind, -⟩ := mem_due.mp hfirst'
        have hlt : first < i := by
          refine Nat.lt_of_le_of_ne (hleast i hmem) ?_
          rintro rfl
          exact hnot hfirst
        have hahead : first ∈ history.ahead operation m i := List.mem_filter.mpr
          ⟨hpending', decide_eq_true ⟨hlt, failure, hfailure, hkind⟩⟩
        have hshorter : ((history.ahead operation m i).filter fun j =>
            history.fired m ≠ some j).length < (history.ahead operation m i).length := by
          refine List.length_filter_lt_length_iff_exists.mpr ⟨first, hahead, ?_⟩
          simp [hfirst]
        rw [requests_succ_of_calls hmn hcalls]
        omega
      · have hshorter := List.length_filter_le (fun j => decide (history.fired m ≠ some j))
          (history.ahead operation m i)
        rw [requests_succ_of_not_calls hcalls]
        omega
    · exact absurd hi (Nat.not_lt_of_le hmn)

/-- A failure that is due fires before there have been more requests of its kind than failures ahead
of it. -/
theorem exists_fired (hdue : i ∈ history.due operation n)
    (hmany : (history.ahead operation n i).length < history.requests operation n m) :
    ∃ t, n ≤ t ∧ t < m ∧ history.fired t = some i := by
  by_contra hnever
  have hmn : n ≤ m := by
    by_contra hlt
    rw [requests_eq_zero (Nat.le_of_not_le hlt)] at hmany
    exact absurd hmany (Nat.not_lt_zero _)
  -- It would be still to come at the later place, behind more requests than were ahead of it.
  obtain ⟨hi, hplanned, hbefore⟩ := mem_pending_iff.mp (mem_due.mp hdue).1
  have hpending : i ∈ history.pending m := by
    refine mem_pending_iff.mpr ⟨hi.trans_le hmn, hplanned, fun t ht hfired => ?_⟩
    obtain hlt | hle := Nat.lt_or_ge t n
    · exact hbefore t hlt hfired
    · exact hnever ⟨t, hle, ht, hfired⟩
  have hcount := requests_add_length_ahead_le hdue hmn hpending
  omega

/-- Due at a request are those that were due before and have not fired since, if no request in
between was aimed at. -/
theorem due_eq_filter (hmn : n ≤ m) (hcalls : history.Calls operation m)
    (hnone : ∀ t, n < t → t ≤ m → ∀ i, ¬history.Aims operation i t) :
    history.due operation m = (history.due operation n).filter (· ∈ history.pending m) := by
  refine (sortedLT_due history operation m).eq_of_mem_iff
    (List.sortedLT_iff_pairwise.mpr ((sortedLT_due history operation n).pairwise.filter _))
    fun i => ?_
  rw [List.mem_filter, decide_eq_true_iff]
  constructor
  · -- What is due has aimed at a request, which is not one of those in between.
    intro h
    obtain ⟨⟨t, ht, haims⟩, hnever⟩ := (mem_due_iff hcalls).mp h
    have htn : t ≤ n := Nat.le_of_not_lt fun hlt => hnone t hlt ht i haims
    have hpending : i ∈ history.pending n := mem_pending_iff.mpr
      ⟨haims.1.trans_le htn, haims.planned, fun s hs => hnever s (hs.trans_le hmn)⟩
    exact ⟨mem_due.mpr ⟨hpending, haims.due htn⟩, (mem_due.mp h).1⟩
  · rintro ⟨hdue, hpending⟩
    exact mem_due.mpr ⟨hpending, (mem_due.mp hdue).2.mono hmn⟩

/-- A list without repetitions loses its head, and nothing else, to a filter against it. -/
theorem filter_head?_ne {l : List Nat} (h : l.Nodup) :
    (l.filter fun a => l.head? ≠ some a) = l.tail := by
  cases l with
  | nil => rfl
  | cons first rest =>
    rw [List.nodup_cons] at h
    rw [List.filter_cons_of_neg (by simp), List.tail_cons, List.filter_eq_self]
    intro a ha
    have hne : first ≠ a := fun heq => h.1 (heq ▸ ha)
    simp [hne]

/-- Of the failures that are due at a place, every request of their kind takes the first one that is
left, as long as no other request is aimed at. -/
theorem filter_due_eq_drop (hmn : n ≤ m)
    (hnone : ∀ t, n < t → t < m → ∀ i, ¬history.Aims operation i t) :
    (history.due operation n).filter (· ∈ history.pending m) =
      (history.due operation n).drop (history.requests operation n m) := by
  induction m, hmn using Nat.le_induction with
  | base =>
    rw [requests_eq_zero (Nat.le_refl n), List.drop_zero, List.filter_eq_self]
    exact fun i hi => decide_eq_true (mem_due.mp hi).1
  | succ m hmn ih =>
    have hleft := ih fun t hlt hle => hnone t hlt (Nat.lt_succ_of_lt hle)
    have hstep : (history.due operation n).filter (· ∈ history.pending (m + 1)) =
        ((history.due operation n).filter (· ∈ history.pending m)).filter
          fun i => history.fired m ≠ some i := by
      rw [List.filter_filter]
      refine List.filter_congr fun i hi => ?_
      have hne : i ≠ m := ((lt_of_mem_pending (mem_due.mp hi).1).trans_le hmn).ne
      simp [mem_pending_succ, hne, Bool.and_comm]
    rw [hstep]
    by_cases hcalls : history.Calls operation m
    · -- Left are the failures that are due at the request, and the first of them fires.
      have hdue := due_eq_filter hmn hcalls fun t hlt hle => hnone t hlt (Nat.lt_succ_of_le hle)
      rw [← hdue, fired_eq_head? hcalls, filter_head?_ne (sortedLT_due history operation m).nodup,
        hdue, hleft, List.tail_drop, requests_succ_of_calls hmn hcalls]
    · -- What fires at requests of another kind, if anything, is none of the failures that are left.
      rw [hleft, requests_succ_of_not_calls hcalls, List.filter_eq_self]
      intro i hi
      refine decide_eq_true fun hfired => hcalls ?_
      exact calls_of_fired hfired (mem_due.mp (List.mem_of_mem_drop hi)).2

/-- The failures that are due at a place fire at the requests of their kind from there on, one after
the other in the order in which they were planned, and then none fires, as long as no other request
is aimed at. -/
theorem fired_eq_getElem? (hmn : n ≤ m) (hcalls : history.Calls operation m)
    (hnone : ∀ t, n < t → t ≤ m → ∀ i, ¬history.Aims operation i t) :
    history.fired m = (history.due operation n)[history.requests operation n m]? := by
  rw [fired_eq_head? hcalls, due_eq_filter hmn hcalls hnone,
    filter_due_eq_drop hmn fun t hlt hlt' => hnone t hlt hlt'.le, List.head?_drop]

end History

end ElasticGroups.Cloud
