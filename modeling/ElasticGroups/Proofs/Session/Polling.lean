import ElasticGroups.Proofs.Session.Transcript
import ElasticGroups.Session.Poll
import Mathlib.Algebra.Order.Floor.Div

/-!
# Polling within its limit

What waiting for an observation comes to when the observation is one query and a verdict on its
reply. The number of observations is fixed before the first of them is made: the timeout divided
by the time that the clock lets an interval last, rounded up, and at least one.

The module introduces:

* `Convergence.observations` — the greatest number of observations;
* `Watch query verdict limit total replies result` — after a number of replies that let the wait
  go on, one more ends it, or the limit is reached and `total` has been waited.

On every clock a wait asks what its observation asks (`Session.AsksOnly.pollFrom`) and fails as its
observation does, or because the time is up (`Session.FailsOnly.pollFrom`). Where the clock lets
an interval last at all, every transcript of a poll is such a watch (`Session.watch_of_poll`).
-/

namespace ElasticGroups

variable {Query : Type} {Reply : Query → Type} {ε : Type}

namespace Convergence

/-- The greatest number of observations that a wait makes: the timeout divided by the time that
the clock lets an interval last, rounded up, and at least one. -/
def observations (c : Convergence) (clock : Clock) : Nat :=
  max 1 (c.timeout.nanos ⌈/⌉ (clock.lasting c.interval).nanos)

/-- Where the clock lets the interval last as long as it says, the timeout is divided by it. -/
theorem observations_of_lasting {c : Convergence} {clock : Clock}
    (h : clock.lasting c.interval = c.interval) :
    c.observations clock = max 1 (c.timeout.nanos ⌈/⌉ c.interval.nanos) := by
  rw [observations, h]

/-- The time that a wait takes which makes all its observations. -/
def patience (c : Convergence) (clock : Clock) : Duration :=
  (clock.lasting c.interval).times (c.observations clock)

end Convergence

/-- What waiting for an observation comes to when it makes at most `limit` observations and has
waited for `total` after the last of these: all replies but the last one let the wait go on. -/
inductive Watch (query : Query) (verdict : Reply query → Except ε Bool) (limit : Nat)
    (total : Duration) : List (Reply query) → Except (PollError ε) Unit → Prop
  /-- An observation holds. -/
  | held {earlier : List (Reply query)} {last : Reply query}
      (hearlier : ∀ reply ∈ earlier, verdict reply = .ok false)
      (hlimit : earlier.length < limit) (hlast : verdict last = .ok true) :
      Watch query verdict limit total (earlier ++ [last]) (.ok ())
  /-- An observation fails. -/
  | failed {earlier : List (Reply query)} {last : Reply query} {error : ε}
      (hearlier : ∀ reply ∈ earlier, verdict reply = .ok false)
      (hlimit : earlier.length < limit) (hlast : verdict last = .error error) :
      Watch query verdict limit total (earlier ++ [last]) (.error (.failed error))
  /-- All observations are made, and none of them holds. -/
  | timedOut {replies : List (Reply query)}
      (hreplies : ∀ reply ∈ replies, verdict reply = .ok false)
      (hlimit : replies.length = limit) :
      Watch query verdict limit total replies (.error (.timedOut total))

namespace Watch

variable {query : Query} {verdict : Reply query → Except ε Bool} {limit : Nat}
  {total : Duration} {replies : List (Reply query)} {result : Except (PollError ε) Unit}

/-- The first observation may hold. -/
theorem heldAtOnce {reply : Reply query} (hlimit : 0 < limit) (hreply : verdict reply = .ok true) :
    Watch query verdict limit total [reply] (.ok ()) := by
  rw [← List.nil_append [reply]]
  exact .held (List.forall_mem_nil _) hlimit hreply

/-- The first observation may fail. -/
theorem failedAtOnce {reply : Reply query} {error : ε} (hlimit : 0 < limit)
    (hreply : verdict reply = .error error) :
    Watch query verdict limit total [reply] (.error (.failed error)) := by
  rw [← List.nil_append [reply]]
  exact .failed (List.forall_mem_nil _) hlimit hreply

/-- A watch with one more observation in front of it that lets the wait go on. -/
theorem cons {reply : Reply query} (hreply : verdict reply = .ok false)
    (h : Watch query verdict limit total replies result) :
    Watch query verdict (limit + 1) total (reply :: replies) result := by
  cases h with
  | @held earlier last hearlier hlimit hlast =>
    show Watch query verdict (limit + 1) total ((reply :: earlier) ++ [last]) (.ok ())
    exact .held (List.forall_mem_cons.mpr ⟨hreply, hearlier⟩) (Nat.succ_lt_succ hlimit) hlast
  | @failed earlier last error hearlier hlimit hlast =>
    show Watch query verdict (limit + 1) total ((reply :: earlier) ++ [last]) _
    exact .failed (List.forall_mem_cons.mpr ⟨hreply, hearlier⟩) (Nat.succ_lt_succ hlimit) hlast
  | timedOut hreplies hlimit =>
    exact .timedOut (List.forall_mem_cons.mpr ⟨hreply, hreplies⟩) (congrArg (· + 1) hlimit)

end Watch

namespace Session

/-! ### What a wait asks and how it fails -/

section Waits

variable {c : Convergence} {observe : Session Reply (Except ε Bool)} {allowed : Query → Prop}
  {fails : ε → Prop}

/-- Waiting asks what the observation asks, whatever has been waited already. -/
theorem AsksOnly.pollFrom (h : observe.AsksOnly allowed) (waited : Duration) :
    (pollFrom c observe waited).AsksOnly allowed := by
  rw [Session.pollFrom]
  intro lasted
  refine h.bind ?_
  rintro (error | _ | _)
  · exact trivial
  · dsimp only
    by_cases hmore : (waited + lasted).nanos < c.timeout.nanos ∧ 0 < lasted.nanos
    · rw [dif_pos hmore]
      exact h.pollFrom _
    · rw [dif_neg hmore]
      exact trivial
  · exact trivial
termination_by c.timeout.nanos - waited.nanos
decreasing_by
  rw [Duration.nanos_add] at hmore ⊢
  omega

/-- Waiting fails as the observation does, or because the time is up. -/
theorem FailsOnly.pollFrom (h : observe.FailsOnly fails) (waited : Duration) :
    (pollFrom c observe waited).FailsOnly fun
      | .failed error => fails error
      | .timedOut _ => True := by
  rw [Session.pollFrom]
  intro lasted
  refine h.bind ?_ fun error herror => herror
  rintro (_ | _)
  · dsimp only
    by_cases hmore : (waited + lasted).nanos < c.timeout.nanos ∧ 0 < lasted.nanos
    · rw [dif_pos hmore]
      exact h.pollFrom _
    · rw [dif_neg hmore]
      exact trivial
  · exact trivial
termination_by c.timeout.nanos - waited.nanos
decreasing_by
  rw [Duration.nanos_add] at hmore ⊢
  omega

end Waits

/-! ### The observations of a wait -/

/-- The observations that are left to a wait that has lasted for some time. -/
def observationsLeft (c : Convergence) (pace waited : Duration) : Nat :=
  max 1 ((c.timeout.nanos - waited.nanos) ⌈/⌉ pace.nanos)

/-- While the timeout has not passed after one more interval, one observation more is left. -/
theorem observationsLeft_of_lt {c : Convergence} {pace waited : Duration}
    (hpace : 0 < pace.nanos) (h : (waited + pace).nanos < c.timeout.nanos) :
    observationsLeft c pace waited = observationsLeft c pace (waited + pace) + 1 := by
  rw [Duration.nanos_add] at h
  have hleft : c.timeout.nanos - waited.nanos + pace.nanos - 1 =
      (c.timeout.nanos - (waited.nanos + pace.nanos) + pace.nanos - 1) + pace.nanos := by omega
  have hpos : 1 ≤ (c.timeout.nanos - (waited.nanos + pace.nanos) + pace.nanos - 1) /
      pace.nanos := (Nat.one_le_div_iff hpace).mpr (by omega)
  simp only [observationsLeft, Duration.nanos_add, Nat.ceilDiv_eq_add_pred_div]
  rw [hleft, Nat.add_div_right _ hpace]
  omega

/-- Once the timeout has passed after one more interval, that observation is the last one. -/
theorem observationsLeft_of_le {c : Convergence} {pace waited : Duration}
    (hpace : 0 < pace.nanos) (h : c.timeout.nanos ≤ (waited + pace).nanos) :
    observationsLeft c pace waited = 1 := by
  rw [Duration.nanos_add] at h
  have hle : (c.timeout.nanos - waited.nanos) ⌈/⌉ pace.nanos ≤ 1 :=
    (ceilDiv_le_iff_le_mul hpace).mpr (by omega)
  exact max_eq_left hle

/-- Waiting goes on for the observations that are left, whatever has been waited already. -/
theorem watch_of_pollFrom {clock : Clock} {c : Convergence} {query : Query}
    {verdict : Reply query → Except ε Bool} (hpace : 0 < (clock.lasting c.interval).nanos)
    (waited : Duration) {record : List (Sigma Reply)} {result : Except (PollError ε) Unit}
    (h : (pollFrom c (.ask query fun reply => .done (verdict reply)) waited).Transcript clock
      record result) :
    ∃ replies, record = asked query replies ∧
      Watch query verdict (observationsLeft c (clock.lasting c.interval) waited)
        ⟨waited.nanos + observationsLeft c (clock.lasting c.interval) waited *
          (clock.lasting c.interval).nanos⟩ replies result := by
  have hpos : 0 < observationsLeft c (clock.lasting c.interval) waited :=
    Nat.lt_of_lt_of_le Nat.one_pos (Nat.le_max_left _ _)
  -- The recursion is that of the poll: one interval, one observation, and the wait that is left.
  rw [pollFrom] at h
  simp only [transcript_sleep, ask_bind, done_bind, transcript_ask] at h
  obtain ⟨reply, rest, rfl, hrest⟩ := h
  -- Only a verdict that neither fails nor holds lets the wait go on.
  cases hverdict : verdict reply with
  | error error =>
    rw [hverdict] at hrest
    obtain ⟨rfl, rfl⟩ := hrest
    exact ⟨[reply], rfl, .failedAtOnce hpos hverdict⟩
  | ok holds =>
    rw [hverdict] at hrest
    cases holds with
    | true =>
      obtain ⟨rfl, rfl⟩ := hrest
      exact ⟨[reply], rfl, .heldAtOnce hpos hverdict⟩
    | false =>
      by_cases hmore : (waited + clock.lasting c.interval).nanos < c.timeout.nanos
      · -- One observation less is left, and one interval more has been waited.
        simp only [hmore, hpace, and_self, dite_true] at hrest
        obtain ⟨replies, rfl, hwatch⟩ := watch_of_pollFrom hpace _ hrest
        rw [observationsLeft_of_lt hpace hmore]
        refine ⟨reply :: replies, rfl, ?_⟩
        convert hwatch.cons hverdict using 2
        rw [Duration.nanos_add, Nat.succ_mul]
        omega
      · -- The timeout has passed, so this observation was the last one.
        simp only [hmore, false_and, dite_false] at hrest
        obtain ⟨rfl, rfl⟩ := hrest
        rw [observationsLeft_of_le hpace (Nat.le_of_not_lt hmore)]
        refine ⟨[reply], rfl, ?_⟩
        rw [Nat.one_mul]
        exact .timedOut (by simpa using hverdict) rfl
termination_by c.timeout.nanos - waited.nanos
decreasing_by
  rw [Duration.nanos_add] at hmore ⊢
  omega

/-- A poll whose observation is one query is a watch within its limit. -/
theorem watch_of_poll {clock : Clock} {c : Convergence} {query : Query}
    {verdict : Reply query → Except ε Bool} (hpace : 0 < (clock.lasting c.interval).nanos)
    {record : List (Sigma Reply)} {result : Except (PollError ε) Unit}
    (h : (poll c (.ask query fun reply => .done (verdict reply))).Transcript clock record result) :
    ∃ replies, record = asked query replies ∧
      Watch query verdict (c.observations clock) (c.patience clock) replies result := by
  obtain ⟨replies, hrecord, hwatch⟩ := watch_of_pollFrom hpace .zero h
  refine ⟨replies, hrecord, ?_⟩
  simpa [observationsLeft, Convergence.observations, Convergence.patience, Duration.times]
    using hwatch

end Session

end ElasticGroups
