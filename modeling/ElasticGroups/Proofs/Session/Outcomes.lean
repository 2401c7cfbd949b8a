import ElasticGroups.Proofs.Session.Elapsed

/-!
# Waits with given outcomes

How often a wait observes and how long it takes, told by the outcomes that its observations have one
after the other. The first outcome that is not a failure to hold ends the wait, unless the limit
comes before it; every observation takes one interval.

The module introduces:

* `Responder.scripted outcomes` — a partner whose replies are fixed beforehand, and whose state is
  the number of replies that it has given.

With such a partner the run of a poll is exact (`Session.poll_bounded`): the number of observations,
the time and the result. A wait that is in vain is shorter than one interval more than its timeout
(`Convergence.patience_lt`).
-/

namespace ElasticGroups

variable {ε : Type}

/-- A partner whose replies are fixed beforehand. Its state counts the replies that it has given. -/
def Responder.scripted (outcomes : Nat → Except ε Bool) :
    Responder (fun _ : Unit => Except ε Bool) Nat :=
  fun _ given => (outcomes given, given + 1)

/-- A scripted partner gives the outcomes in their order, and counts them. -/
theorem Responder.scripted_of_gives {outcomes : Nat → Except ε Bool} {given final : Nat}
    {replies : List (Except ε Bool)}
    (h : (scripted outcomes).Gives given (asked () replies) final) :
    final = given + replies.length ∧
      ∀ k (hk : k < replies.length), replies[k] = outcomes (given + k) := by
  induction replies generalizing given with
  | nil => exact ⟨h, by simp⟩
  | cons reply replies ih =>
    obtain ⟨hreply, hrest⟩ := h
    -- The others come one place later in the script.
    obtain ⟨hfinal, hreplies⟩ := @ih (given + 1) hrest
    refine ⟨by rw [hfinal, List.length_cons]; omega, fun k hk => ?_⟩
    rcases k with _ | k
    · exact hreply.symm
    · rw [List.getElem_cons_succ, hreplies, Nat.add_assoc, Nat.add_comm 1]

namespace Convergence

variable {c : Convergence} {clock : Clock}

/-- A wait that makes all its observations lasts as long as its timeout. -/
theorem timeout_le_patience (hinterval : 0 < (clock.lasting c.interval).nanos) :
    c.timeout.nanos ≤ (c.patience clock).nanos := by
  have hceil : c.timeout.nanos ≤ (clock.lasting c.interval).nanos *
      (c.timeout.nanos ⌈/⌉ (clock.lasting c.interval).nanos) := le_smul_ceilDiv hinterval
  have hmax : c.timeout.nanos ⌈/⌉ (clock.lasting c.interval).nanos ≤ c.observations clock :=
    le_max_right _ _
  calc c.timeout.nanos
      ≤ (clock.lasting c.interval).nanos *
          (c.timeout.nanos ⌈/⌉ (clock.lasting c.interval).nanos) := hceil
    _ ≤ (clock.lasting c.interval).nanos * c.observations clock := Nat.mul_le_mul_left _ hmax
    _ = (c.patience clock).nanos := Nat.mul_comm _ _

/-- A wait that makes all its observations ends within one interval of its timeout. -/
theorem patience_lt (hinterval : 0 < (clock.lasting c.interval).nanos)
    (htimeout : 0 < c.timeout.nanos) :
    (c.patience clock).nanos < c.timeout.nanos + (clock.lasting c.interval).nanos := by
  show c.observations clock * (clock.lasting c.interval).nanos < _
  rw [observations, Nat.ceilDiv_eq_add_pred_div]
  generalize (clock.lasting c.interval).nanos = pace at hinterval ⊢
  have hdiv := Nat.div_mul_le_self (c.timeout.nanos + pace - 1) pace
  rcases Nat.le_total 1 ((c.timeout.nanos + pace - 1) / pace) with hone | hone
  · rw [Nat.max_eq_right hone]
    omega
  · rw [Nat.max_eq_left hone]
    omega

end Convergence

namespace Session

/-- A poll observes up to the first outcome that does not let it go on, or up to its limit if no such
outcome comes before that, and takes one interval for each observation. -/
theorem poll_bounded (clock : Clock) (c : Convergence) (outcomes : Nat → Except ε Bool)
    (now : Duration) (hinterval : 0 < (clock.lasting c.interval).nanos) :
    let pace := clock.lasting c.interval
    let limit := c.observations clock
    let run := (poll c (query ())).run clock (.scripted outcomes) ⟨0, now⟩
    (pace = c.interval → limit = max 1 (c.timeout.nanos ⌈/⌉ c.interval.nanos)) ∧
    (∀ first < limit, (∀ k < first, outcomes k = .ok false) → outcomes first ≠ .ok false →
      run = (match outcomes first with
          | .ok _ => .ok ()
          | .error error => .error (.failed error),
        ⟨first + 1, now + pace.times (first + 1)⟩)) ∧
    ((∀ k < limit, outcomes k = .ok false) →
      run = (.error (.timedOut (pace.times limit)), ⟨limit, now + pace.times limit⟩)) ∧
    (0 < c.timeout.nanos → c.timeout.nanos ≤ (pace.times limit).nanos ∧
      (pace.times limit).nanos < c.timeout.nanos + pace.nanos) := by
  intro pace limit run
  obtain ⟨replies, hgives, hwatch, hnow⟩ := @watch_of_run_poll _ _ _ _ clock c ()
    (fun outcome : Except ε Bool => outcome) hinterval (.scripted outcomes) ⟨0, now⟩
  obtain ⟨hcount, hscript⟩ := Responder.scripted_of_gives hgives
  have houtcomes : ∀ k (hk : k < replies.length), replies[k] = outcomes k := by
    simpa using hscript
  -- The number of observations and the result are all that a run comes to.
  have hrun {result : Except (PollError ε) Unit} {count : Nat}
      (h : replies.length = count ∧ run.1 = result) :
      run = (result, ⟨count, now + pace.times count⟩) := by
    obtain ⟨rfl, rfl⟩ := h
    have hworld : run.2 = ⟨replies.length, now + pace.times replies.length⟩ := by
      rw [← hnow, ← Nat.zero_add replies.length, ← hcount]
      rfl
    rw [← hworld]
  refine ⟨fun hpace => ?_, fun first hlimit hbefore hfirst => ?_, fun hall => ?_, fun htimeout => ?_⟩
  · exact Convergence.observations_of_lasting hpace
  · exact hrun (hwatch.of_first houtcomes hbefore hfirst hlimit)
  · exact hrun (hwatch.of_forall_false houtcomes hall)
  · exact ⟨Convergence.timeout_le_patience hinterval, Convergence.patience_lt hinterval htimeout⟩

/-- With a timeout of two and a half intervals, the third observation is the last one. An outcome
that holds then still counts, one that would hold later does not, and a failure ends the wait at
once. -/
theorem poll_bounded_last :
    let c : Convergence := ⟨.ofMillis 400, .ofMillis 1000⟩
    let run (outcomes : Nat → Except String Bool) :=
      (poll c (query ())).run .bounded (.scripted outcomes) ⟨0, .zero⟩
    0 < (Clock.bounded.lasting c.interval).nanos ∧ c.observations .bounded = 3 ∧
      run (fun k => .ok (k = 2)) = (.ok (), ⟨3, .ofMillis 1200⟩) ∧
      run (fun k => .ok (k = 3)) =
        (.error (.timedOut (.ofMillis 1200)), ⟨3, .ofMillis 1200⟩) ∧
      run (fun k => if k = 1 then .error "lost" else .ok false) =
        (.error (.failed "lost"), ⟨2, .ofMillis 800⟩) := by
  intro c run
  have hinterval : 0 < (Clock.bounded.lasting c.interval).nanos := by decide
  have hlimit : c.observations .bounded = 3 := by
    rw [Convergence.observations, Nat.ceilDiv_eq_add_pred_div]
    decide
  -- The runs only tell multiples of the interval, so these are worked out first.
  have hpace : Clock.bounded.lasting c.interval = .ofMillis 400 := by decide
  have hwaited : (Duration.ofMillis 400).times 3 = .ofMillis 1200 := by decide
  have hlast : Duration.zero + .ofMillis 1200 = .ofMillis 1200 := by decide
  have hsecond : Duration.zero + (Duration.ofMillis 400).times 2 = .ofMillis 800 := by decide
  have hbounded (outcomes : Nat → Except String Bool) :=
    poll_bounded .bounded c outcomes .zero hinterval
  have hheld := (hbounded fun k => .ok (k = 2)).2.1 2 (by rw [hlimit]; decide)
    (by decide) (by decide)
  have hlate := (hbounded fun k => .ok (k = 3)).2.2.1 (by rw [hlimit]; decide)
  have hlost := (hbounded fun k => if k = 1 then .error "lost" else .ok false).2.1 1
    (by rw [hlimit]; decide) (by decide) (by decide)
  rw [hpace, hwaited, hlast] at hheld
  rw [hlimit, hpace, hwaited, hlast] at hlate
  rw [hpace, hsecond] at hlost
  exact ⟨hinterval, hlimit, hheld, hlate, hlost⟩

end Session

end ElasticGroups
