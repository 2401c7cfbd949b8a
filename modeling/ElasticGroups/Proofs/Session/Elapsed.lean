import ElasticGroups.Proofs.Session.Polling

/-!
# How long sessions last

Replies take no time, so a session lasts as long as its sleeps. Which sleeps it makes depends on the
replies, so the time belongs to a record of them, as a result does.

The module introduces:

* `Session.Lasts clock record elapsed` — led by the replies of the record, the session sleeps for
  the given time in all.

A run takes the time of its record (`Session.transcript_run_timed`). A poll takes one interval for
each of its observations (`Session.lasts_pollFrom`), which with its watch makes up all that the run
of a poll comes to (`Session.watch_of_run_poll`).
-/

namespace ElasticGroups

variable {Query : Type} {Reply : Query → Type} {α β ε σ : Type}

/-- No time passes in the empty span. -/
theorem Duration.add_zero (d : Duration) : d + .zero = d := rfl

theorem Duration.add_assoc (a b c : Duration) : a + b + c = a + (b + c) :=
  congrArg Duration.mk (Nat.add_assoc _ _ _)

theorem Duration.times_zero (d : Duration) : d.times 0 = .zero :=
  congrArg Duration.mk (Nat.zero_mul _)

/-- A span repeated once more is one span longer. -/
theorem Duration.times_succ (count : Nat) (d : Duration) :
    d.times (count + 1) = d + d.times count :=
  congrArg Duration.mk ((Nat.succ_mul count d.nanos).trans (Nat.add_comm _ _))

/-- A partner gives one reply, and then others. -/
theorem Responder.Gives.cons {respond : Responder Reply σ} {state middle final : σ} {query : Query}
    {reply : Reply query} {rest : List (Sigma Reply)} (h : respond query state = (reply, middle))
    (hrest : respond.Gives middle rest final) :
    respond.Gives state (⟨query, reply⟩ :: rest) final := by
  rw [Gives, h]
  exact ⟨rfl, hrest⟩

/-- On a clock, the replies of a record lead a session through sleeps of the given time in all. -/
def Session.Lasts (clock : Clock) : Session Reply α → List (Sigma Reply) → Duration → Prop
  | .done _, record, elapsed => record = [] ∧ elapsed = .zero
  | .ask query next, record, elapsed =>
    ∃ reply rest, record = ⟨query, reply⟩ :: rest ∧ (next reply).Lasts clock rest elapsed
  | .sleep span next, record, elapsed =>
    ∃ left, elapsed = clock.lasting span + left ∧
      (next (clock.lasting span)).Lasts clock record left

namespace Session

variable {clock : Clock} {record : List (Sigma Reply)} {elapsed : Duration}

@[simp] theorem lasts_ask {query : Query} {next : Reply query → Session Reply α} :
    (ask query next).Lasts clock record elapsed ↔
      ∃ reply rest, record = ⟨query, reply⟩ :: rest ∧
        (next reply).Lasts clock rest elapsed := .rfl

@[simp] theorem lasts_sleep {span : Duration} {next : Duration → Session Reply α} :
    (sleep span next).Lasts clock record elapsed ↔
      ∃ left, elapsed = clock.lasting span + left ∧
        (next (clock.lasting span)).Lasts clock record left := .rfl

/-- A run is a transcript of the session that the partner gives, and takes the time of its
record. -/
theorem transcript_run_timed (clock : Clock) (respond : Responder Reply σ)
    (session : Session Reply α) (world : World σ) :
    ∃ record elapsed, session.Transcript clock record (session.run clock respond world).1 ∧
      respond.Gives world.partner record (session.run clock respond world).2.partner ∧
      session.Lasts clock record elapsed ∧
      (session.run clock respond world).2.now = world.now + elapsed := by
  induction session generalizing world with
  | done result => exact ⟨[], .zero, ⟨rfl, rfl⟩, rfl, ⟨rfl, rfl⟩, (Duration.add_zero _).symm⟩
  | ask query next ih =>
    obtain ⟨record, elapsed, hrecord, hgives, hlasts, hnow⟩ := ih (respond query world.partner).1
      { world with partner := (respond query world.partner).2 }
    exact ⟨_, elapsed, ⟨_, record, rfl, hrecord⟩, ⟨rfl, hgives⟩, ⟨_, record, rfl, hlasts⟩, hnow⟩
  | sleep span next ih =>
    obtain ⟨record, elapsed, hrecord, hgives, hlasts, hnow⟩ := ih (clock.lasting span)
      { world with now := world.now + clock.lasting span }
    refine ⟨record, clock.lasting span + elapsed, hrecord, hgives, ⟨elapsed, rfl, hlasts⟩, ?_⟩
    exact hnow.trans (Duration.add_assoc _ _ _)

/-- The run of a sequence that may fail is that of its first part, which what comes after it follows
if it has not failed. -/
theorem run_exceptT_bind (respond : Responder Reply σ) (first : ExceptT ε (Session Reply) α)
    (next : α → ExceptT ε (Session Reply) β) (world : World σ) :
    (first >>= next).run.run clock respond world =
      match first.run.run clock respond world with
      | (.error error, world) => (.error error, world)
      | (.ok result, world) => (next result).run.run clock respond world := by
  show (first.run.bind _).run clock respond world = _
  rw [run_bind]
  generalize first.run.run clock respond world = done
  obtain ⟨error | result, world⟩ := done <;> rfl

/-! ### Polls -/

variable {c : Convergence} {query : Query} {verdict : Reply query → Except ε Bool}

/-- A wait takes one interval for each observation that is left to it. -/
theorem lasts_pollFrom (waited : Duration) {record : List (Sigma Reply)} {elapsed : Duration}
    (h : (pollFrom c (.ask query fun reply => .done (verdict reply)) waited).Lasts clock
      record elapsed) :
    elapsed = (clock.lasting c.interval).times record.length := by
  -- The recursion is that of the poll: one interval, one observation, and the wait that is left.
  rw [pollFrom] at h
  simp only [lasts_sleep, ask_bind, done_bind, lasts_ask] at h
  obtain ⟨left, rfl, reply, rest, rfl, hrest⟩ := h
  rw [List.length_cons, Duration.times_succ]
  refine congrArg _ ?_
  cases hverdict : verdict reply with
  | error error =>
    rw [hverdict] at hrest
    obtain ⟨rfl, rfl⟩ := hrest
    exact (Duration.times_zero _).symm
  | ok holds =>
    rw [hverdict] at hrest
    cases holds with
    | true =>
      obtain ⟨rfl, rfl⟩ := hrest
      exact (Duration.times_zero _).symm
    | false =>
      dsimp only at hrest
      by_cases hmore : (waited + clock.lasting c.interval).nanos < c.timeout.nanos ∧
          0 < (clock.lasting c.interval).nanos
      · rw [dif_pos hmore] at hrest
        exact lasts_pollFrom _ hrest
      · rw [dif_neg hmore] at hrest
        obtain ⟨rfl, rfl⟩ := hrest
        exact (Duration.times_zero _).symm
termination_by c.timeout.nanos - waited.nanos
decreasing_by
  rw [Duration.nanos_add] at hmore ⊢
  omega

/-- The run of a poll whose observation is one query is a watch within its limit, and takes one
interval for each of its observations. -/
theorem watch_of_run_poll (hpace : 0 < (clock.lasting c.interval).nanos)
    (respond : Responder Reply σ) (world : World σ) :
    let run := (poll c (.ask query fun reply => .done (verdict reply))).run clock respond world
    ∃ replies, respond.Gives world.partner (asked query replies) run.2.partner ∧
      Watch query verdict (c.observations clock) (c.patience clock) replies run.1 ∧
      run.2.now = world.now + (clock.lasting c.interval).times replies.length := by
  intro run
  obtain ⟨record, elapsed, htranscript, hgives, hlasts, hnow⟩ := transcript_run_timed clock respond
    (poll c (.ask query fun reply => .done (verdict reply))) world
  obtain ⟨replies, rfl, hwatch⟩ := watch_of_poll hpace htranscript
  obtain rfl := lasts_pollFrom .zero hlasts
  rw [asked, List.length_map] at hnow
  exact ⟨replies, hgives, hwatch, hnow⟩

end Session

namespace Watch

variable {query : Query} {verdict : Reply query → Except ε Bool} {limit first : Nat}
  {total : Duration} {replies : List (Reply query)} {result : Except (PollError ε) Unit}
  {outcomes : Nat → Except ε Bool}

/-- A watch makes no more observations than its limit. -/
theorem length_le (h : Watch query verdict limit total replies result) :
    replies.length ≤ limit := by
  cases h with
  | held _ hlimit => simpa using Nat.succ_le_of_lt hlimit
  | failed _ hlimit => simpa using Nat.succ_le_of_lt hlimit
  | timedOut _ hlimit => exact hlimit.le

/-- Observations that all let a wait go on lie before the first one that does not. -/
theorem length_le_of_ne_false
    (hverdict : ∀ k (hk : k < replies.length), verdict replies[k] = outcomes k)
    (hfirst : outcomes first ≠ .ok false) {earlier : List (Reply query)}
    (hfront : earlier <+: replies) (hearlier : ∀ reply ∈ earlier, verdict reply = .ok false) :
    earlier.length ≤ first := by
  by_contra! hlt
  have hlong := Nat.lt_of_lt_of_le hlt hfront.length_le
  refine hfirst ?_
  rw [← hverdict first hlong, ← hfront.getElem hlt]
  exact hearlier _ (List.getElem_mem hlt)

/-- A watch ends with the first observation that does not let it go on, if that comes within the
limit, and as that observation says. -/
theorem of_first (h : Watch query verdict limit total replies result)
    (hverdict : ∀ k (hk : k < replies.length), verdict replies[k] = outcomes k)
    (hbefore : ∀ k < first, outcomes k = .ok false) (hfirst : outcomes first ≠ .ok false)
    (hlimit : first < limit) :
    replies.length = first + 1 ∧
      result = match outcomes first with
        | .ok _ => .ok ()
        | .error error => .error (.failed error) := by
  -- Whatever ends the watch is the outcome at the position behind the observations before it.
  have hends {earlier : List (Reply query)} {last : Reply query}
      (hreplies : replies = earlier ++ [last])
      (hearlier : ∀ reply ∈ earlier, verdict reply = .ok false)
      (hlast : verdict last ≠ .ok false) :
      earlier.length = first ∧ verdict last = outcomes first := by
    subst hreplies
    have hle := length_le_of_ne_false hverdict hfirst (List.prefix_append _ _) hearlier
    have hcount := hverdict earlier.length (by simp)
    rw [List.getElem_concat_length rfl] at hcount
    have heq : earlier.length = first := by
      by_contra hne
      exact hlast (hcount.trans (hbefore _ (by omega)))
    rw [heq] at hcount
    exact ⟨heq, hcount⟩
  cases h with
  | held hearlier _ hlast =>
    obtain ⟨hlength, houtcome⟩ := hends rfl hearlier (by simp [hlast])
    simp [hlength, ← houtcome, hlast]
  | failed hearlier _ hlast =>
    obtain ⟨hlength, houtcome⟩ := hends rfl hearlier (by simp [hlast])
    simp [hlength, ← houtcome, hlast]
  | timedOut hreplies hcount =>
    -- The first observation that does not let the watch go on would be among those made.
    have hle := length_le_of_ne_false hverdict hfirst List.prefix_rfl hreplies
    omega

/-- A watch whose first observation holds ends with it. -/
theorem of_holds (h : Watch query verdict limit total replies result) (hlimit : 0 < limit)
    (hholds : ∀ hk : 0 < replies.length, verdict replies[0] = .ok true) :
    replies.length = 1 ∧ result = .ok () := by
  let seen (k : Nat) : Except ε Bool := if hk : k < replies.length then verdict replies[k] else .ok true
  have hseen : ∀ k (hk : k < replies.length), verdict replies[k] = seen k := by
    intro k hk
    simp [seen, hk]
  have hfirst : seen 0 = .ok true := by
    by_cases hk : 0 < replies.length
    · simp [seen, hk, hholds hk]
    · simp [seen, hk]
  obtain ⟨hlength, hresult⟩ := h.of_first hseen (fun k hk => absurd hk (Nat.not_lt_zero k))
    (by simp [hfirst]) hlimit
  rw [hfirst] at hresult
  exact ⟨hlength, hresult⟩

/-- A watch whose observations all let it go on ends at the limit. -/
theorem of_forall_false (h : Watch query verdict limit total replies result)
    (hverdict : ∀ k (hk : k < replies.length), verdict replies[k] = outcomes k)
    (hall : ∀ k < limit, outcomes k = .ok false) :
    replies.length = limit ∧ result = .error (.timedOut total) := by
  -- An observation that ends the watch would be one of those within the limit.
  have hnone {earlier : List (Reply query)} {last : Reply query}
      (hreplies : replies = earlier ++ [last]) (hlimit : earlier.length < limit) :
      verdict last = .ok false := by
    subst hreplies
    have hcount := hverdict earlier.length (by simp)
    rw [List.getElem_concat_length rfl] at hcount
    exact hcount.trans (hall _ hlimit)
  cases h with
  | held _ hlimit hlast => simp [hnone rfl hlimit] at hlast
  | failed _ hlimit hlast => simp [hnone rfl hlimit] at hlast
  | timedOut _ hlimit => exact ⟨hlimit, rfl⟩

/-- A watch whose observations hold from one of them on ends with that one, if it comes within the
limit, and else at the limit. -/
theorem of_threshold (h : Watch query verdict limit total replies result)
    (hverdict : ∀ k (hk : k < replies.length), verdict replies[k] = .ok (decide (first ≤ k))) :
    replies.length = min (first + 1) limit ∧
      result = if first + 1 ≤ limit then .ok () else .error (.timedOut total) := by
  by_cases hlimit : first + 1 ≤ limit
  · have hbefore : ∀ k < first, Except.ok (decide (first ≤ k)) = (.ok false : Except ε Bool) := by
      simp
    obtain ⟨hlength, hresult⟩ := h.of_first hverdict hbefore (by simp) hlimit
    rw [if_pos hlimit, Nat.min_eq_left hlimit]
    exact ⟨hlength, by simpa using hresult⟩
  · obtain ⟨hlength, hresult⟩ := h.of_forall_false hverdict fun k hk => by simp; omega
    rw [if_neg hlimit, Nat.min_eq_right (by omega)]
    exact ⟨hlength, hresult⟩

end Watch

end ElasticGroups
