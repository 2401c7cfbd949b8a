import ElasticGroups.Duration

/-!
# Sessions

A program that asks a partner and sleeps between its questions, as a tree: at a question it
branches on every reply that the partner may give, and after a sleep on how long the sleep has
lasted. The tree says what is asked and when, and leaves open who answers and which clock runs, so
a statement about all partners and all clocks is a statement about the tree.

## Main definitions

* `Session`: the tree, with its monad structure;
* `Responder`: a partner, with a state of its own;
* `Clock`: how long sleeps last, with `Clock.exact` and `Clock.bounded`;
* `Session.run`: a session with a given partner, on a clock that only the sleeps advance;
* `Responder.recorded`: the same partner, keeping a record of what it was asked and replied.
-/

namespace ElasticGroups

variable {Query : Type} {Reply : Query → Type} {α β : Type}

/-- A program that asks queries, sleeps, and ends with a result. -/
inductive Session {Query : Type} (Reply : Query → Type) (α : Type) : Type
  /-- The end. -/
  | done (result : α)
  /-- A query, and how to go on after each reply to it. -/
  | ask (query : Query) (next : Reply query → Session Reply α)
  /-- A sleep that should last a span, and how to go on after the time it has lasted. -/
  | sleep (span : Duration) (next : Duration → Session Reply α)

namespace Session

/-- Go on with `next` where a session ends. -/
protected def bind (session : Session Reply α) (next : α → Session Reply β) : Session Reply β :=
  match session with
  | done result => next result
  | ask query rest => ask query fun reply => (rest reply).bind next
  | sleep span rest => sleep span fun lasted => (rest lasted).bind next

instance : Monad (Session Reply) where
  pure := done
  bind := Session.bind

@[simp] theorem done_bind (result : α) (next : α → Session Reply β) :
    (done result).bind next = next result := rfl

@[simp] theorem ask_bind (query : Query) (rest : Reply query → Session Reply α)
    (next : α → Session Reply β) :
    (ask query rest).bind next = ask query fun reply => (rest reply).bind next := rfl

@[simp] theorem sleep_bind (span : Duration) (rest : Duration → Session Reply α)
    (next : α → Session Reply β) :
    (sleep span rest).bind next = sleep span fun lasted => (rest lasted).bind next := rfl

/-- Ask one query and end with its reply. -/
def query (q : Query) : Session Reply (Reply q) := ask q done

end Session

/-- A partner: what it replies to a query in a state, and the state after that. -/
abbrev Responder {Query : Type} (Reply : Query → Type) (σ : Type) :=
  (query : Query) → σ → Reply query × σ

/-! ### Clocks -/

/-- A clock: how long a sleep lasts that should last a span. -/
structure Clock where
  /-- The time that a sleep takes. -/
  lasting : Duration → Duration

namespace Clock

/-- The clock on which every sleep lasts its span. -/
def exact : Clock := ⟨id⟩

/-- The longest sleep of a bounded clock: thirty years of 365 days. -/
def longestSleep : Duration := .ofSeconds 946080000

/-- The clock on which a sleep lasts its span, but not more than the longest sleep. -/
def bounded : Clock :=
  ⟨fun span => if span.nanos ≤ longestSleep.nanos then span else longestSleep⟩

@[simp] theorem lasting_exact (span : Duration) : exact.lasting span = span := rfl

/-- On a bounded clock a span within the longest sleep is slept in full. -/
theorem lasting_bounded {span : Duration} (h : span.nanos ≤ longestSleep.nanos) :
    bounded.lasting span = span := if_pos h

end Clock

/-! ### Running -/

/-- The state of a partner, with the time of the clock. -/
structure World (σ : Type) where
  /-- The state of the partner. -/
  partner : σ
  /-- The time that has passed. -/
  now : Duration
  deriving Repr, Inhabited

namespace Session

/-- Run a session with a partner on a clock. Replies take no time. -/
def run {σ : Type} (clock : Clock) (respond : Responder Reply σ) :
    Session Reply α → World σ → α × World σ
  | done result, world => (result, world)
  | ask query next, world =>
    let (reply, partner) := respond query world.partner
    run clock respond (next reply) { world with partner }
  | sleep span next, world =>
    let lasted := clock.lasting span
    run clock respond (next lasted) { world with now := world.now + lasted }

/-- Running a sequence is running its parts one after the other. -/
theorem run_bind {σ : Type} (clock : Clock) (respond : Responder Reply σ)
    (session : Session Reply α) (next : α → Session Reply β) (world : World σ) :
    (session.bind next).run clock respond world =
      (next (session.run clock respond world).1).run clock respond
        (session.run clock respond world).2 := by
  induction session generalizing world with
  | done result => rfl
  | ask query rest ih => exact ih _ _
  | sleep span rest ih => exact ih _ _

end Session

/-- A partner that keeps a record of its queries and replies, oldest first. -/
def Responder.recorded {σ : Type} (respond : Responder Reply σ) :
    Responder Reply (σ × List (Sigma Reply)) :=
  fun query (state, record) =>
    let (reply, state) := respond query state
    (reply, state, record ++ [⟨query, reply⟩])

end ElasticGroups
