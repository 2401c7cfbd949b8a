import ElasticGroups.Session.Basic

/-!
# Transcripts

What a session and a partner say to each other, written down as a list of queries with their
replies. A transcript has two sides, which this module keeps apart:

* `Session.Transcript clock record result` — on the clock, the replies of the record lead the
  session through exactly the queries of the record, in their order, to the result. Nothing is
  said about who replies, so a fact about all transcripts of a session is a fact about all
  partners;
* `Responder.Gives state record state'` — the partner, in the given state, gives the replies of
  the record to its queries, and is in the other state after that.

Every run is both (`Session.transcript_run`), and a recorded run shows its transcript as the
record that the partner has kept (`Session.transcript_recorded`). A sequence has the transcripts
of its parts, one after the other (`Session.transcript_bind`,
`Session.transcript_exceptT_bind`).

What a session may ask at all, `Session.AsksOnly allowed`, is what all its transcripts are made of
(`Session.AsksOnly.of_mem`), and how it may fail at all, `Session.FailsOnly allowed`, is how all its
transcripts fail (`Session.FailsOnly.of_transcript`). What it may end with at all is
`Session.EndsOnly allowed`.
-/

namespace ElasticGroups

variable {Query : Type} {Reply : Query → Type} {α β ε σ : Type}

/-- On a clock, the replies of a record lead a session through the queries of the record to a
result. -/
def Session.Transcript (clock : Clock) :
    Session Reply α → List (Sigma Reply) → α → Prop
  | .done result, record, final => record = [] ∧ final = result
  | .ask query next, record, final =>
    ∃ reply rest, record = ⟨query, reply⟩ :: rest ∧ (next reply).Transcript clock rest final
  | .sleep span next, record, final => (next (clock.lasting span)).Transcript clock record final

/-- A partner gives the replies of a record to its queries, which takes it from one state to
another. -/
def Responder.Gives (respond : Responder Reply σ) : σ → List (Sigma Reply) → σ → Prop
  | state, [], final => final = state
  | state, ⟨query, reply⟩ :: rest, final =>
    (respond query state).1 = reply ∧ respond.Gives (respond query state).2 rest final

/-- The record of one query that is asked again and again. -/
def asked (query : Query) (replies : List (Reply query)) : List (Sigma Reply) :=
  replies.map fun reply => ⟨query, reply⟩

/-- What is asked is the query, as often as there are replies. -/
@[simp] theorem map_fst_asked (query : Query) (replies : List (Reply query)) :
    (asked query replies).map (·.1) = List.replicate replies.length query := by
  rw [asked, List.map_map]
  exact List.map_const'

namespace Session

variable {clock : Clock} {record : List (Sigma Reply)}

@[simp] theorem transcript_done {result final : α} :
    (done result).Transcript clock record final ↔ record = [] ∧ final = result := .rfl

@[simp] theorem transcript_ask {query : Query} {next : Reply query → Session Reply α}
    {final : α} :
    (ask query next).Transcript clock record final ↔
      ∃ reply rest, record = ⟨query, reply⟩ :: rest ∧
        (next reply).Transcript clock rest final := .rfl

@[simp] theorem transcript_sleep {span : Duration} {next : Duration → Session Reply α}
    {final : α} :
    (sleep span next).Transcript clock record final ↔
      (next (clock.lasting span)).Transcript clock record final := .rfl

/-- A transcript of a sequence is a transcript of its first part, followed by one of what comes
after the result of that part. -/
theorem transcript_bind {session : Session Reply α} {next : α → Session Reply β} {final : β} :
    (session.bind next).Transcript clock record final ↔
      ∃ first rest result, record = first ++ rest ∧ session.Transcript clock first result ∧
        (next result).Transcript clock rest final := by
  -- The induction is on the first part: the record is split where that part has its result.
  induction session generalizing record with
  | done result =>
    constructor
    · exact fun h => ⟨[], record, result, rfl, ⟨rfl, rfl⟩, h⟩
    · rintro ⟨_, rest, _, rfl, ⟨rfl, rfl⟩, h⟩
      exact h
  | sleep span rest ih => exact ih _
  | ask query rest ih =>
    simp only [ask_bind, transcript_ask, ih]
    constructor
    · rintro ⟨reply, _, rfl, first, last, result, rfl, hfirst, hlast⟩
      exact ⟨⟨query, reply⟩ :: first, last, result, rfl, ⟨reply, first, rfl, hfirst⟩, hlast⟩
    · rintro ⟨_, last, result, rfl, ⟨reply, first, rfl, hfirst⟩, hlast⟩
      exact ⟨reply, first ++ last, rfl, first, last, result, rfl, hfirst, hlast⟩

/-! ### Sessions that may fail -/

@[simp] theorem transcript_exceptT_pure {result : α} {final : Except ε α} :
    (pure result : ExceptT ε (Session Reply) α).run.Transcript clock record final ↔
      record = [] ∧ final = .ok result := .rfl

/-- A transcript of a sequence that may fail is a failed transcript of its first part, or a
successful one followed by a transcript of what comes after it. -/
theorem transcript_exceptT_bind {first : ExceptT ε (Session Reply) α}
    {next : α → ExceptT ε (Session Reply) β} {final : Except ε β} :
    (first >>= next).run.Transcript clock record final ↔
      (∃ error, first.run.Transcript clock record (.error error) ∧ final = .error error) ∨
        ∃ earlier later result, record = earlier ++ later ∧
          first.run.Transcript clock earlier (.ok result) ∧
            (next result).run.Transcript clock later final := by
  show (first.run.bind _).Transcript clock record final ↔ _
  rw [transcript_bind]
  constructor
  · rintro ⟨earlier, later, error | result, rfl, hfirst, hnext⟩
    · -- After a failure the sequence is done, so the record ends with that of the first part.
      obtain ⟨rfl, rfl⟩ := hnext
      exact .inl ⟨error, by simpa using hfirst, rfl⟩
    · exact .inr ⟨earlier, later, result, rfl, hfirst, hnext⟩
  · rintro (⟨error, hfirst, rfl⟩ | ⟨earlier, later, result, rfl, hfirst, hnext⟩)
    · exact ⟨record, [], .error error, by simp, hfirst, rfl, rfl⟩
    · exact ⟨earlier, later, .ok result, rfl, hfirst, hnext⟩

/-- Nothing is asked after a failure. -/
@[simp] theorem transcript_throw_bind {error : ε} {next : α → ExceptT ε (Session Reply) β}
    {final : Except ε β} :
    (throw error >>= next : ExceptT ε (Session Reply) β).run.Transcript clock record final ↔
      record = [] ∧ final = .error error := .rfl

/-! ### What may be asked -/

/-- A session asks only queries that are allowed, whatever it is replied. -/
def AsksOnly (allowed : Query → Prop) : Session Reply α → Prop
  | done _ => True
  | ask query next => allowed query ∧ ∀ reply, (next reply).AsksOnly allowed
  | sleep _ next => ∀ lasted, (next lasted).AsksOnly allowed

variable {allowed : Query → Prop}

/-- A sequence asks what its parts ask. -/
theorem AsksOnly.bind {session : Session Reply α} {next : α → Session Reply β}
    (hfirst : session.AsksOnly allowed) (hnext : ∀ result, (next result).AsksOnly allowed) :
    (session.bind next).AsksOnly allowed := by
  induction session with
  | done result => exact hnext result
  | ask query rest ih => exact ⟨hfirst.1, fun reply => ih reply (hfirst.2 reply)⟩
  | sleep span rest ih => exact fun lasted => ih lasted (hfirst lasted)

/-- A sequence that may fail asks what its parts ask. -/
theorem AsksOnly.exceptT_bind {first : ExceptT ε (Session Reply) α}
    {next : α → ExceptT ε (Session Reply) β} (hfirst : first.run.AsksOnly allowed)
    (hnext : ∀ result, (next result).run.AsksOnly allowed) :
    (first >>= next).run.AsksOnly allowed := by
  refine AsksOnly.bind hfirst ?_
  rintro (error | result)
  · exact trivial
  · exact hnext result

/-- A session that asks only some queries asks only such as are allowed, if those are. -/
theorem AsksOnly.mono {allowed' : Query → Prop} {session : Session Reply α}
    (h : session.AsksOnly allowed) (himp : ∀ query, allowed query → allowed' query) :
    session.AsksOnly allowed' := by
  induction session with
  | done result => exact trivial
  | ask query next ih => exact ⟨himp query h.1, fun reply => ih reply (h.2 reply)⟩
  | sleep span next ih => exact fun lasted => ih lasted (h lasted)

/-- All queries of a transcript are allowed. -/
theorem AsksOnly.of_mem {session : Session Reply α} {result : α}
    (h : session.AsksOnly allowed) (htranscript : session.Transcript clock record result) :
    ∀ exchange ∈ record, allowed exchange.1 := by
  induction session generalizing record with
  | done final =>
    obtain ⟨rfl, -⟩ := htranscript
    exact List.forall_mem_nil _
  | ask query next ih =>
    obtain ⟨reply, rest, rfl, hrest⟩ := htranscript
    exact List.forall_mem_cons.mpr ⟨h.1, ih reply (h.2 reply) hrest⟩
  | sleep span next ih => exact ih _ (h _) htranscript

/-! ### How a session may fail -/

/-- A session that may fail does so only with errors that are allowed, whatever it is replied. -/
def FailsOnly (allowed : ε → Prop) : Session Reply (Except ε α) → Prop
  | done (.ok _) => True
  | done (.error error) => allowed error
  | ask _ next => ∀ reply, (next reply).FailsOnly allowed
  | sleep _ next => ∀ lasted, (next lasted).FailsOnly allowed

section FailsOnly

variable {ε' : Type} {fails : ε → Prop} {fails' : ε' → Prop}

/-- A sequence fails as what comes after the result of its first part does. -/
theorem FailsOnly.bind {session : Session Reply (Except ε α)}
    {next : Except ε α → Session Reply (Except ε' β)} (hfirst : session.FailsOnly fails)
    (hok : ∀ result, (next (.ok result)).FailsOnly fails')
    (herror : ∀ error, fails error → (next (.error error)).FailsOnly fails') :
    (session.bind next).FailsOnly fails' := by
  induction session with
  | done result =>
    cases result with
    | ok result => exact hok result
    | error error => exact herror error hfirst
  | ask query rest ih => exact fun reply => ih reply (hfirst reply)
  | sleep span rest ih => exact fun lasted => ih lasted (hfirst lasted)

/-- A sequence that stops at the first failure fails as its parts do. -/
theorem FailsOnly.exceptT_bind {first : ExceptT ε (Session Reply) α}
    {next : α → ExceptT ε (Session Reply) β} (hfirst : first.run.FailsOnly fails)
    (hnext : ∀ result, (next result).run.FailsOnly fails) :
    (first >>= next).run.FailsOnly fails :=
  FailsOnly.bind hfirst hnext fun _ herror => herror

/-- The error of a transcript is allowed. -/
theorem FailsOnly.of_transcript {session : Session Reply (Except ε α)} {error : ε}
    (h : session.FailsOnly fails) (htranscript : session.Transcript clock record (.error error)) :
    fails error := by
  induction session generalizing record with
  | done final =>
    obtain ⟨-, rfl⟩ := htranscript
    exact h
  | ask query next ih =>
    obtain ⟨reply, rest, rfl, hrest⟩ := htranscript
    exact ih reply (h reply) hrest
  | sleep span next ih => exact ih _ (h _) htranscript

end FailsOnly

/-! ### What a session may end with -/

/-- A session ends only with results that are allowed, whatever it is replied. -/
def EndsOnly (allowed : α → Prop) : Session Reply α → Prop
  | done result => allowed result
  | ask _ next => ∀ reply, (next reply).EndsOnly allowed
  | sleep _ next => ∀ lasted, (next lasted).EndsOnly allowed

/-- Where all results are allowed, every session ends with such. -/
theorem endsOnly_of_forall {allowed : α → Prop} (h : ∀ result, allowed result)
    (session : Session Reply α) : session.EndsOnly allowed := by
  induction session with
  | done result => exact h result
  | ask query next ih => exact ih
  | sleep span next ih => exact ih

/-! ### Runs -/

/-- A run is a transcript of the session that the partner gives. -/
theorem transcript_run (clock : Clock) (respond : Responder Reply σ) (session : Session Reply α)
    (world : World σ) :
    ∃ record, session.Transcript clock record (session.run clock respond world).1 ∧
      respond.Gives world.partner record (session.run clock respond world).2.partner := by
  induction session generalizing world with
  | done result => exact ⟨[], ⟨rfl, rfl⟩, rfl⟩
  | sleep span next ih => exact ih _ _
  | ask query next ih =>
    obtain ⟨record, hrecord, hgives⟩ := ih (respond query world.partner).1
      { world with partner := (respond query world.partner).2 }
    exact ⟨_, ⟨_, record, rfl, hrecord⟩, rfl, hgives⟩

end Session

namespace Responder

variable {respond : Responder Reply σ}

/-- What a partner gives to a record in two parts, it gives to one part after the other. -/
theorem gives_append {state final : σ} {first rest : List (Sigma Reply)} :
    respond.Gives state (first ++ rest) final ↔
      ∃ middle, respond.Gives state first middle ∧ respond.Gives middle rest final := by
  induction first generalizing state with
  | nil => simp [Gives]
  | cons exchange first ih =>
    obtain ⟨query, reply⟩ := exchange
    simp only [List.cons_append, Gives, ih]
    constructor
    · rintro ⟨hreply, middle, hfirst, hrest⟩
      exact ⟨middle, ⟨hreply, hfirst⟩, hrest⟩
    · rintro ⟨middle, ⟨hreply, hfirst⟩, hrest⟩
      exact ⟨hreply, middle, hfirst, hrest⟩

/-- The replies of a record leave a partner no choice of its state after them. -/
theorem Gives.unique {state final final' : σ} {record : List (Sigma Reply)}
    (h : respond.Gives state record final) (h' : respond.Gives state record final') :
    final = final' := by
  induction record generalizing state with
  | nil => exact h.trans h'.symm
  | cons exchange rest ih => exact ih h.2 h'.2

/-- A partner that is asked one query again and again has no choice of its replies: fewer of them
are the first of more of them. -/
theorem Gives.asked_isPrefix {state final final' : σ} {query : Query}
    {replies replies' : List (Reply query)} (h : respond.Gives state (asked query replies) final)
    (h' : respond.Gives state (asked query replies') final')
    (hlength : replies.length ≤ replies'.length) : replies <+: replies' := by
  induction replies generalizing state replies' with
  | nil => exact List.nil_prefix
  | cons reply replies ih =>
    cases replies' with
    | nil => simp at hlength
    | cons reply' replies' =>
      obtain ⟨rfl, hrest⟩ := h
      obtain ⟨rfl, hrest'⟩ := h'
      exact List.cons_prefix_cons.mpr ⟨rfl, ih hrest hrest' (Nat.le_of_succ_le_succ hlength)⟩

/-- A partner that keeps a record replies as it would without, and appends the exchange to the
record. -/
theorem recorded_eq {state state' : σ} {query : Query} {reply : Reply query}
    (h : respond query state = (reply, state')) (kept : List (Sigma Reply)) :
    respond.recorded query (state, kept) = (reply, state', kept ++ [⟨query, reply⟩]) := by
  rw [recorded, h]

/-- A partner that keeps a record gives what it would give without, and appends it to the
record. -/
theorem gives_recorded {state final : σ × List (Sigma Reply)} {record : List (Sigma Reply)}
    (h : respond.recorded.Gives state record final) :
    respond.Gives state.1 record final.1 ∧ final.2 = state.2 ++ record := by
  induction record generalizing state with
  | nil =>
    obtain rfl := h
    exact ⟨rfl, by simp⟩
  | cons exchange rest ih =>
    obtain ⟨query, reply⟩ := exchange
    obtain ⟨rfl, hrest⟩ := h
    obtain ⟨hgives, hrecord⟩ := ih hrest
    refine ⟨⟨rfl, hgives⟩, ?_⟩
    rw [hrecord]
    simp [recorded]

end Responder

/-- The record that a partner has kept of a run, which it began with an empty record, is a
transcript of the session that the partner gives. -/
theorem Session.transcript_recorded (clock : Clock) (respond : Responder Reply σ)
    (session : Session Reply α) (state : σ) (now : Duration) :
    let run := session.run clock respond.recorded ⟨(state, []), now⟩
    session.Transcript clock run.2.partner.2 run.1 ∧
      respond.Gives state run.2.partner.2 run.2.partner.1 := by
  obtain ⟨record, hrecord, hgives⟩ :=
    transcript_run clock respond.recorded session ⟨(state, []), now⟩
  -- The record of the transcript is the one that the partner has kept.
  obtain ⟨hgives, hkept⟩ := Responder.gives_recorded hgives
  simp only [List.nil_append] at hkept
  exact ⟨by simpa [hkept] using hrecord, by simpa [hkept] using hgives⟩

end ElasticGroups
