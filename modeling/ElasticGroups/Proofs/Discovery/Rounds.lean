import ElasticGroups.Proofs.Discovery.Survey

/-!
# Cycles one after the other

A cycle is complete or leaves no trace. Its failure is the first reply that no cycle survives: any
failure of the listing, and every failure of a look-up but that the instance was not found. What a
catalog holds after any number of cycles is what the last complete one of them has read, in that one
cycle.

The module introduces:

* `abort?` — the failure that ends a cycle, in one exchange;
* `Catalog.round`, `Catalog.rounds` — one cycle with a provider, and cycles on one catalog, each
  with the provider in any state;
* `lastComplete?`, `Holding` — the last cycle that was complete, and what a catalog holds after it.

Every part of a cycle fails with the first such reply in its transcript (`FailsFirst`), and so does
every cycle of a run (`rounds_all_or_nothing`).
-/

namespace ElasticGroups.Discovery

open Boot Cloud Scaling Session

variable {clock : Clock} {record : List (Sigma Reply)} {settings : Settings} {payload : Payload}

/-! ### Failed cycles -/

/-- The failure that ends a cycle, if the exchange shows one: any failure of a listing, and the
failure of a look-up unless the instance was not found. -/
def abort? : Sigma Reply → Option ProviderError
  | ⟨.listGroups, .error error⟩ => some error
  | ⟨.getInstance _, .error error⟩ => if error.isNotFound then none else some error
  | _ => none

/-- The failure of the provider that a result carries. -/
def failure? {α : Type} : Except CatalogError α → Option ProviderError
  | .error (.provider error) => some error
  | .ok _ => none

theorem failure?_eq_some_iff {α : Type} {result : Except CatalogError α} {error : ProviderError} :
    failure? result = some error ↔ result = .error (.provider error) := by
  rcases result with ⟨⟨⟩⟩ | _ <;> simp [failure?]

/-- A part of a cycle fails with the first failure that ends a cycle, and only with that one. -/
def FailsFirst {α : Type} (part : Cycle α) : Prop :=
  ∀ clock record result, part.run.Transcript clock record result →
    record.findSome? abort? = failure? result

namespace FailsFirst

variable {α β : Type}

theorem pure (result : α) : FailsFirst (Pure.pure result : Cycle α) := by
  rintro clock record _ ⟨rfl, rfl⟩
  rfl

/-- In a sequence, the first part that fails is the last to ask. -/
theorem bind {first : Cycle α} {next : α → Cycle β} (hfirst : FailsFirst first)
    (hnext : ∀ result, FailsFirst (next result)) : FailsFirst (first >>= next) := by
  intro clock record result h
  rcases transcript_exceptT_bind.mp h with
    ⟨error, herror, rfl⟩ | ⟨earlier, later, found, rfl, hfound, hlater⟩
  · -- The first part fails, so it is all there is.
    rw [hfirst _ _ _ herror]
    rfl
  · -- The first part has a result, so no failure is in its share of the record.
    have hearlier := hfirst _ _ _ hfound
    rw [List.findSome?_append, hearlier, hnext found _ _ _ hlater]
    rfl

/-- One request fails a cycle when its reply is a failure that ends a cycle. -/
theorem ask {request : Request} {next : Reply request → Session Reply (Except CatalogError α)}
    (hnext : ∀ reply, ∃ result, next reply = .done result ∧
      abort? ⟨request, reply⟩ = failure? result) :
    FailsFirst (ExceptT.mk (.ask request next) : Cycle α) := by
  rintro clock record final ⟨reply, rest, rfl, hrest⟩
  obtain ⟨result, hdone, habort⟩ := hnext reply
  rw [hdone] at hrest
  obtain ⟨rfl, rfl⟩ := hrest
  rw [List.findSome?_cons, habort]
  cases failure? final <;> rfl

end FailsFirst

theorem failsFirst_listGroups : FailsFirst listGroups := by
  refine .ask fun reply => ?_
  cases reply with
  | ok groups => exact ⟨_, rfl, rfl⟩
  | error error => exact ⟨_, rfl, rfl⟩

theorem failsFirst_fetchMembers (members : List Member) : FailsFirst (fetchMembers members) := by
  induction members with
  | nil => exact .pure _
  | cons m rest ih =>
    refine .bind (.ask fun reply => ?_) fun found => .bind ih fun others => .pure _
    cases reply with
    | ok i => exact ⟨_, rfl, rfl⟩
    | error error =>
      -- A look-up that finds no instance is passed over, here as in the cycle.
      dsimp only [abort?]
      split
      · exact ⟨_, rfl, rfl⟩
      · exact ⟨_, rfl, rfl⟩

theorem failsFirst_examine (parent : Option GroupId) (group : InstanceGroup) :
    FailsFirst (examine settings payload parent group) := by
  simp only [examine]
  split
  · exact .pure _
  · refine .bind (failsFirst_fetchMembers _) fun members => ?_
    split
    · exact .pure _
    · exact .pure _

theorem failsFirst_examineAll (parent : Option GroupId) (groups : List InstanceGroup) :
    FailsFirst (examineAll settings payload parent groups) := by
  induction groups with
  | nil => exact .pure _
  | cons group rest ih =>
    exact .bind (failsFirst_examine parent group) fun finding => .bind ih fun findings => .pure _

/-- A cycle fails with the first failure that ends a cycle, and only with that one. -/
theorem failsFirst_discover : FailsFirst (discover settings payload) :=
  .bind failsFirst_listGroups fun _ => .bind (failsFirst_examineAll _ _) fun _ => .pure _

/-- A refresh fails with the first failure that ends its cycle. -/
theorem failure?_of_refresh {c after : Catalog} {result : Except CatalogError Summary}
    (h : c.refresh.Transcript clock record (result, after)) :
    record.findSome? abort? = failure? result := by
  rw [Catalog.refresh, transcript_bind] at h
  obtain ⟨earlier, _, error | found, rfl, hdiscover, rfl, ⟨⟩⟩ := h
  · rw [List.append_nil]
    exact failsFirst_discover _ _ _ hdiscover
  · rw [List.append_nil]
    exact failsFirst_discover _ _ _ hdiscover

/-! ### Cycles one after the other -/

variable {σ : Type}

/-- A cycle with a provider, and what it has led to. -/
structure Round (σ : Type) where
  /-- What was asked and replied. -/
  record : List (Sigma Reply)
  /-- How the cycle ended. -/
  result : Except CatalogError Summary
  /-- The catalog after it. -/
  catalog : Catalog
  /-- The provider and the time after it. -/
  world : World σ

def Round.isComplete (round : Round σ) : Bool := (failure? round.result).isNone

theorem Round.isComplete_of_ok {round : Round σ} {summary : Summary}
    (h : round.result = .ok summary) : round.isComplete = true := by
  rw [isComplete, h]
  rfl

theorem Round.isComplete_of_error {round : Round σ} {error : CatalogError}
    (h : round.result = .error error) : round.isComplete = false := by
  rw [isComplete, h]
  rfl

/-- The last cycle that was complete. -/
def lastComplete? (rounds : List (Round σ)) : Option (Round σ) :=
  (rounds.filter (·.isComplete)).getLast?

namespace Catalog

/-- Run one cycle with a provider. -/
def round (clock : Clock) (respond : Responder Reply σ) (c : Catalog) (world : World σ) : Round σ :=
  let ((result, catalog), last) :=
    c.refresh.run clock respond.recorded ⟨(world.partner, []), world.now⟩
  { record := last.partner.2, result, catalog, world := ⟨last.partner.1, last.now⟩ }

/-- Run cycles one after the other, each with the provider in a state of its own. -/
def rounds (clock : Clock) (respond : Responder Reply σ) (c : Catalog) :
    List (World σ) → List (Round σ) × Catalog
  | [] => ([], c)
  | world :: rest =>
    let first := c.round clock respond world
    let (others, final) := first.catalog.rounds clock respond rest
    (first :: others, final)

/-- The record of a cycle is a transcript of a refresh, which the provider has given. -/
theorem transcript_round (clock : Clock) (respond : Responder Reply σ) (c : Catalog)
    (world : World σ) :
    let round := c.round clock respond world
    c.refresh.Transcript clock round.record (round.result, round.catalog) ∧
      respond.Gives world.partner round.record round.world.partner :=
  transcript_recorded clock respond c.refresh world.partner world.now

end Catalog

/-- A catalog holds what it found in one cycle, or what it held before if there is none. -/
def Holding (settings : Settings) (payload : Payload) (before : Census) :
    Option (Round σ) → Census → Prop
  | none, found => found = before
  | some round, found =>
    ∃ groups sightings, Survey settings payload round.record groups sightings found

/-- What is held after later cycles is what they found, or else what was held after the earlier
ones. -/
theorem Holding.trans {before middle found : Census} {earlier later : Option (Round σ)}
    (h : Holding settings payload before earlier middle)
    (h' : Holding settings payload middle later found) :
    Holding settings payload before (later.or earlier) found := by
  cases later with
  | some round => exact h'
  | none =>
    rw [h', Option.none_or]
    exact h

/-- After one cycle a catalog holds what the cycle found, or what it held before if the cycle was
not complete. -/
theorem holding_round (respond : Responder Reply σ) (c : Catalog) (world : World σ) :
    let round := c.round clock respond world
    round.catalog.settings = c.settings ∧ round.catalog.payload = c.payload ∧
      Holding c.settings c.payload c.found (lastComplete? [round]) round.catalog.found := by
  intro round
  have htranscript := (c.transcript_round clock respond world).1
  obtain ⟨found, hdiscover, hresult, hcatalog⟩ | ⟨error, hresult, hcatalog⟩ :=
    transcript_refresh htranscript
  · have hlast : lastComplete? [round] = some round := by
      rw [lastComplete?, List.filter_cons_of_pos (Round.isComplete_of_ok hresult)]
      rfl
    have hcatalog : round.catalog = { c with found } := hcatalog
    rw [hlast, hcatalog]
    exact ⟨rfl, rfl, survey_of_discover hdiscover⟩
  · have hlast : lastComplete? [round] = none := by
      rw [lastComplete?, List.filter_cons_of_neg (by rw [Round.isComplete_of_error hresult]; simp)]
      rfl
    have hcatalog : round.catalog = c := hcatalog
    rw [hlast, hcatalog]
    exact ⟨rfl, rfl, rfl⟩

/-- Every cycle of a run fails with the first failure that ends a cycle, and a catalog holds what it
found in the last complete one. -/
theorem holding_rounds (respond : Responder Reply σ) (c : Catalog) (worlds : List (World σ)) :
    let run := c.rounds clock respond worlds
    (∀ round ∈ run.1, round.record.findSome? abort? = failure? round.result) ∧
      run.2.settings = c.settings ∧ run.2.payload = c.payload ∧
      Holding c.settings c.payload c.found (lastComplete? run.1) run.2.found := by
  -- The induction is on the cycles; the catalog that the first one leaves is that of the others.
  induction worlds generalizing c with
  | nil => exact ⟨List.forall_mem_nil _, rfl, rfl, rfl⟩
  | cons world rest ih =>
    have hrecord := failure?_of_refresh (c.transcript_round clock respond world).1
    obtain ⟨hsettings, hpayload, hfirst⟩ := @holding_round clock σ respond c world
    obtain ⟨hothers, hsettings', hpayload', hholding⟩ := ih (c.round clock respond world).catalog
    rw [hsettings, hpayload] at hholding
    refine ⟨List.forall_mem_cons.mpr ⟨hrecord, hothers⟩, hsettings'.trans hsettings,
      hpayload'.trans hpayload, ?_⟩
    -- The last complete cycle of all is that of the others, or else the first one.
    have hboth := hfirst.trans hholding
    rw [lastComplete?, lastComplete?, ← List.getLast?_append, ← List.filter_append] at hboth
    exact hboth

/-- Whatever a provider replies and however it changes between the cycles, every cycle on a catalog
fails exactly with the first failure that ends a cycle: one of the listing, or one of a look-up but
that the instance was not found. After them, the catalog holds what the last complete cycle comes
to, as told by the record of that one cycle, and nothing if there is none. -/
theorem rounds_all_or_nothing (clock : Clock) (respond : Responder Reply σ) (settings : Settings)
    (payload : Payload) (worlds : List (World σ)) :
    let run := Catalog.rounds clock respond { settings, payload } worlds
    (∀ round ∈ run.1, ∀ error, round.result = .error (.provider error) ↔
        round.record.findSome? abort? = some error) ∧
      run.2.settings = settings ∧ run.2.payload = payload ∧
      Holding settings payload {} (lastComplete? run.1) run.2.found := by
  intro run
  obtain ⟨hrounds, hsettings, hpayload, hholding⟩ :=
    @holding_rounds clock σ respond { settings, payload } worlds
  refine ⟨fun round hround error => ?_, hsettings, hpayload, hholding⟩
  rw [hrounds round hround, failure?_eq_some_iff]

end ElasticGroups.Discovery
