import ElasticGroups.Proofs.Cloud.Failures

/-!
# What a request leaves alone

The other side of what a request does to a store: which parts of the store are as before, and when
all of them are.

The module introduces:

* `Store.Intact before after` — the groups, the instances, the names that are used up and the switch
  are the same;
* `Store.Framed before request reply after` — what is as before when a request has been replied to.

A request that is served and fails leaves the whole store as it is (`Store.serve_eq_of_error`), and
so does one that reads (`Store.serve_eq_of_reads`). Whether the store is stalled makes no difference
to any reply (`Store.reply_setStalled`). With what a request does to the counters and to the plan of
failures, every request is framed (`Store.framed_respond`).
-/

namespace ElasticGroups.Cloud

namespace Store

/-- The content and the switch are the same. -/
structure Intact (before after : Store) : Prop where
  /-- The groups are the same. -/
  groups : after.groups = before.groups
  /-- The instances are the same. -/
  instances : after.instances = before.instances
  /-- No name has been used up. -/
  created : after.created = before.created
  /-- The store stalls if it did before. -/
  stalled : after.stalled = before.stalled

/-- A store leaves itself intact. -/
theorem Intact.refl (store : Store) : Intact store store := ⟨rfl, rfl, rfl, rfl⟩

/-- What is left intact twice is left intact. -/
theorem Intact.trans {first second third : Store} (h : Intact first second)
    (h' : Intact second third) : Intact first third :=
  ⟨h'.groups.trans h.groups, h'.instances.trans h.instances, h'.created.trans h.created,
    h'.stalled.trans h.stalled⟩

/-- What is as before when a store has replied to a request. -/
structure Framed (before : Store) (request : Request) (reply : Reply request) (after : Store) :
    Prop where
  /-- One request more is counted, of its kind and of no other. -/
  counted : ∀ operation, after.calls.get operation =
    before.calls.get operation + if operation = request.operation then 1 else 0
  /-- The plan loses no failure, or just the one that the request fails with. -/
  failures : after.failures = before.failures.advance request.operation ∨
    ∃ front due back, before.failures.advance request.operation = front ++ due :: back ∧
      after.failures = front ++ back ∧ reply = .error due.error
  /-- A request that fails leaves the rest intact. -/
  intact_of_error : ∀ error, reply = .error error → Intact before after
  /-- A read leaves the rest intact, whether it fails or not. -/
  intact_of_reads : request.Reads → Intact before after
  /-- A stalled store keeps its groups and its instances. -/
  kept_of_stalled : before.stalled = true →
    after.groups = before.groups ∧ after.instances = before.instances
  /-- Stalled or not, the store gives the same reply. -/
  reply_setStalled : ∀ stalled, (respond request { before with stalled }).1 = reply

variable {store : Store} {request : Request}

/-! ### Serving -/

/-- A request that is served and fails leaves the store as it is. -/
theorem serve_eq_of_error {error : ProviderError} (h : (store.serve request).1 = .error error) :
    (store.serve request).2 = store := by
  -- Whatever is refused is refused before a name is taken or a record is touched.
  cases request with
  | listGroups => rfl
  | getGroup id =>
    rw [serve]
    split <;> rfl
  | getInstance id =>
    rw [serve]
    split <;> rfl
  | createInstance template =>
    rw [serve, create] at h ⊢
    split at h
    case isTrue hunknown => rw [if_pos hunknown]
    case isFalse => cases h
  | destroyInstance id =>
    rw [serve, destroy] at h ⊢
    split at h
    case h_1 => rfl
    case h_2 i hfound =>
      split at h
      case isTrue hdeleted => rw [if_pos hdeleted]
      case isFalse => cases h

/-- A read that is served leaves the store as it is. -/
theorem serve_eq_of_reads (h : request.Reads) : (store.serve request).2 = store := by
  cases request with
  | listGroups => rfl
  | getGroup id =>
    rw [serve]
    split <;> rfl
  | getInstance id =>
    rw [serve]
    split <;> rfl
  | createInstance template => exact h.elim
  | destroyInstance id => exact h.elim

/-- Stalled or not, a store serves a request alike as far as the reply goes. -/
theorem serve_setStalled (store : Store) (request : Request) (stalled : Bool) :
    (({ store with stalled } : Store).serve request).1 = (store.serve request).1 := by
  cases request with
  | listGroups => rfl
  | getGroup id =>
    have hgroup : ({ store with stalled } : Store).group? id = store.group? id := rfl
    rw [serve, serve, hgroup]
    cases store.group? id <;> rfl
  | getInstance id =>
    rw [serve, serve]
    cases store.instances.find? id <;> rfl
  | createInstance template =>
    have hgroup : ({ store with stalled } : Store).group? template.groupId =
        store.group? template.groupId := rfl
    rw [serve, serve, create, create, hgroup]
    split <;> rfl
  | destroyInstance id =>
    rw [serve, serve, destroy, destroy]
    cases store.instances.find? id with
    | none => rfl
    | some i =>
      dsimp only
      split <;> rfl

/-! ### Receiving -/

/-- Receiving a request leaves all but the counters and the plan intact. -/
theorem intact_receive (store : Store) (operation : Operation) :
    Intact store (store.receive operation).2 := ⟨rfl, rfl, rfl, rfl⟩

/-- Every request is counted. -/
theorem calls_respond (store : Store) (request : Request) :
    (respond request store).2.calls = store.calls.bump request.operation := by
  rcases respond_eq store request with ⟨error, hfailed⟩ | hserved
  · rw [hfailed]
    rfl
  · obtain ⟨_, _, _, hserve⟩ := exists_serve_eq (store.receive request.operation).2 request
    rw [hserved, hserve]
    rfl

/-- Stalled or not, the store gives the same reply. -/
theorem reply_setStalled (store : Store) (request : Request) (stalled : Bool) :
    (respond request { store with stalled }).1 = (respond request store).1 := by
  -- The plan meets the request before anything looks at the switch.
  cases hdue : (store.failures.meet request.operation).1 with
  | some error =>
    rw [respond_of_hit hdue]
    exact @respond_of_hit { store with stalled } request error hdue
  | none =>
    rw [respond_of_not_hit hdue, @respond_of_not_hit { store with stalled } request hdue]
    exact serve_setStalled (store.receive request.operation).2 request stalled

/-- A request leaves all but the counters and the plan intact if it is not served, or if serving it
changes nothing. -/
theorem intact_of_serve_eq
    (h : respond request store = (store.receive request.operation).2.serve request →
      ((store.receive request.operation).2.serve request).2 =
        (store.receive request.operation).2) :
    Intact store (respond request store).2 := by
  rcases respond_eq store request with ⟨error, hfailed⟩ | hserved
  · rw [hfailed]
    exact intact_receive store request.operation
  · rw [hserved, h hserved]
    exact intact_receive store request.operation

/-- Every request is framed. -/
theorem framed_respond (store : Store) (request : Request) :
    Framed store request (respond request store).1 (respond request store).2 where
  counted := fun operation => by
    rw [calls_respond, CallCounts.get_bump]
  failures := by
    rw [failures_respond]
    rcases FailurePlan.meet_cases request.operation store.failures with
      hmeet | ⟨front, due, back, hplan, hmeet⟩
    · rw [hmeet]
      exact .inl rfl
    · rw [hmeet]
      exact .inr ⟨front, due, back, hplan, rfl, respond_of_hit (congrArg Prod.fst hmeet)⟩
  intact_of_error := fun error herror => intact_of_serve_eq fun hserved =>
    serve_eq_of_error (hserved ▸ herror)
  intact_of_reads := fun hreads => intact_of_serve_eq fun _ => serve_eq_of_reads hreads
  kept_of_stalled := fun hstalled =>
    have hkept := (kept_of_stalled hstalled request).1
    ⟨hkept.groups, hkept.instances⟩
  reply_setStalled := reply_setStalled store request

end Store

end ElasticGroups.Cloud
