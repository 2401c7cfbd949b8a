import ElasticGroups.Cloud.Store
import ElasticGroups.Proofs.Session.Transcript

/-!
# What a request does to a store

Everything that one request can do to the content of a store, said once: it keeps the content, or
it launches an instance, or it retires one. Injected failures and a stalled store only take away
from what is done, so neither shows up here as a case of its own.

The module introduces:

* `Store.Kept before after` — the groups and the instances are the same, and no fewer names have
  been given out;
* `Store.Effect before request reply after` — what a request may do, together with its reply;
* `Request.Reads` — the requests that only read;
* `Store.Undisturbed store record` — no planned failure fires while the requests of the record are
  received.

Every served request has an effect (`Store.effect_respond`), and a read shows the content as it is
(`Store.group?_of_reply`, `Store.find?_of_reply`). Undisturbed reads are all served
(`Store.reply_eq_serve`), and a stalled store keeps its content (`Store.kept_of_stalled`).
-/

namespace ElasticGroups.Cloud

/-- The request only reads. -/
def Request.Reads : Request → Prop
  | .createInstance _ => False
  | .destroyInstance _ => False
  | _ => True

namespace Store

/-- The content is the same, and no fewer names have been given out. -/
structure Kept (before after : Store) : Prop where
  /-- The groups are the same. -/
  groups : after.groups = before.groups
  /-- The instances are the same. -/
  instances : after.instances = before.instances
  /-- Names are not taken back. -/
  created : before.created ≤ after.created

/-- A store keeps its own content. -/
theorem Kept.refl (store : Store) : Kept store store := ⟨rfl, rfl, Nat.le_refl _⟩

/-- What is kept twice is kept. -/
theorem Kept.trans {first second third : Store} (h : Kept first second) (h' : Kept second third) :
    Kept first third :=
  ⟨h'.groups.trans h.groups, h'.instances.trans h.instances, Nat.le_trans h.created h'.created⟩

/-- What a request does to the content of a store. -/
inductive Effect (before : Store) : (request : Request) → Reply request → Store → Prop
  /-- The content is kept. -/
  | kept {request : Request} {reply : Reply request} {after : Store} (h : Kept before after) :
      Effect before request reply after
  /-- An instance is launched, under the next name. -/
  | launched {template : LaunchTemplate} {after : Store}
      (hgroups : after.groups =
        (before.updateGroups template.groupIds
          (·.addMember (template.instantiate (newId (before.created + 1))).member)).groups)
      (hinstances : after.instances = before.instances.insert (newId (before.created + 1))
        (template.instantiate (newId (before.created + 1))))
      (hcreated : after.created = before.created + 1) :
      Effect before (.createInstance template) (.ok (newId (before.created + 1))) after
  /-- A live instance is retired. -/
  | retired {id : InstanceId} {i : Instance} {after : Store}
      (hfound : before.instances.find? id = some i) (hlive : i.isDeleted = false)
      (hgroups : after.groups = before.groups.map (·.dropMember id))
      (hinstances : after.instances = before.instances.insert id
        { i with status := "deleted", deletedAt := some before.clock })
      (hcreated : after.created = before.created) :
      Effect before (.destroyInstance id) (.ok ()) after

variable (store : Store)

/-- Creating an instance launches it, unless the group is unknown or the store is stalled. -/
theorem effect_create (template : LaunchTemplate) :
    Effect store (.createInstance template) (store.create template).1
      (store.create template).2 := by
  by_cases hgroup : (store.group? template.groupId).isNone = true
  · rw [create, if_pos hgroup]
    exact .kept (.refl store)
  · rw [create, if_neg hgroup]
    by_cases hstalled : store.stalled = true
    · -- A stalled store uses the name up all the same.
      dsimp only
      rw [if_pos hstalled]
      exact .kept ⟨rfl, rfl, Nat.le_succ _⟩
    · dsimp only
      rw [if_neg hstalled]
      exact .launched rfl rfl rfl

/-- Destroying an instance retires it, unless it is unknown, deleted already or the store is
stalled. -/
theorem effect_destroy (id : InstanceId) :
    Effect store (.destroyInstance id) (store.destroy id).1 (store.destroy id).2 := by
  rw [destroy]
  cases hfound : store.instances.find? id with
  | none => exact .kept (.refl store)
  | some i =>
    by_cases hdeleted : i.isDeleted = true
    · dsimp only
      rw [if_pos hdeleted]
      exact .kept (.refl store)
    · dsimp only
      rw [if_neg hdeleted]
      by_cases hstalled : store.stalled = true
      · rw [if_pos hstalled]
        exact .kept (.refl store)
      · rw [if_neg hstalled]
        exact .retired hfound (eq_false_of_ne_true hdeleted) rfl rfl rfl

/-- Serving a request has an effect. -/
theorem effect_serve (request : Request) :
    Effect store request (store.serve request).1 (store.serve request).2 := by
  cases request with
  | listGroups => exact .kept (.refl store)
  | getGroup id =>
    rw [serve]
    split <;> exact .kept (.refl store)
  | getInstance id =>
    rw [serve]
    split <;> exact .kept (.refl store)
  | createInstance template => exact effect_create store template
  | destroyInstance id => exact effect_destroy store id

/-- Serving a request changes the content, if anything at all: the groups, the instances and the names
that are used up. -/
theorem exists_serve_eq (request : Request) :
    ∃ groups instances created,
      (store.serve request).2 = { store with groups, instances, created } := by
  cases request with
  | listGroups => exact ⟨_, _, _, rfl⟩
  | getGroup id =>
    rw [serve]
    split <;> exact ⟨_, _, _, rfl⟩
  | getInstance id =>
    rw [serve]
    split <;> exact ⟨_, _, _, rfl⟩
  | createInstance template =>
    rw [serve, create]
    split
    · exact ⟨_, _, _, rfl⟩
    · dsimp only
      split <;> exact ⟨_, _, _, rfl⟩
  | destroyInstance id =>
    rw [serve, destroy]
    split
    · exact ⟨_, _, _, rfl⟩
    · split
      · exact ⟨_, _, _, rfl⟩
      · dsimp only
        split <;> exact ⟨_, _, _, rfl⟩

/-- Receiving a request keeps the content. -/
theorem kept_receive (operation : Operation) : Kept store (store.receive operation).2 :=
  ⟨rfl, rfl, Nat.le_refl _⟩

/-- A request that is received either meets a planned failure or is served. -/
theorem respond_eq (request : Request) :
    (∃ error, respond request store = (.error error, (store.receive request.operation).2)) ∨
      respond request store = (store.receive request.operation).2.serve request := by
  rw [respond]
  rcases store.receive request.operation with ⟨_ | error, received⟩
  · exact .inr rfl
  · exact .inl ⟨error, rfl⟩

/-- No request moves the switch or the clock. -/
theorem switches_respond (request : Request) :
    (respond request store).2.stalled = store.stalled ∧
      (respond request store).2.clock = store.clock := by
  rcases respond_eq store request with ⟨error, hfailed⟩ | hserved
  · rw [hfailed]
    exact ⟨rfl, rfl⟩
  · obtain ⟨_, _, _, hserve⟩ := exists_serve_eq (store.receive request.operation).2 request
    rw [hserved, hserve]
    exact ⟨rfl, rfl⟩

/-- Receiving a request keeps the content, so an effect behind it is an effect on the store. -/
theorem Effect.of_receive {store after : Store} {request : Request} {reply : Reply request}
    (h : Effect (store.receive request.operation).2 request reply after) :
    Effect store request reply after := by
  -- The store behind the receipt differs in its counters and its plan of failures only, which no
  -- effect mentions.
  cases h with
  | kept h => exact .kept ⟨h.groups, h.instances, h.created⟩
  | launched hgroups hinstances hcreated => exact .launched hgroups hinstances hcreated
  | retired hfound hlive hgroups hinstances hcreated =>
    exact .retired hfound hlive hgroups hinstances hcreated

/-- Every request to a store has an effect. -/
theorem effect_respond (request : Request) :
    Effect store request (respond request store).1 (respond request store).2 := by
  rcases respond_eq store request with ⟨error, hfailed⟩ | hserved
  · rw [hfailed]
    exact .kept (kept_receive store request.operation)
  · rw [hserved]
    exact (effect_serve _ request).of_receive

variable {store}

/-- A request that fails keeps the content. -/
theorem Effect.kept_of_error {after : Store} {request : Request} {error : ProviderError}
    (h : Effect store request (.error error) after) : Kept store after := by
  cases h with
  | kept h => exact h

/-! ### Reads -/

/-- A read keeps the content. -/
theorem Effect.kept_of_reads {after : Store} {request : Request} {reply : Reply request}
    (h : Effect store request reply after) (hreads : request.Reads) : Kept store after := by
  cases h with
  | kept h => exact h
  | launched => exact hreads.elim
  | retired => exact hreads.elim

/-- A reply that is an answer comes from serving the request. -/
theorem respond_eq_serve {request : Request} {answer : request.Answer}
    (h : (respond request store).1 = .ok answer) :
    ∃ received, Kept store received ∧ (received.serve request).1 = .ok answer := by
  rcases respond_eq store request with ⟨error, hfailed⟩ | hserved
  · rw [hfailed] at h
    cases h
  · rw [hserved] at h
    exact ⟨_, kept_receive store request.operation, h⟩

/-- A listing shows all groups. -/
theorem groups_of_reply {groups : List InstanceGroup}
    (h : (respond .listGroups store).1 = .ok groups) : groups = store.groups := by
  obtain ⟨received, hkept, hserve⟩ := respond_eq_serve h
  rw [serve] at hserve
  cases hserve
  exact hkept.groups

/-- A look-up of a group shows the group. -/
theorem group?_of_reply {id : GroupId} {group : InstanceGroup}
    (h : (respond (.getGroup id) store).1 = .ok group) : store.group? id = some group := by
  obtain ⟨received, hkept, hserve⟩ := respond_eq_serve h
  rw [group?, ← hkept.groups, ← group?]
  rw [serve] at hserve
  split at hserve
  case h_1 found hfound =>
    cases hserve
    exact hfound
  case h_2 => cases hserve

/-- A look-up of an instance shows its record. -/
theorem find?_of_reply {id : InstanceId} {i : Instance}
    (h : (respond (.getInstance id) store).1 = .ok i) : store.instances.find? id = some i := by
  obtain ⟨received, hkept, hserve⟩ := respond_eq_serve h
  rw [← hkept.instances]
  rw [serve] at hserve
  split at hserve
  case h_1 found hfound =>
    cases hserve
    exact hfound
  case h_2 => cases hserve

/-! ### Records -/

variable {after : Store} {record : List (Sigma Reply)}

/-- A request takes no names back. -/
theorem Effect.created_le {request : Request} {reply : Reply request}
    (h : Effect store request reply after) : store.created ≤ after.created := by
  cases h with
  | kept h => exact h.created
  | launched _ _ hcreated => omega
  | retired _ _ _ _ hcreated => omega

/-- No names are taken back over a whole record. -/
theorem created_le_of_gives (h : Responder.Gives respond store record after) :
    store.created ≤ after.created := by
  induction record generalizing store with
  | nil =>
    obtain rfl := h
    exact Nat.le_refl _
  | cons exchange rest ih =>
    exact Nat.le_trans (effect_respond store exchange.1).created_le (ih h.2)

/-- A record of reads keeps the content. -/
theorem kept_of_gives (h : Responder.Gives respond store record after)
    (hreads : ∀ exchange ∈ record, exchange.1.Reads) : Kept store after := by
  induction record generalizing store with
  | nil =>
    obtain rfl := h
    exact .refl _
  | cons exchange rest ih =>
    rw [List.forall_mem_cons] at hreads
    exact ((effect_respond store exchange.1).kept_of_reads hreads.1).trans (ih h.2 hreads.2)

/-! ### Requests that meet no failure -/

/-- No planned failure fires while a store receives the requests of a record. -/
def Undisturbed : Store → List (Sigma Reply) → Prop
  | _, [] => True
  | store, ⟨request, _⟩ :: rest =>
    (store.receive request.operation).1 = none ∧ Undisturbed (respond request store).2 rest

instance decidableUndisturbed : (store : Store) → (record : List (Sigma Reply)) →
    Decidable (Undisturbed store record)
  | _, [] => .isTrue trivial
  | store, ⟨request, _⟩ :: rest =>
    have := decidableUndisturbed (respond request store).2 rest
    inferInstanceAs (Decidable (_ ∧ _))

/-- Reads of the same content are served alike. -/
theorem serve_of_kept (hkept : Kept store after) {request : Request} (hreads : request.Reads) :
    (after.serve request).1 = (store.serve request).1 := by
  cases request with
  | listGroups =>
    rw [serve, serve, hkept.groups]
  | getGroup id =>
    rw [serve, serve, group?, group?, hkept.groups]
    split <;> rfl
  | getInstance id =>
    rw [serve, serve, hkept.instances]
    split <;> rfl
  | createInstance => exact hreads.elim
  | destroyInstance => exact hreads.elim

/-- Undisturbed reads are served, all from the content that the store has at first. -/
theorem reply_eq_serve (hgives : Responder.Gives respond store record after)
    (hquiet : Undisturbed store record) (hreads : ∀ exchange ∈ record, exchange.1.Reads) :
    ∀ exchange ∈ record, exchange.2 = (store.serve exchange.1).1 := by
  induction record generalizing store with
  | nil => exact List.forall_mem_nil _
  | cons exchange rest ih =>
    obtain ⟨request, reply⟩ := exchange
    obtain ⟨hreply, hrest⟩ := hgives
    rw [List.forall_mem_cons] at hreads ⊢
    constructor
    · have hserved : respond request store =
          (store.receive request.operation).2.serve request := by
        have hnone := hquiet.1
        rw [respond]
        generalize store.receive request.operation = met at hnone ⊢
        obtain ⟨due, received⟩ := met
        obtain rfl : due = none := hnone
        rfl
      rw [← hreply, hserved]
      exact serve_of_kept (kept_receive store request.operation) hreads.1
    · intro other hother
      have hkept := (effect_respond store request).kept_of_reads hreads.1
      rw [ih hrest hquiet.2 hreads.2 other hother]
      exact serve_of_kept hkept (hreads.2 other hother)

/-! ### Stalled stores -/

/-- A stalled store keeps its content at every request, and stays stalled. -/
theorem kept_of_stalled (hstalled : store.stalled = true) (request : Request) :
    Kept store (respond request store).2 ∧ (respond request store).2.stalled = true := by
  rcases respond_eq store request with ⟨error, hfailed⟩ | hserved
  · rw [hfailed]
    exact ⟨kept_receive store request.operation, hstalled⟩
  · rw [hserved]
    -- Only a creation or a destruction looks at the flag, and each of them then changes nothing.
    have hreceived : (store.receive request.operation).2.stalled = true := hstalled
    have hkept := kept_receive store request.operation
    generalize (store.receive request.operation).2 = received at hreceived hkept
    cases request with
    | listGroups => exact ⟨hkept, hreceived⟩
    | getGroup id =>
      rw [serve]
      split <;> exact ⟨hkept, hreceived⟩
    | getInstance id =>
      rw [serve]
      split <;> exact ⟨hkept, hreceived⟩
    | createInstance template =>
      rw [serve, create]
      split
      · exact ⟨hkept, hreceived⟩
      · dsimp only
        rw [if_pos hreceived]
        exact ⟨hkept.trans ⟨rfl, rfl, Nat.le_succ _⟩, hreceived⟩
    | destroyInstance id =>
      rw [serve, destroy]
      split
      · exact ⟨hkept, hreceived⟩
      · split
        · exact ⟨hkept, hreceived⟩
        · exact ⟨hkept, hreceived⟩

/-- A stalled store keeps its content over a whole record. -/
theorem kept_of_gives_of_stalled (hgives : Responder.Gives respond store record after)
    (hstalled : store.stalled = true) : Kept store after := by
  induction record generalizing store with
  | nil =>
    obtain rfl := hgives
    exact .refl _
  | cons exchange rest ih =>
    obtain ⟨hkept, hstill⟩ := kept_of_stalled hstalled exchange.1
    exact hkept.trans (ih hgives.2 hstill)

end Store

end ElasticGroups.Cloud
