import ElasticGroups.Cloud.Lagging
import ElasticGroups.Proofs.Cloud.Launching

/-!
# What a lagging view shows

A lagging view passes every request on to its store, so what happens to the store is what would
happen without the lag (`Lagging.store_respond`). Every creation hides its instance and starts the
count of the lag again (`Lagging.created_of_gives`); every look-up of a group that is answered lowers
the count, and once it is used up the look-ups show the group as it is (`Lagging.shown_of_gives`).
-/

namespace ElasticGroups.Cloud.Lagging

variable {view after : Lagging} {store : Store}

/-- The store behind a lagging view receives every request, and goes on as it would without the
view. -/
theorem store_respond (view : Lagging) (request : Request) :
    (respond request view).2.store = (Store.respond request view.store).2 := by
  rw [respond]
  generalize Store.respond request view.store = answered
  obtain ⟨reply, store⟩ := answered
  cases request with
  | listGroups => rfl
  | getGroup id =>
    cases reply with
    | error error => rfl
    | ok group =>
      dsimp only [showGroup]
      split <;> rfl
  | getInstance id =>
    cases reply with
    | error error => rfl
    | ok i =>
      dsimp only [showInstance]
      split <;> rfl
  | createInstance template => cases reply <;> rfl
  | destroyInstance id =>
    cases reply with
    | error error => rfl
    | ok =>
      dsimp only [noteDestroyed]
      split <;> rfl

/-! ### Creations -/

section Creations

variable {template : LaunchTemplate} {ids : List InstanceId}

/-- A creation is answered, or fails, as it is without the view. -/
theorem reply_createInstance (view : Lagging) (template : LaunchTemplate) :
    (respond (.createInstance template) view).1 =
      (Store.respond (.createInstance template) view.store).1 := by
  rw [respond]
  generalize Store.respond (.createInstance template) view.store = answered
  obtain ⟨_ | id, store⟩ := answered <;> rfl

/-- A creation that is answered hides its instance and starts the lag again. -/
theorem view_createInstance {id : InstanceId}
    (h : (respond (.createInstance template) view).1 = .ok id) :
    (respond (.createInstance template) view).2 =
      { view with
        store := (Store.respond (.createInstance template) view.store).2
        hidden := view.hidden ++ [id]
        hiddenFor := view.lag.create } := by
  rw [reply_createInstance] at h
  rw [respond]
  generalize Store.respond (.createInstance template) view.store = answered at h ⊢
  obtain ⟨reply, store⟩ := answered
  obtain rfl : reply = .ok id := h
  rfl

/-- The view after creations that are all answered: the new instances are hidden, and the lag starts
with the last of them. -/
theorem created_of_gives
    (h : Responder.Gives respond view (asked (.createInstance template) (ids.map .ok)) after) :
    Responder.Gives Store.respond view.store (asked (.createInstance template) (ids.map .ok))
        after.store ∧
      after.hidden = view.hidden ++ ids ∧
      (ids ≠ [] → after.hiddenFor = view.lag.create) := by
  induction ids generalizing view with
  | nil =>
    obtain rfl := h
    exact ⟨rfl, (List.append_nil _).symm, fun hne => (hne rfl).elim⟩
  | cons id ids ih =>
    obtain ⟨hreply, hrest⟩ := h
    have hview := view_createInstance hreply
    obtain ⟨hstore, hhidden, hlater⟩ := ih hrest
    rw [hview] at hstore hhidden hlater
    refine ⟨⟨(reply_createInstance view template).symm.trans hreply, hstore⟩, ?_, fun _ => ?_⟩
    · rw [hhidden, List.append_assoc, List.singleton_append]
    · -- The last creation is one of the others, or else the first, behind which nothing comes.
      cases ids with
      | cons next ids => exact hlater (List.cons_ne_nil _ _)
      | nil =>
        obtain rfl := hrest
        rw [hview]

/-- A view of a healthy store answers all creations for a group that the store has. -/
theorem not_gives_error {error : ProviderError} (hhealthy : view.store.Healthy)
    (hgroup : (view.store.group? template.groupId).isSome = true) :
    ¬ Responder.Gives respond view
      (asked (.createInstance template) (ids.map .ok ++ [.error error])) after := by
  induction ids generalizing view with
  | nil =>
    rintro ⟨hreply, -⟩
    obtain ⟨id, hid⟩ := hhealthy.exists_respond_createInstance hgroup
    rw [reply_createInstance, hid] at hreply
    cases hreply
  | cons id ids ih =>
    rintro ⟨-, hrest⟩
    refine ih ?_ ?_ hrest
    · rw [store_respond]
      exact hhealthy.respond _
    · rw [store_respond, Store.isSome_group?_respond]
      exact hgroup

end Creations

/-! ### Look-ups of groups -/

/-- Where nothing is hidden, a group shows all its members. -/
@[simp] theorem conceal_nil (group : InstanceGroup) : conceal [] group = group := by
  simp [conceal]

/-- While new instances are hidden, the group that they have come to shows no more members than it
had before them. -/
theorem size_conceal_join_le (template : LaunchTemplate) (ids : List InstanceId)
    (group : InstanceGroup) : (conceal ids (template.join ids group)).size ≤ group.size := by
  have hnew : (ids.map fun id => (template.instantiate id).member).filter
      (fun m => !ids.contains m.id) = [] := by
    rw [List.filter_eq_nil_iff, List.forall_mem_map]
    intro id hid
    simpa [LaunchTemplate.instantiate, Instance.member] using hid
  rw [LaunchTemplate.join]
  split
  · dsimp only [conceal, InstanceGroup.size]
    rw [List.filter_append, hnew, List.append_nil]
    exact List.length_filter_le _ _
  · exact List.length_filter_le _ _

/-- A look-up of a group that is answered shows the group, without its hidden members as long as the
lag lasts. -/
theorem respond_getGroup {id : GroupId} {group : InstanceGroup}
    (h : Store.respond (.getGroup id) view.store = (.ok group, store)) :
    respond (.getGroup id) view =
      (.ok (if 0 < view.hiddenFor then conceal view.hidden group else group),
        { view with
          store
          hidden := if 0 < view.hiddenFor then view.hidden else []
          hiddenFor := view.hiddenFor - 1 }) := by
  rw [respond, h]
  dsimp only [showGroup]
  by_cases hused : view.hiddenFor = 0
  · simp [hused]
  · simp [hused, Nat.pos_of_ne_zero hused]

/-- One look-up after the other, a group is shown without its hidden members until the lag is used
up, and in full after that. The store behind the view only counts the look-ups. -/
theorem shown_of_gives {id : GroupId} {group : InstanceGroup}
    {replies : List (Except ProviderError InstanceGroup)}
    (h : Responder.Gives respond view (asked (.getGroup id) replies) after)
    (hhealthy : view.store.Healthy) (hgroup : view.store.group? id = some group) :
    (∃ calls, after.store = { view.store with calls }) ∧ ∀ k (hk : k < replies.length),
      replies[k] = .ok (if k < view.hiddenFor then conceal view.hidden group else group) := by
  -- The induction is on the look-ups; each of them leaves one less to the lag.
  induction replies generalizing view with
  | nil =>
    obtain rfl := h
    exact ⟨⟨_, rfl⟩, nofun⟩
  | cons reply replies ih =>
    obtain ⟨hreply, hrest⟩ := h
    have hview := respond_getGroup (hhealthy.respond_getGroup hgroup)
    rw [hview] at hreply hrest
    obtain ⟨hstore, hshown⟩ := ih hrest ⟨hhealthy.stalled, hhealthy.failures⟩ hgroup
    refine ⟨hstore, fun k hk => ?_⟩
    cases k with
    | zero => exact hreply.symm
    | succ k =>
      rw [List.getElem_cons_succ, hshown]
      dsimp only
      -- What is hidden matters only while the lag lasts.
      by_cases hlasts : k + 1 < view.hiddenFor
      · rw [if_pos hlasts, if_pos (by omega), if_pos (by omega)]
      · rw [if_neg hlasts, if_neg (by omega)]

end ElasticGroups.Cloud.Lagging
