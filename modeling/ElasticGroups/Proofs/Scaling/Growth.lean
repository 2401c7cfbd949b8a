import ElasticGroups.Proofs.Scaling.Requests

/-!
# Growth within the bound

What a node group asks while it grows, for every provider. Nothing is assumed about the replies:
they may fail, contradict each other or show the past.

The module introduces, each as a relation between what is asked and replied and the outcome:

* `Arrival` — the wait for a group to have a desired size;
* `Growth` — an increase of the size: the size is read, instances are created up to the first
  failure, and their arrival is awaited.

Every transcript of `NodeGroup.increaseSize` is a growth (`growth_of_increaseSize`). A creation that
fails is the last that it asks (`Growth.refused_of_mem`). Once all instances are created, it
succeeds exactly when the group is seen at the desired size (`Growth.ok_iff`).
-/

namespace ElasticGroups.Scaling

open Cloud Session

/-- The wait for a group to have a desired size, with at most `limit` look-ups of the group, after
the last of which `total` has been waited. -/
inductive Arrival (g : NodeGroup) (limit : Nat) (total : Duration) (desired : Nat) :
    List (Except ProviderError InstanceGroup) → Except NodeGroupError Unit → Prop
  /-- A look-up shows the desired size. -/
  | reached {earlier : List InstanceGroup} {last : InstanceGroup}
      (hearlier : ∀ group ∈ earlier, group.size < desired) (hlimit : earlier.length < limit)
      (hlast : desired ≤ last.size) :
      Arrival g limit total desired (earlier.map .ok ++ [.ok last]) (.ok ())
  /-- A look-up fails. -/
  | lost {earlier : List InstanceGroup} {error : ProviderError}
      (hearlier : ∀ group ∈ earlier, group.size < desired) (hlimit : earlier.length < limit) :
      Arrival g limit total desired (earlier.map .ok ++ [.error error])
        (.error (.provider error))
  /-- All look-ups show a smaller size. -/
  | overdue {groups : List InstanceGroup} (hgroups : ∀ group ∈ groups, group.size < desired)
      (hlimit : groups.length = limit) :
      Arrival g limit total desired (groups.map .ok)
        (.error (.convergenceTimeout g.id (.size desired) total))

/-- An increase of the size, up to the first step that fails. -/
inductive Growth (g : NodeGroup) (limit : Nat) (total : Duration) (delta : Int) :
    List (Sigma Reply) → Except NodeGroupError Unit → Prop
  /-- The increase is none. -/
  | notPositive (hdelta : delta ≤ 0) :
      Growth g limit total delta [] (.error (.invalidDelta delta .increase))
  /-- The size cannot be read. -/
  | sizeUnknown (hdelta : 0 < delta) (error : ProviderError) :
      Growth g limit total delta [⟨.getGroup g.id, .error error⟩] (.error (.provider error))
  /-- The group would grow beyond its greatest size. -/
  | tooLarge {group : InstanceGroup} (hdelta : 0 < delta)
      (hmax : (g.bounds.max : Int) < group.size + delta) :
      Growth g limit total delta [⟨.getGroup g.id, .ok group⟩]
        (.error (.maxSizeExceeded (group.size + delta.toNat) g.bounds.max))
  /-- A creation fails, after fewer than all of them. -/
  | refused {group : InstanceGroup} {ids : List InstanceId} {error : ProviderError}
      (hdelta : 0 < delta) (hmax : group.size + delta ≤ g.bounds.max) (hids : ids.length < delta) :
      Growth g limit total delta
        (⟨.getGroup g.id, .ok group⟩ ::
          asked (.createInstance g.template) (ids.map .ok ++ [.error error]))
        (.error (.provider error))
  /-- All instances are created, and their arrival is awaited. -/
  | created {group : InstanceGroup} {ids : List InstanceId}
      {replies : List (Except ProviderError InstanceGroup)} {outcome : Except NodeGroupError Unit}
      (hdelta : 0 < delta) (hmax : group.size + delta ≤ g.bounds.max) (hids : ids.length = delta)
      (harrival : Arrival g limit total (group.size + delta.toNat) replies outcome) :
      Growth g limit total delta
        (⟨.getGroup g.id, .ok group⟩ ::
          (asked (.createInstance g.template) (ids.map .ok) ++ asked (.getGroup g.id) replies))
        outcome

variable {g : NodeGroup} {clock : Clock} {limit : Nat} {total : Duration} {delta : Int}
  {record : List (Sigma Reply)} {outcome : Except NodeGroupError Unit}

/-- A wait for a size makes no more look-ups than its limit allows. -/
theorem Arrival.length_le {desired : Nat} {replies : List (Except ProviderError InstanceGroup)}
    (h : Arrival g limit total desired replies outcome) : replies.length ≤ limit := by
  cases h with
  | reached _ hlimit _ => simpa [Nat.succ_le_iff] using hlimit
  | lost _ hlimit => simpa [Nat.succ_le_iff] using hlimit
  | overdue _ hlimit => simpa using hlimit.le

/-! ### The transcripts of the operations -/

/-- Replies that all leave the wait for a size going are groups of a smaller size. -/
theorem exists_groups_of_sizeVerdict {desired : Nat}
    {replies : List (Except ProviderError InstanceGroup)}
    (h : ∀ reply ∈ replies, NodeGroup.sizeVerdict desired reply = .ok false) :
    ∃ groups : List InstanceGroup, replies = groups.map .ok ∧
      ∀ group ∈ groups, group.size < desired := by
  induction replies with
  | nil => exact ⟨[], rfl, by simp⟩
  | cons reply replies ih =>
    rw [List.forall_mem_cons] at h
    obtain ⟨groups, rfl, hgroups⟩ := ih h.2
    cases reply with
    | error error => simp [NodeGroup.sizeVerdict] at h
    | ok group =>
      refine ⟨group :: groups, rfl, List.forall_mem_cons.mpr ⟨?_, hgroups⟩⟩
      simpa [NodeGroup.sizeVerdict] using h.1

/-- The wait for a size is a wait for its arrival. -/
theorem arrival_of_waitFor {desired : Nat}
    (hpace : 0 < (clock.lasting g.convergence.interval).nanos)
    (h : (g.waitFor (.size desired) do
      let size ← g.targetSize
      return size ≥ desired).run.Transcript clock record outcome) :
    ∃ replies, record = asked (.getGroup g.id) replies ∧
      Arrival g (g.convergence.observations clock) (g.convergence.patience clock) desired
        replies outcome := by
  obtain ⟨replies, result, hrecord, hwatch, rfl⟩ :=
    NodeGroup.watch_of_waitFor hpace (g.run_observeSize desired) h
  refine ⟨replies, hrecord, ?_⟩
  -- The three ends of the watch are those of the arrival, with verdicts read as groups.
  cases hwatch with
  | @held earlier last hearlier hlimit hlast =>
    obtain ⟨groups, rfl, hgroups⟩ := exists_groups_of_sizeVerdict hearlier
    cases last with
    | error error => simp [NodeGroup.sizeVerdict] at hlast
    | ok group =>
      exact .reached hgroups (by simpa using hlimit) (by simpa [NodeGroup.sizeVerdict] using hlast)
  | @failed earlier last error hearlier hlimit hlast =>
    obtain ⟨groups, rfl, hgroups⟩ := exists_groups_of_sizeVerdict hearlier
    cases last with
    | ok group => simp [NodeGroup.sizeVerdict] at hlast
    | error error =>
      obtain rfl : NodeGroupError.provider error = _ := by
        simpa [NodeGroup.sizeVerdict] using hlast
      exact .lost hgroups (by simpa using hlimit)
  | timedOut hreplies hlimit =>
    obtain ⟨groups, rfl, hgroups⟩ := exists_groups_of_sizeVerdict hreplies
    exact .overdue hgroups (by simpa using hlimit)

/-- Instances are created up to the first failure, and no more than were wanted. -/
theorem transcript_createInstances {count : Nat}
    (h : (g.createInstances count).run.Transcript clock record outcome) :
    ∃ ids : List InstanceId,
      (ids.length = count ∧ record = asked (.createInstance g.template) (ids.map .ok) ∧
        outcome = .ok ()) ∨
      ∃ error, ids.length < count ∧
        record = asked (.createInstance g.template) (ids.map .ok ++ [.error error]) ∧
          outcome = .error (.provider error) := by
  -- The induction is on the creations that are left; the first of them may fail, or else the
  -- others follow it.
  induction count generalizing record with
  | zero =>
    obtain ⟨rfl, rfl⟩ := h
    exact ⟨[], .inl ⟨rfl, rfl, rfl⟩⟩
  | succ count ih =>
    rcases Attempt.transcript_call_bind.mp h with ⟨error, rfl, rfl⟩ | ⟨id, rest, rfl, hrest⟩
    · exact ⟨[], .inr ⟨error, Nat.succ_pos _, rfl, rfl⟩⟩
    · obtain ⟨ids, ⟨hids, rfl, rfl⟩ | ⟨error, hids, rfl, rfl⟩⟩ := ih hrest
      · exact ⟨id :: ids, .inl ⟨congrArg (· + 1) hids, rfl, rfl⟩⟩
      · exact ⟨id :: ids, .inr ⟨error, Nat.succ_lt_succ hids, rfl, rfl⟩⟩

/-- Every transcript of an increase of the size is a growth. -/
theorem growth_of_increaseSize
    (hpace : 0 < (clock.lasting g.convergence.interval).nanos)
    (h : (g.increaseSize delta).run.Transcript clock record outcome) :
    Growth g (g.convergence.observations clock) (g.convergence.patience clock) delta
      record outcome := by
  simp only [NodeGroup.increaseSize] at h
  split at h
  case isTrue hdelta =>
    obtain ⟨rfl, rfl⟩ := h
    exact .notPositive hdelta
  case isFalse hdelta =>
    have hdelta := Int.lt_of_not_ge hdelta
    rw [NodeGroup.transcript_targetSize_bind] at h
    rcases h with ⟨error, rfl, rfl⟩ | ⟨group, record, rfl, h⟩
    · exact .sizeUnknown hdelta error
    · split at h
      case isTrue hmax =>
        obtain ⟨rfl, rfl⟩ := h
        exact .tooLarge hdelta (by omega)
      case isFalse hmax =>
        -- The group is admitted: creations follow, and the wait only when none of them has failed.
        have hfits : group.size + delta ≤ g.bounds.max := by omega
        rw [transcript_exceptT_bind] at h
        rcases h with ⟨e, hcreate, rfl⟩ | ⟨first, later, ⟨⟩, rfl, hcreate, hwait⟩
        · obtain ⟨ids, ⟨-, -, hok⟩ | ⟨error, hids, rfl, herror⟩⟩ :=
            transcript_createInstances hcreate
          · cases hok
          · cases herror
            exact .refused hdelta hfits (by omega)
        · obtain ⟨ids, ⟨hids, rfl, -⟩ | ⟨error, -, -, herror⟩⟩ :=
            transcript_createInstances hcreate
          · obtain ⟨replies, rfl, harrival⟩ := arrival_of_waitFor hpace hwait
            exact .created hdelta hfits (by omega) harrival
          · cases herror

/-- A creation that fails is the last that a growth asks, and its error is the outcome. -/
theorem Growth.refused_of_mem {template : LaunchTemplate} {error : ProviderError}
    (h : Growth g limit total delta record outcome)
    (hfailed : ⟨.createInstance template, .error error⟩ ∈ record) :
    0 < delta ∧ ∃ (group : InstanceGroup) (ids : List InstanceId),
      group.size + delta ≤ g.bounds.max ∧
        record = ⟨.getGroup g.id, .ok group⟩ ::
          asked (.createInstance g.template) (ids.map .ok ++ [.error error]) ∧
        outcome = .error (.provider error) := by
  cases h with
  | notPositive => simp at hfailed
  | sizeUnknown => simp at hfailed
  | tooLarge => simp at hfailed
  | @refused group ids error' hdelta hmax hids =>
    -- Of the creations, only the last fails.
    obtain ⟨-, rfl⟩ : template = g.template ∧ error = error' := by simpa [asked] using hfailed
    exact ⟨hdelta, group, ids, hmax, rfl, rfl⟩
  | created => simp [asked] at hfailed

/-! ### Success -/

/-- One of the answers shows the size, and no answer before it is a failure. -/
def Seen (desired : Nat) (answers : List (Except ProviderError InstanceGroup)) : Prop :=
  ∃ (earlier : List InstanceGroup) (last : InstanceGroup)
    (rest : List (Except ProviderError InstanceGroup)),
    answers = earlier.map .ok ++ .ok last :: rest ∧ desired ≤ last.size

variable {desired : Nat} {answers : List (Except ProviderError InstanceGroup)}

theorem not_seen_nil : ¬ Seen desired [] := by
  simp [Seen]

theorem not_seen_error {error : ProviderError} : ¬ Seen desired (.error error :: answers) := by
  rintro ⟨_ | ⟨group, earlier⟩, last, rest, h, -⟩ <;> simp at h

/-- A group that shows the size is enough, and one that does not is passed over. -/
theorem seen_ok {group : InstanceGroup} :
    Seen desired (.ok group :: answers) ↔ desired ≤ group.size ∨ Seen desired answers := by
  constructor
  · rintro ⟨_ | ⟨first, earlier⟩, last, rest, h, hsize⟩
    · obtain ⟨⟨rfl⟩, -⟩ := List.cons.inj h
      exact .inl hsize
    · obtain ⟨-, rfl⟩ := List.cons.inj h
      exact .inr ⟨earlier, last, rest, rfl, hsize⟩
  · rintro (hsize | ⟨earlier, last, rest, rfl, hsize⟩)
    · exact ⟨[], group, answers, rfl, hsize⟩
    · exact ⟨group :: earlier, last, rest, rfl, hsize⟩

/-- Groups of a smaller size are passed over. -/
theorem seen_append {groups : List InstanceGroup} (h : ∀ group ∈ groups, group.size < desired) :
    Seen desired (groups.map .ok ++ answers) ↔ Seen desired answers := by
  induction groups with
  | nil => rfl
  | cons group groups ih =>
    rw [List.forall_mem_cons] at h
    rw [List.map_cons, List.cons_append, seen_ok, ih h.2]
    exact or_iff_right (Nat.not_le_of_lt h.1)

/-- A wait for a size succeeds exactly when the size is seen in the answers that it could get
within its limit. -/
theorem Arrival.ok_iff {replies : List (Except ProviderError InstanceGroup)}
    (h : Arrival g limit total desired replies outcome) (hheard : replies <+: answers)
    (hlimit : answers.length = limit) : outcome = .ok () ↔ Seen desired answers := by
  obtain ⟨unheard, rfl⟩ := hheard
  cases h with
  | reached hearlier _ hlast =>
    rw [List.append_assoc, seen_append hearlier]
    exact iff_of_true rfl (seen_ok.mpr (.inl hlast))
  | lost hearlier _ =>
    rw [List.append_assoc, seen_append hearlier]
    exact iff_of_false (by simp) not_seen_error
  | overdue hgroups hreplies =>
    -- Nothing is left unheard when all observations are made.
    have hunheard : unheard = [] := by
      rw [List.length_append, List.length_map] at hlimit
      exact List.eq_nil_of_length_eq_zero (by omega)
    rw [seen_append hgroups, hunheard]
    exact iff_of_false (by simp) not_seen_nil

/-- A growth whose creations all succeed is successful exactly when the new size is seen in the
answers that the provider has for it within the limit. -/
theorem Growth.ok_iff {σ : Type} {respond : Responder Reply σ} {state middle final last : σ}
    {group : InstanceGroup} {ids : List InstanceId}
    (h : Growth g limit total delta record outcome) (hgives : respond.Gives state record final)
    (hdelta : 0 < delta) (hmax : group.size + delta ≤ g.bounds.max) (hids : ids.length = delta)
    (hcreated : respond.Gives state
      (⟨.getGroup g.id, .ok group⟩ :: asked (.createInstance g.template) (ids.map .ok)) middle)
    (hanswers : respond.Gives middle (asked (.getGroup g.id) answers) last)
    (hlimit : answers.length = limit) :
    outcome = .ok () ↔ Seen (group.size + delta.toNat) answers := by
  -- The provider leaves no choice of the size, nor of the creations, so only a growth with all
  -- creations remains, and its wait hears what the provider has.
  obtain ⟨hsize, hcreated⟩ := hcreated
  cases h with
  | notPositive hdelta' => omega
  | sizeUnknown _ error =>
    cases hsize.symm.trans hgives.1
  | tooLarge _ hlarge =>
    cases hsize.symm.trans hgives.1
    omega
  | @refused group' ids' error _ _ hids' =>
    -- The failed creation would be one of those that succeed.
    have hheard := hgives.2.asked_isPrefix hcreated (by simp; omega)
    have hfailed : Except.error error ∈ ids.map .ok := hheard.subset (by simp)
    simp at hfailed
  | @created group' ids' replies _ _ _ hids' harrival =>
    cases hsize.symm.trans hgives.1
    obtain ⟨middle', hcreated', hreplies⟩ := Responder.gives_append.mp hgives.2
    have hsame := (hcreated'.asked_isPrefix hcreated (by simp; omega)).eq_of_length (by simp; omega)
    rw [hsame] at hcreated'
    cases hcreated'.unique hcreated
    refine harrival.ok_iff (hreplies.asked_isPrefix hanswers ?_) hlimit
    exact harrival.length_le.trans hlimit.ge

end ElasticGroups.Scaling
