import ElasticGroups.Proofs.Discovery.Consensus

/-!
# Consensus by precedence

What the votes of a group come to when a conflict leaves the value held. Of the values of the highest
standing the first one that is heard wins, however often it is heard and whatever was passed over
before it.

The module introduces:

* `Foremost heard held` — what is held is the first candidate of the highest standing that is heard;
* `Attribute.Best members i` — a member reports a value of the attribute, and none reports one of a
  higher standing;
* `Preference members result` — the consensus as a relation: without members there is none, nor
  without a type or an image; else the first type counts, the image of the first member among those
  with the best one, and a zone if it is the only one.

A vote that keeps what it holds never fails, and holds what is foremost among the candidates heard
(`Foremost.offer`). So the consensus is the preference, and where conflicts are rejected without one
coming up, it is the same (`ofMembers_keepFirst_iff`).
-/

namespace ElasticGroups.Discovery

open Cloud

/-- What is held is the first candidate of the highest standing that is heard. -/
def Foremost (heard : List Candidate) : Option Candidate → Prop
  | none => heard = []
  | some best => ∃ before after, heard = before ++ best :: after ∧
      (∀ c ∈ before, c.standing.rank < best.standing.rank) ∧
      ∀ c ∈ after, c.standing.rank ≤ best.standing.rank

/-- A member reports a value of the attribute, and none reports one of a higher standing. -/
def Attribute.Best (subject : Attribute) (members : List Instance) (i : Instance) : Prop :=
  (subject.reported i).value ≠ "" ∧ ∀ j ∈ members, (subject.reported j).value ≠ "" →
    (subject.reported j).standing.rank ≤ (subject.reported i).standing.rank

instance (subject : Attribute) (members : List Instance) (i : Instance) :
    Decidable (subject.Best members i) :=
  inferInstanceAs (Decidable (_ ∧ _))

/-- The consensus of members, when conflicts keep the value held. -/
inductive Preference (members : List Instance) : Except ConsensusError LaunchAttributes → Prop
  /-- There are no members. -/
  | noMembers (hmembers : members = []) : Preference members (.error .noMembers)
  /-- No member reports a type. -/
  | noType (hmembers : members ≠ []) (htype : ∀ i ∈ members, i.instanceType = "") :
      Preference members (.error (.unresolved .instanceType))
  /-- No member reports an image. -/
  | noImage (htype : ∃ i ∈ members, i.instanceType ≠ "") (himage : ∀ i ∈ members, i.image.id = "") :
      Preference members (.error (.unresolved .image))
  /-- The first type counts, and the image of the first member among those with the best one. -/
  | settled {attributes : LaunchAttributes} {typed imaged : Instance}
      (htyped : members.find? (fun i => i.instanceType ≠ "") = some typed)
      (htype : attributes.instanceType = typed.instanceType)
      (himaged : members.find? (fun i => i.image.id ≠ "" ∧ ∀ j ∈ members, j.image.id ≠ "" →
        j.image.status.rank ≤ i.image.status.rank) = some imaged)
      (himage : attributes.imageId = imaged.image.id)
      (hzone : ∀ zone, attributes.zoneId = some zone ↔ OneZone members zone) :
      Preference members (.ok attributes)

variable {subject : Attribute} {members : List Instance} {i : Instance}

/-- All types have one standing, so every type that is reported is among the best. -/
@[simp]
theorem best_instanceType_iff :
    Attribute.instanceType.Best members i ↔ i.instanceType ≠ "" := by
  simp [Attribute.Best, Attribute.reported]

/-! ### The value that a vote holds -/

section Votes

variable {heard : List Candidate} {best next : Candidate} {held : Option Candidate}

/-- A candidate of a higher standing than the foremost one is foremost next. -/
theorem Foremost.replace (h : Foremost heard (some best))
    (hrank : best.standing.rank < next.standing.rank) :
    Foremost (heard ++ [next]) (some next) := by
  obtain ⟨before, after, rfl, hbefore, hafter⟩ := h
  refine ⟨before ++ best :: after, [], rfl, fun c hc => ?_, by simp⟩
  simp only [List.mem_append, List.mem_cons] at hc
  rcases hc with hc | rfl | hc
  · exact (hbefore c hc).trans hrank
  · exact hrank
  · exact (hafter c hc).trans_lt hrank

/-- A candidate of no higher standing leaves the foremost one where it is. -/
theorem Foremost.keep (h : Foremost heard (some best))
    (hrank : next.standing.rank ≤ best.standing.rank) :
    Foremost (heard ++ [next]) (some best) := by
  obtain ⟨before, after, rfl, hbefore, hafter⟩ := h
  refine ⟨before, after ++ [next], by simp, hbefore, fun c hc => ?_⟩
  rcases List.mem_append.mp hc with hc | hc
  · exact hafter c hc
  · rwa [List.mem_singleton.mp hc]

/-- What a vote that keeps what it holds does with a candidate that is not empty. -/
theorem Foremost.offer (h : Foremost heard held) (hnext : next.value ≠ "") :
    ∃ held', Candidate.offer .keepFirst subject held next = .ok held' ∧
      Foremost (heard ++ [next]) held' := by
  unfold Candidate.offer
  rw [if_neg hnext]
  cases held with
  | none =>
    obtain rfl : heard = [] := h
    exact ⟨some next, rfl, [], [], by simp⟩
  | some best =>
    dsimp only
    -- Whether the values are the same makes no difference: only the standing moves the vote.
    rcases Nat.lt_or_ge best.standing.rank next.standing.rank with hlt | hge
    · refine ⟨some next, ?_, h.replace hlt⟩
      rw [if_pos hlt, if_pos hlt, ite_self]
    · refine ⟨some best, ?_, h.keep hge⟩
      rw [if_neg (Nat.not_lt_of_ge hge), if_neg (Nat.not_lt_of_ge hge), ite_self, ite_self]

end Votes

/-- What a vote that keeps what it holds does with what one more member reports. -/
theorem Foremost.hear {held : Option Candidate} (h : Foremost (subject.heard members) held)
    (i : Instance) :
    ∃ held', Candidate.offer .keepFirst subject held (subject.reported i) = .ok held' ∧
      Foremost (subject.heard (members ++ [i])) held' := by
  rw [heard_concat]
  by_cases hempty : (subject.reported i).value = ""
  · rw [if_pos hempty, List.append_nil, Candidate.offer.eq_def, if_pos hempty]
    exact ⟨held, rfl, h⟩
  · rw [if_neg hempty]
    exact h.offer hempty

/-- The foremost candidate is what the first member reports among those with the best value. -/
theorem Foremost.exists_find? {best : Candidate} (h : Foremost (subject.heard members) (some best)) :
    ∃ i, members.find? (subject.Best members ·) = some i ∧ subject.reported i = best := by
  obtain ⟨before, after, hheard, hbefore, hafter⟩ := h
  have htop : ∀ c ∈ subject.heard members, c.standing.rank ≤ best.standing.rank := by
    rw [hheard]
    intro c hc
    simp only [List.mem_append, List.mem_cons] at hc
    rcases hc with hc | rfl | hc
    · exact (hbefore c hc).le
    · exact le_rfl
    · exact hafter c hc
  -- Among the candidates it is the first that no other stands above.
  have hfirst : (subject.heard members).find?
      (fun c => ∀ other ∈ subject.heard members, other.standing.rank ≤ c.standing.rank) =
        some best := by
    refine List.find?_eq_some_iff_append.mpr ⟨by simpa using htop, before, after, hheard, ?_⟩
    intro c hc
    have hbest : best ∈ subject.heard members := by simp [hheard]
    simpa using ⟨best, hbest, hbefore c hc⟩
  -- The candidates are what the members report, in their order.
  have hreported := hfirst
  rw [Attribute.heard, List.find?_filter, List.find?_map, Option.map_eq_some_iff] at hreported
  obtain ⟨i, hi, rfl⟩ := hreported
  refine ⟨i, ?_, rfl⟩
  rw [← hi]
  refine congrArg (List.find? · members) (funext fun j => ?_)
  show decide (subject.Best members j) = _
  rw [Bool.eq_iff_iff, decide_eq_true_iff]
  simp [Attribute.Best]

/-! ### All votes -/

/-- What a ballot that keeps what it holds has come to, told by the members heard. -/
structure Ballot.Leading (members : List Instance) (ballot : Ballot) : Prop where
  /-- The type and the image held are the foremost ones. -/
  foremost : ∀ subject : Attribute, Foremost (subject.heard members) (ballot.held subject)
  /-- The zone held is the one reported. -/
  zone : ballot.zone.Of (zonesHeard members)

namespace Ballot

variable {ballot : Ballot}

/-- One more member is heard in any case. -/
theorem Leading.hear (h : ballot.Leading members) (i : Instance) :
    ∃ ballot', Ballot.hear .keepFirst ballot i = .ok ballot' ∧ ballot'.Leading (members ++ [i]) := by
  obtain ⟨type, htype, htypeForemost⟩ := (h.foremost .instanceType).hear i
  obtain ⟨image, himage, himageForemost⟩ := (h.foremost .image).hear i
  refine ⟨⟨type, image, ballot.zone.offer i.zoneId⟩, ?_, ?_, h.zone.hear i⟩
  · exact hear_eq_ok_iff.mpr ⟨fun | .instanceType => htype | .image => himage, rfl⟩
  · exact fun | .instanceType => htypeForemost | .image => himageForemost

/-- All members are heard. -/
theorem leading_of_foldlM (members : List Instance) :
    ∃ ballot, members.foldlM (hear .keepFirst) {} = .ok ballot ∧ ballot.Leading members := by
  -- The induction is on the members from the last one on, since the first ones are heard first.
  induction members using List.reverseRecOn with
  | nil => exact ⟨{}, rfl, fun | .instanceType => rfl | .image => rfl, rfl⟩
  | append_singleton members i ih =>
    obtain ⟨ballot, hballot, hleading⟩ := ih
    rw [foldlM_hear_concat, hballot]
    exact hleading.hear i

/-- What the votes of members settle on. -/
theorem Leading.preference (h : ballot.Leading members) (hmembers : members ≠ []) :
    Preference members ballot.settle := by
  have htype := h.foremost .instanceType
  have himage := h.foremost .image
  have hzone : ∀ zone, ballot.zone.zone? = some zone ↔ OneZone members zone := by
    intro zone
    rw [h.zone.zone?_eq_some_iff, oneZone_iff]
  obtain ⟨type, image, zone⟩ := ballot
  cases type with
  | none => exact .noType hmembers (heard_eq_nil_iff.mp htype)
  | some type =>
    obtain ⟨typed, htyped, rfl⟩ := htype.exists_find?
    cases image with
    | none =>
      refine .noImage ⟨typed, List.mem_of_find?_eq_some htyped, ?_⟩ (heard_eq_nil_iff.mp himage)
      simpa using List.find?_some htyped
    | some image =>
      obtain ⟨imaged, himaged, rfl⟩ := himage.exists_find?
      exact .settled (by simpa using htyped) rfl himaged rfl hzone

end Ballot

/-- Members have one consensus only. -/
theorem Preference.unique {result result' : Except ConsensusError LaunchAttributes}
    (h : Preference members result) (h' : Preference members result') : result = result' := by
  -- Two results of different kinds do not go together: a member would report what none reports.
  cases h with
  | noMembers hmembers =>
    subst hmembers
    cases h' with
    | noMembers => rfl
    | noType hmembers => exact absurd rfl hmembers
    | noImage htype => simp at htype
    | settled htyped => simp at htyped
  | noType hmembers hnone =>
    cases h' with
    | noMembers hmembers' => exact absurd hmembers' hmembers
    | noType => rfl
    | noImage htype =>
      obtain ⟨i, hi, htype⟩ := htype
      exact absurd (hnone i hi) htype
    | settled htyped =>
      have hreported := hnone _ (List.mem_of_find?_eq_some htyped)
      simpa [hreported] using List.find?_some htyped
  | noImage htype hnone =>
    obtain ⟨i, hi, htype⟩ := htype
    cases h' with
    | noMembers hmembers => simp [hmembers] at hi
    | noType _ hnoType => exact absurd (hnoType i hi) htype
    | noImage => rfl
    | settled _ _ himaged =>
      have hreported := hnone _ (List.mem_of_find?_eq_some himaged)
      simpa [hreported] using List.find?_some himaged
  | @settled attributes typed imaged htyped htype himaged himage hzone =>
    have htypedMem := List.mem_of_find?_eq_some htyped
    cases h' with
    | noMembers hmembers => simp [hmembers] at htypedMem
    | noType _ hnone =>
      simpa [hnone typed htypedMem] using List.find?_some htyped
    | noImage _ hnone =>
      have hreported := hnone imaged (List.mem_of_find?_eq_some himaged)
      simpa [hreported] using List.find?_some himaged
    | @settled attributes' typed' imaged' htyped' htype' himaged' himage' hzone' =>
      -- The same member has the first type, the same one the best image, and the zone is the same.
      obtain rfl : typed = typed' := Option.some.inj (htyped.symm.trans htyped')
      obtain rfl : imaged = imaged' := Option.some.inj (himaged.symm.trans himaged')
      have hsameType := htype.trans htype'.symm
      have hsameImage := himage.trans himage'.symm
      have hsameZone : attributes.zoneId = attributes'.zoneId := by
        ext zone
        exact (hzone zone).trans (hzone' zone).symm
      cases attributes
      cases attributes'
      congr

/-! ### The two policies -/

/-- A vote that rejects conflicts and does not fail is the vote that keeps what it holds. -/
theorem Candidate.offer_keepFirst_of_reject {held held' : Option Candidate} {next : Candidate}
    (h : offer .reject subject held next = .ok held') :
    offer .keepFirst subject held next = .ok held' := by
  unfold offer at h ⊢
  split
  case isTrue hnext => rwa [if_pos hnext] at h
  case isFalse hnext =>
    rw [if_neg hnext] at h
    cases held with
    | none => exact h
    | some best =>
      dsimp only at h ⊢
      -- The policies part only where neither value stands above the other.
      split_ifs at h ⊢ with hsame hlt hgt
      all_goals exact h

/-- Members that are all heard where conflicts are rejected have voted the same where the value held
is kept. -/
theorem Ballot.foldlM_keepFirst_of_reject {ballot ballot' : Ballot}
    (h : members.foldlM (hear .reject) ballot = .ok ballot') :
    members.foldlM (hear .keepFirst) ballot = .ok ballot' := by
  induction members generalizing ballot with
  | nil => exact h
  | cons i rest ih =>
    rw [List.foldlM_cons] at h ⊢
    cases hfirst : hear .reject ballot i with
    | error error =>
      rw [hfirst] at h
      cases h
    | ok next =>
      rw [hfirst] at h
      obtain ⟨hoffers, hzone⟩ := hear_eq_ok_iff.mp hfirst
      have hkept : hear .keepFirst ballot i = .ok next :=
        hear_eq_ok_iff.mpr
          ⟨fun subject => Candidate.offer_keepFirst_of_reject (hoffers subject), hzone⟩
      rw [hkept]
      exact ih h

/-- When a conflict leaves the value held, the consensus of members is the preference among what
they report, so it fails only where there are no members, no type or no image, and never for a
conflict. Where conflicts are rejected and members have a consensus nonetheless, it is the same. -/
theorem ofMembers_keepFirst_iff (members : List Instance) :
    (∀ result, LaunchAttributes.ofMembers .keepFirst members = result ↔
      Preference members result) ∧
    (∀ subject kept rejected, LaunchAttributes.ofMembers .keepFirst members ≠
      .error (.conflict subject kept rejected)) ∧
    ∀ attributes, LaunchAttributes.ofMembers .reject members = .ok attributes →
      LaunchAttributes.ofMembers .keepFirst members = .ok attributes := by
  have hpreference : Preference members (LaunchAttributes.ofMembers .keepFirst members) := by
    rw [LaunchAttributes.ofMembers]
    by_cases hmembers : members = []
    · rw [if_pos hmembers]
      exact .noMembers hmembers
    · rw [if_neg hmembers]
      obtain ⟨ballot, hballot, hleading⟩ := Ballot.leading_of_foldlM members
      rw [hballot]
      exact hleading.preference hmembers
  refine ⟨fun result => ⟨fun h => h ▸ hpreference, hpreference.unique⟩, ?_, ?_⟩
  · intro subject kept rejected h
    rw [h] at hpreference
    cases hpreference
  · intro attributes h
    obtain ⟨hmembers, ballot, hballot, hsettle⟩ := LaunchAttributes.ofMembers_eq_ok_iff.mp h
    exact LaunchAttributes.ofMembers_eq_ok_iff.mpr
      ⟨hmembers, ballot, Ballot.foldlM_keepFirst_of_reject hballot, hsettle⟩

/-- An image that was passed over counts once a member reports it with a better status. -/
example :
    LaunchAttributes.ofMembers .keepFirst [
      { (default : Instance) with instanceType := "small", image := ⟨"old", .deprecated⟩ },
      { (default : Instance) with instanceType := "small", image := ⟨"new", .deprecated⟩ },
      { (default : Instance) with instanceType := "large", image := ⟨"new", .available⟩ }] =
        .ok ⟨"small", "new", none⟩ := by
  decide

end ElasticGroups.Discovery
