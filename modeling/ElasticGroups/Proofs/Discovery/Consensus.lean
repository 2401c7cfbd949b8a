import ElasticGroups.Discovery.Consensus
import Mathlib.Data.List.Induction
import Mathlib.Data.Nat.Basic
import Mathlib.Order.Basic

/-!
# The meaning of a consensus

What the votes of a group come to, told by its members alone. Of the values that are heard about an
attribute, those of the highest standing lead, and the members are split on the attribute when two
different values lead.

The module introduces:

* `Leads heard value`, `Split heard` — a value leads among the candidates heard, and two of them do;
* `Agreed members` — however many members are heard, they are not split;
* `Clash members subject kept rejected` — one member ends the agreement of those before it;
* `Verdict members result` — the consensus as a relation: the members clash, or they agree, and
  then what leads among them is the consensus.

While the members agree, each vote holds the one value that leads among those heard so far
(`Ballot.Of`). Under the policy that rejects conflicts the consensus is therefore the verdict
(`ofMembers_reject_iff`).

Under both policies the consensus has a type and an image (`ne_empty_of_ofMembers`), and one more
member that is made as the consensus says changes nothing about it (`ofMembers_concat`).
-/

namespace ElasticGroups.Discovery

open Cloud

/-! ### Leading values -/

/-- What a member reports about an attribute. All types have the best standing. -/
def Attribute.reported : Attribute → Instance → Candidate
  | .instanceType, i => ⟨i.instanceType, .available⟩
  | .image, i => ⟨i.image.id, i.image.status⟩

/-- What members report about an attribute, without the empty values. -/
def Attribute.heard (subject : Attribute) (members : List Instance) : List Candidate :=
  (members.map subject.reported).filter (·.value ≠ "")

/-- The value is heard with the highest standing that is heard. -/
def Leads (heard : List Candidate) (value : String) : Prop :=
  ∃ c ∈ heard, c.value = value ∧ ∀ other ∈ heard, other.standing.rank ≤ c.standing.rank

/-- Two different values lead. -/
def Split (heard : List Candidate) : Prop :=
  ∃ value other, value ≠ other ∧ Leads heard value ∧ Leads heard other

/-- However many members are heard, they are not split on any attribute. -/
def Agreed (members : List Instance) : Prop :=
  ∀ first, first <+: members → ∀ subject : Attribute, ¬ Split (subject.heard first)

/-- The agreement of the first members ends with one that splits them on an attribute: on the type,
or on the image if it does not split them on the type. What is kept is the one value that led before
that member, and what is rejected is the value of the member. -/
def Clash (members : List Instance) (subject : Attribute) (kept rejected : String) : Prop :=
  ∃ before last, before ++ [last] <+: members ∧ Agreed before ∧
    Split (subject.heard (before ++ [last])) ∧
    (subject = .image → ¬ Split (Attribute.instanceType.heard (before ++ [last]))) ∧
    (∀ value, Leads (subject.heard before) value ↔ value = kept) ∧
    rejected = (subject.reported last).value

/-- Members report one zone, and no other. -/
def OneZone (members : List Instance) (zone : String) : Prop :=
  (∃ i ∈ members, i.zoneId ≠ "") ∧ ∀ i ∈ members, i.zoneId ≠ "" → i.zoneId = zone

/-- The consensus of members, when conflicts are rejected. -/
inductive Verdict (members : List Instance) : Except ConsensusError LaunchAttributes → Prop
  /-- There are no members. -/
  | noMembers (hmembers : members = []) : Verdict members (.error .noMembers)
  /-- The members clash. -/
  | conflict {subject : Attribute} {kept rejected : String}
      (hclash : Clash members subject kept rejected) :
      Verdict members (.error (.conflict subject kept rejected))
  /-- No member reports a type. -/
  | noType (hmembers : members ≠ []) (hagreed : Agreed members)
      (htype : ∀ i ∈ members, i.instanceType = "") :
      Verdict members (.error (.unresolved .instanceType))
  /-- No member reports an image. -/
  | noImage (hagreed : Agreed members) (htype : ∃ i ∈ members, i.instanceType ≠ "")
      (himage : ∀ i ∈ members, i.image.id = "") :
      Verdict members (.error (.unresolved .image))
  /-- One type and one image lead, and a zone counts if it is the only one. -/
  | settled {attributes : LaunchAttributes} (hagreed : Agreed members)
      (htype : ∀ value, (value ≠ "" ∧ ∃ i ∈ members, i.instanceType = value) ↔
        value = attributes.instanceType)
      (himage : ∀ value, Leads (Attribute.image.heard members) value ↔ value = attributes.imageId)
      (hzone : ∀ zone, attributes.zoneId = some zone ↔ OneZone members zone) :
      Verdict members (.ok attributes)

variable {subject : Attribute} {members : List Instance} {i : Instance} {value : String}

theorem mem_heard_iff {c : Candidate} :
    c ∈ subject.heard members ↔ c.value ≠ "" ∧ ∃ i ∈ members, subject.reported i = c := by
  simp [Attribute.heard, and_comm]

theorem heard_eq_nil_iff :
    subject.heard members = [] ↔ ∀ i ∈ members, (subject.reported i).value = "" := by
  simp [Attribute.heard]

theorem heard_concat :
    subject.heard (members ++ [i]) = subject.heard members ++
      if (subject.reported i).value = "" then [] else [subject.reported i] := by
  rw [Attribute.heard, List.map_append, List.filter_append, Attribute.heard]
  by_cases h : (subject.reported i).value = "" <;> simp [h]

/-- All types have one standing, so every type that is reported leads. -/
theorem leads_instanceType_iff :
    Leads (Attribute.instanceType.heard members) value ↔
      value ≠ "" ∧ ∃ i ∈ members, i.instanceType = value := by
  constructor
  · rintro ⟨c, hc, rfl, -⟩
    obtain ⟨hvalue, i, hi, rfl⟩ := mem_heard_iff.mp hc
    exact ⟨hvalue, i, hi, rfl⟩
  · rintro ⟨hvalue, i, hi, rfl⟩
    refine ⟨Attribute.instanceType.reported i, mem_heard_iff.mpr ⟨hvalue, i, hi, rfl⟩, rfl, ?_⟩
    intro other hother
    obtain ⟨-, j, -, rfl⟩ := mem_heard_iff.mp hother
    exact Nat.le_refl _

theorem agreed_nil : Agreed [] := by
  rintro first hfirst subject ⟨value, -, -, ⟨c, hc, -⟩, -⟩
  rw [List.prefix_nil.mp hfirst] at hc
  simp [Attribute.heard] at hc

/-- Members agree with one more when they agree without it and it does not split them. -/
theorem agreed_concat_iff :
    Agreed (members ++ [i]) ↔
      Agreed members ∧ ∀ subject : Attribute, ¬ Split (subject.heard (members ++ [i])) := by
  constructor
  · intro h
    exact ⟨fun first hfirst => h first (hfirst.trans (List.prefix_append _ _)),
      h _ List.prefix_rfl⟩
  · rintro ⟨hmembers, hlast⟩ first hfirst
    rcases List.prefix_concat_iff.mp hfirst with rfl | hfirst
    · exact hlast
    · exact hmembers first hfirst

theorem Clash.mono {more : List Instance} {kept rejected : String} (hbegins : members <+: more)
    (h : Clash members subject kept rejected) : Clash more subject kept rejected := by
  obtain ⟨before, last, hbefore, hclash⟩ := h
  exact ⟨before, last, hbefore.trans hbegins, hclash⟩

/-! ### The value that a vote holds -/

/-- The candidate held is heard, none that is heard has a higher standing, and all of its standing
have its value. -/
def Holds (heard : List Candidate) : Option Candidate → Prop
  | none => heard = []
  | some best => best ∈ heard ∧ ∀ c ∈ heard, c.standing.rank ≤ best.standing.rank ∧
      (c.standing.rank = best.standing.rank → c.value = best.value)

section Votes

variable {heard : List Candidate} {best next : Candidate} {held : Option Candidate}

/-- The value held is the one that leads. -/
theorem Holds.leads_iff (h : Holds heard (some best)) : Leads heard value ↔ value = best.value := by
  obtain ⟨hbest, hothers⟩ := h
  constructor
  · rintro ⟨c, hc, rfl, htop⟩
    have hrank := Nat.le_antisymm (hothers c hc).1 (htop best hbest)
    exact (hothers c hc).2 hrank
  · rintro rfl
    exact ⟨best, hbest, rfl, fun other hother => (hothers other hother).1⟩

/-- Where one value leads, or none, the candidates are not split. -/
theorem Holds.not_split (h : Holds heard held) : ¬ Split heard := by
  rintro ⟨value, other, hne, hvalue, hother⟩
  cases held with
  | none =>
    obtain rfl : heard = [] := h
    obtain ⟨c, hc, -⟩ := hvalue
    cases hc
  | some best => exact hne ((h.leads_iff.mp hvalue).trans (h.leads_iff.mp hother).symm)

/-- A candidate of a higher standing is held next, and so is one of the same value that stands no
lower. -/
theorem Holds.replace (h : Holds heard (some best))
    (hrank : best.standing.rank ≤ next.standing.rank)
    (hvalue : best.standing.rank = next.standing.rank → best.value = next.value) :
    Holds (heard ++ [next]) (some next) := by
  refine ⟨by simp, fun c hc => ?_⟩
  rcases List.mem_append.mp hc with hc | hc
  · -- A candidate that ties with the new one ties with the one held, so all three share a value.
    obtain ⟨hle, hsame⟩ := h.2 c hc
    refine ⟨hle.trans hrank, fun heq => ?_⟩
    rw [hsame (by omega), hvalue (by omega)]
  · obtain rfl := List.mem_singleton.mp hc
    exact ⟨le_rfl, fun _ => rfl⟩

/-- A candidate of a lower standing is passed over, and so is one of the same value that stands no
higher. -/
theorem Holds.keep (h : Holds heard (some best)) (hrank : next.standing.rank ≤ best.standing.rank)
    (hvalue : next.standing.rank = best.standing.rank → next.value = best.value) :
    Holds (heard ++ [next]) (some best) := by
  refine ⟨List.mem_append_left _ h.1, fun c hc => ?_⟩
  rcases List.mem_append.mp hc with hc | hc
  · exact h.2 c hc
  · obtain rfl := List.mem_singleton.mp hc
    exact ⟨hrank, hvalue⟩

/-- A candidate of the same standing and another value splits those heard. -/
theorem Holds.split (h : Holds heard (some best)) (hrank : best.standing.rank = next.standing.rank)
    (hvalue : best.value ≠ next.value) : Split (heard ++ [next]) := by
  have htop : ∀ c ∈ heard ++ [next], c.standing.rank ≤ best.standing.rank := by
    intro c hc
    rcases List.mem_append.mp hc with hc | hc
    · exact (h.2 c hc).1
    · obtain rfl := List.mem_singleton.mp hc
      exact hrank.ge
  refine ⟨best.value, next.value, hvalue, ?_, ?_⟩
  · exact ⟨best, List.mem_append_left _ h.1, rfl, htop⟩
  · exact ⟨next, by simp, rfl, fun c hc => (htop c hc).trans hrank.le⟩

/-- What a vote that rejects conflicts does with a candidate that is not empty: it goes on to hold
what leads, or it fails because the candidate splits those heard. -/
theorem Holds.offer (h : Holds heard held) (hnext : next.value ≠ "") :
    (∃ held', Candidate.offer .reject subject held next = .ok held' ∧
        Holds (heard ++ [next]) held') ∨
      ∃ best, held = some best ∧ Split (heard ++ [next]) ∧
        Candidate.offer .reject subject held next =
          .error (.conflict subject best.value next.value) := by
  unfold Candidate.offer
  rw [if_neg hnext]
  cases held with
  | none =>
    obtain rfl : heard = [] := h
    exact .inl ⟨some next, rfl, by simp [Holds]⟩
  | some best =>
    dsimp only
    -- The cases are those of the vote: the same value, or one of another standing.
    by_cases hsame : best.value = next.value
    · rw [if_pos hsame]
      refine .inl ⟨_, rfl, ?_⟩
      split
      case isTrue hlt => exact h.replace hlt.le fun _ => hsame
      case isFalse hle => exact h.keep (Nat.le_of_not_lt hle) fun _ => hsame.symm
    · rw [if_neg hsame]
      rcases Nat.lt_trichotomy best.standing.rank next.standing.rank with hlt | heq | hgt
      · rw [if_pos hlt]
        exact .inl ⟨_, rfl, h.replace hlt.le fun heq => absurd heq hlt.ne⟩
      · rw [if_neg heq.not_lt, if_neg heq.symm.not_lt]
        exact .inr ⟨best, rfl, h.split heq hsame, rfl⟩
      · rw [if_neg hgt.not_gt, if_pos hgt]
        exact .inl ⟨_, rfl, h.keep hgt.le fun heq => absurd heq hgt.ne⟩

end Votes

/-- What a vote that rejects conflicts does with what one more member reports. -/
theorem Holds.hear {held : Option Candidate} (h : Holds (subject.heard members) held)
    (i : Instance) :
    (∃ held', Candidate.offer .reject subject held (subject.reported i) = .ok held' ∧
        Holds (subject.heard (members ++ [i])) held') ∨
      ∃ best, held = some best ∧ Split (subject.heard (members ++ [i])) ∧
        Candidate.offer .reject subject held (subject.reported i) =
          .error (.conflict subject best.value (subject.reported i).value) := by
  rw [heard_concat]
  by_cases hempty : (subject.reported i).value = ""
  · rw [if_pos hempty, List.append_nil, Candidate.offer.eq_def, if_pos hempty]
    exact .inl ⟨held, rfl, h⟩
  · rw [if_neg hempty]
    exact h.offer hempty

/-! ### The zone -/

/-- The zones that members report. -/
def zonesHeard (members : List Instance) : List String :=
  (members.map (·.zoneId)).filter (· ≠ "")

theorem zonesHeard_concat :
    zonesHeard (members ++ [i]) =
      zonesHeard members ++ if i.zoneId = "" then [] else [i.zoneId] := by
  rw [zonesHeard, List.map_append, List.filter_append, zonesHeard]
  by_cases h : i.zoneId = "" <;> simp [h]

theorem oneZone_iff {zone : String} :
    OneZone members zone ↔ zonesHeard members ≠ [] ∧ ∀ z ∈ zonesHeard members, z = zone := by
  simp [OneZone, zonesHeard, and_imp]

namespace ZoneVote

/-- What a vote on the zone holds, told by the zones heard. -/
def Of (zones : List String) : ZoneVote → Prop
  | unset => zones = []
  | single zone => zones ≠ [] ∧ ∀ z ∈ zones, z = zone
  | balanced => ∃ z ∈ zones, ∃ other ∈ zones, z ≠ other

variable {vote : ZoneVote} {zones : List String} {zone : String}

/-- The vote settles on a zone when it is the only one. -/
theorem Of.zone?_eq_some_iff (h : vote.Of zones) :
    vote.zone? = some zone ↔ zones ≠ [] ∧ ∀ z ∈ zones, z = zone := by
  cases vote with
  | unset =>
    obtain rfl : zones = [] := h
    simp [zone?]
  | single held =>
    obtain ⟨hne, hall⟩ := h
    simp only [zone?, Option.some.injEq]
    constructor
    · rintro rfl
      exact ⟨hne, hall⟩
    · rintro ⟨-, hall'⟩
      obtain ⟨z, hz⟩ := List.exists_mem_of_ne_nil zones hne
      rw [← hall z hz, hall' z hz]
  | balanced =>
    obtain ⟨z, hz, other, hother, hne⟩ := h
    refine iff_of_false (by simp [zone?]) ?_
    rintro ⟨-, hall⟩
    exact hne ((hall z hz).trans (hall other hother).symm)

theorem Of.offer (h : vote.Of zones) (hzone : zone ≠ "") :
    (vote.offer zone).Of (zones ++ [zone]) := by
  rw [ZoneVote.offer.eq_def, if_neg hzone]
  cases vote with
  | unset =>
    obtain rfl : zones = [] := h
    simp [Of]
  | single held =>
    obtain ⟨hne, hall⟩ := h
    dsimp only
    split
    case isTrue heq =>
      refine ⟨by simp, fun z hz => ?_⟩
      rcases List.mem_append.mp hz with hz | hz
      · exact hall z hz
      · rw [List.mem_singleton.mp hz, heq]
    case isFalse hother =>
      obtain ⟨z, hz⟩ := List.exists_mem_of_ne_nil zones hne
      refine ⟨z, List.mem_append_left _ hz, zone, by simp, ?_⟩
      rw [hall z hz]
      exact hother
  | balanced =>
    obtain ⟨z, hz, other, hother, hne⟩ := h
    exact ⟨z, List.mem_append_left _ hz, other, List.mem_append_left _ hother, hne⟩

theorem Of.hear (h : vote.Of (zonesHeard members)) (i : Instance) :
    (vote.offer i.zoneId).Of (zonesHeard (members ++ [i])) := by
  rw [zonesHeard_concat]
  by_cases hempty : i.zoneId = ""
  · rw [if_pos hempty, List.append_nil, ZoneVote.offer.eq_def, if_pos hempty]
    exact h
  · rw [if_neg hempty]
    exact h.offer hempty

end ZoneVote

/-! ### All votes -/

namespace Ballot

/-- The candidate that a ballot holds for an attribute. -/
def held (ballot : Ballot) : Attribute → Option Candidate
  | .instanceType => ballot.instanceType
  | .image => ballot.image

/-- What a ballot holds, told by the members heard. -/
structure Of (members : List Instance) (ballot : Ballot) : Prop where
  /-- The type and the image held are those that lead. -/
  holds : ∀ subject : Attribute, Holds (subject.heard members) (ballot.held subject)
  /-- The zone held is the one reported. -/
  zone : ballot.zone.Of (zonesHeard members)

variable {ballot ballot' : Ballot} {policy : ConflictPolicy}

/-- A member is heard when both its type and its image are. -/
theorem hear_eq_ok_iff :
    hear policy ballot i = .ok ballot' ↔
      (∀ subject : Attribute, Candidate.offer policy subject (ballot.held subject)
        (subject.reported i) = .ok (ballot'.held subject)) ∧
      ballot'.zone = ballot.zone.offer i.zoneId := by
  obtain ⟨type', image', zone'⟩ := ballot'
  -- There are two attributes, and the two steps of the hearing are those on each of them.
  have hall : (∀ subject : Attribute, Candidate.offer policy subject (ballot.held subject)
      (subject.reported i) = .ok (held ⟨type', image', zone'⟩ subject)) ↔
      Candidate.offer policy .instanceType ballot.instanceType ⟨i.instanceType, .available⟩ =
          .ok type' ∧
        Candidate.offer policy .image ballot.image ⟨i.image.id, i.image.status⟩ = .ok image' :=
    ⟨fun h => ⟨h .instanceType, h .image⟩, fun h subject => by cases subject; exacts [h.1, h.2]⟩
  rw [hall]
  unfold hear
  cases Candidate.offer policy .instanceType ballot.instanceType ⟨i.instanceType, .available⟩ with
  | error error => simp [bind, Except.bind]
  | ok type =>
    cases Candidate.offer policy .image ballot.image ⟨i.image.id, i.image.status⟩ with
    | error error => simp [bind, Except.bind]
    | ok image => simp [bind, Except.bind, pure, Except.pure, eq_comm, and_assoc]

/-- A member fails the votes with its type, or else with its image. -/
theorem hear_eq_error_iff {error : ConsensusError} :
    hear policy ballot i = .error error ↔
      Candidate.offer policy .instanceType (ballot.held .instanceType)
          (Attribute.instanceType.reported i) = .error error ∨
        (∃ held', Candidate.offer policy .instanceType (ballot.held .instanceType)
          (Attribute.instanceType.reported i) = .ok held') ∧
        Candidate.offer policy .image (ballot.held .image) (Attribute.image.reported i) =
          .error error := by
  unfold hear held Attribute.reported
  dsimp only
  cases Candidate.offer policy .instanceType ballot.instanceType ⟨i.instanceType, .available⟩ with
  | error error => simp [bind, Except.bind]
  | ok type =>
    cases Candidate.offer policy .image ballot.image ⟨i.image.id, i.image.status⟩ with
    | error error => simp [bind, Except.bind]
    | ok image => simp [bind, Except.bind, pure, Except.pure]

theorem Of.agreed_concat (h : ballot.Of (members ++ [i])) (hagreed : Agreed members) :
    Agreed (members ++ [i]) :=
  agreed_concat_iff.mpr ⟨hagreed, fun subject => (h.holds subject).not_split⟩

/-- One more member is heard, or ends the agreement of those heard before. -/
theorem Of.hear (h : ballot.Of members) (hagreed : Agreed members) (i : Instance) :
    (∃ ballot', Ballot.hear .reject ballot i = .ok ballot' ∧ ballot'.Of (members ++ [i])) ∨
      ∃ subject kept rejected,
        Ballot.hear .reject ballot i = .error (.conflict subject kept rejected) ∧
          Clash (members ++ [i]) subject kept rejected := by
  rcases (h.holds .instanceType).hear i with
    ⟨type, htype, htypeHolds⟩ | ⟨best, hbest, hsplit, htype⟩
  · rcases (h.holds .image).hear i with
      ⟨image, himage, himageHolds⟩ | ⟨best, hbest, hsplit, himage⟩
    · refine .inl ⟨⟨type, image, ballot.zone.offer i.zoneId⟩, ?_, ?_, h.zone.hear i⟩
      · exact hear_eq_ok_iff.mpr ⟨fun | .instanceType => htype | .image => himage, rfl⟩
      · exact fun | .instanceType => htypeHolds | .image => himageHolds
    · -- The type was heard, so the members are split on the image alone.
      have hholds := h.holds .image
      rw [hbest] at hholds
      refine .inr ⟨.image, best.value, _, hear_eq_error_iff.mpr (.inr ⟨⟨type, htype⟩, himage⟩), ?_⟩
      exact ⟨members, i, List.prefix_rfl, hagreed, hsplit, fun _ => htypeHolds.not_split,
        fun _ => hholds.leads_iff, rfl⟩
  · have hholds := h.holds .instanceType
    rw [hbest] at hholds
    refine .inr ⟨.instanceType, best.value, _, hear_eq_error_iff.mpr (.inl htype), ?_⟩
    exact ⟨members, i, List.prefix_rfl, hagreed, hsplit, fun hsubject => (by cases hsubject),
      fun _ => hholds.leads_iff, rfl⟩

theorem foldlM_hear_concat :
    (members ++ [i]).foldlM (hear policy) ballot =
      members.foldlM (hear policy) ballot >>= fun ballot' => hear policy ballot' i := by
  simp only [List.foldlM_append, List.foldlM_cons, List.foldlM_nil, bind_pure]

/-- Members that agree are all heard, and members that do not agree clash. -/
theorem of_foldlM (members : List Instance) :
    (∃ ballot, members.foldlM (hear .reject) {} = .ok ballot ∧ ballot.Of members ∧
        Agreed members) ∨
      ∃ subject kept rejected,
        members.foldlM (hear .reject) {} = .error (.conflict subject kept rejected) ∧
          Clash members subject kept rejected := by
  -- The induction is on the members from the last one on, since the first ones are heard first.
  induction members using List.reverseRecOn with
  | nil =>
    refine .inl ⟨{}, rfl, ⟨fun subject => ?_, rfl⟩, agreed_nil⟩
    cases subject <;> rfl
  | append_singleton members i ih =>
    rw [foldlM_hear_concat]
    rcases ih with ⟨ballot, hballot, hof, hagreed⟩ | ⟨subject, kept, rejected, herror, hclash⟩
    · rw [hballot]
      rcases hof.hear hagreed i with ⟨ballot', hballot', hof'⟩ | hclash
      · exact .inl ⟨ballot', hballot', hof', hof'.agreed_concat hagreed⟩
      · exact .inr hclash
    · rw [herror]
      exact .inr ⟨subject, kept, rejected, rfl, hclash.mono (List.prefix_append _ _)⟩

/-- What the votes of members that agree settle on. -/
theorem Of.verdict (h : ballot.Of members) (hmembers : members ≠ []) (hagreed : Agreed members) :
    Verdict members ballot.settle := by
  have htype := h.holds .instanceType
  have himage := h.holds .image
  have hzone : ∀ zone, ballot.zone.zone? = some zone ↔ OneZone members zone := by
    intro zone
    rw [h.zone.zone?_eq_some_iff, oneZone_iff]
  obtain ⟨type, image, zone⟩ := ballot
  cases type with
  | none => exact .noType hmembers hagreed (heard_eq_nil_iff.mp htype)
  | some type =>
    have htypes : ∀ value, (value ≠ "" ∧ ∃ i ∈ members, i.instanceType = value) ↔
        value = type.value := by
      intro value
      rw [← leads_instanceType_iff]
      exact htype.leads_iff
    cases image with
    | none =>
      obtain ⟨hvalue, i, hi, hreported⟩ := (htypes type.value).mpr rfl
      exact .noImage hagreed ⟨i, hi, hreported ▸ hvalue⟩ (heard_eq_nil_iff.mp himage)
    | some image => exact .settled hagreed htypes (fun value => himage.leads_iff) hzone

end Ballot

/-! ### The consensus -/

namespace Clash

variable {kept rejected : String}

theorem ne_nil (h : Clash members subject kept rejected) : members ≠ [] := by
  rintro rfl
  obtain ⟨before, last, hbegins, -⟩ := h
  simp at hbegins

theorem not_agreed (h : Clash members subject kept rejected) : ¬ Agreed members := by
  obtain ⟨before, last, hbegins, -, hsplit, -⟩ := h
  exact fun hagreed => hagreed _ hbegins subject hsplit

/-- The agreement of the first members ends with one member only. -/
theorem before_eq {before before' : List Instance} {last last' : Instance}
    {subject subject' : Attribute} (hbegins : before ++ [last] <+: members)
    (hbegins' : before' ++ [last'] <+: members) (hagreed : Agreed before)
    (hagreed' : Agreed before')
    (hsplit : Split (subject.heard (before ++ [last])))
    (hsplit' : Split (subject'.heard (before' ++ [last']))) : before = before' ∧ last = last' := by
  have heq : before ++ [last] = before' ++ [last'] := by
    -- Of two first parts, one begins the other. A part that is split begins none that agrees.
    rcases List.prefix_or_prefix_of_prefix hbegins hbegins' with h | h
    · rcases List.prefix_concat_iff.mp h with heq | h
      · exact heq
      · exact absurd hsplit (hagreed' _ h subject)
    · rcases List.prefix_concat_iff.mp h with heq | h
      · exact heq.symm
      · exact absurd hsplit' (hagreed _ h subject')
  simpa using heq

/-- Members clash in one way only. -/
theorem unique {subject' : Attribute} {kept' rejected' : String}
    (h : Clash members subject kept rejected) (h' : Clash members subject' kept' rejected') :
    subject = subject' ∧ kept = kept' ∧ rejected = rejected' := by
  obtain ⟨before, last, hbegins, hagreed, hsplit, hfirst, hkept, rfl⟩ := h
  obtain ⟨before', last', hbegins', hagreed', hsplit', hfirst', hkept', rfl⟩ := h'
  obtain ⟨rfl, rfl⟩ := before_eq hbegins hbegins' hagreed hagreed' hsplit hsplit'
  obtain rfl : subject = subject' := by
    -- A clash on the image needs members that are not split on the type.
    cases subject <;> cases subject'
    · rfl
    · exact absurd hsplit (hfirst' rfl)
    · exact absurd hsplit' (hfirst rfl)
    · rfl
  exact ⟨rfl, (hkept' kept).mp ((hkept kept).mpr rfl), rfl⟩

end Clash

theorem Leads.exists_reported (h : Leads (subject.heard members) value) :
    value ≠ "" ∧ ∃ i ∈ members, (subject.reported i).value = value := by
  obtain ⟨c, hc, rfl, -⟩ := h
  obtain ⟨hvalue, i, hi, rfl⟩ := mem_heard_iff.mp hc
  exact ⟨hvalue, i, hi, rfl⟩

theorem Verdict.unique {result result' : Except ConsensusError LaunchAttributes}
    (h : Verdict members result) (h' : Verdict members result') : result = result' := by
  cases h with
  | noMembers hmembers =>
    subst hmembers
    cases h' with
    | noMembers => rfl
    | conflict hclash => exact absurd rfl hclash.ne_nil
    | noType hmembers => exact absurd rfl hmembers
    | noImage _ htype => simp at htype
    | settled _ htype => simpa using (htype _).mpr rfl
  | conflict hclash =>
    cases h' with
    | noMembers hmembers => exact absurd hmembers hclash.ne_nil
    | conflict hclash' =>
      obtain ⟨rfl, rfl, rfl⟩ := hclash.unique hclash'
      rfl
    | noType _ hagreed => exact absurd hagreed hclash.not_agreed
    | noImage hagreed => exact absurd hagreed hclash.not_agreed
    | settled hagreed => exact absurd hagreed hclash.not_agreed
  | noType hmembers hagreed hnone =>
    cases h' with
    | noMembers hmembers' => exact absurd hmembers' hmembers
    | conflict hclash => exact absurd hagreed hclash.not_agreed
    | noType => rfl
    | noImage _ htype =>
      obtain ⟨i, hi, htype⟩ := htype
      exact absurd (hnone i hi) htype
    | settled _ htype =>
      obtain ⟨hvalue, i, hi, hreported⟩ := (htype _).mpr rfl
      exact absurd (hreported.symm.trans (hnone i hi)) hvalue
  | noImage hagreed htype hnone =>
    obtain ⟨i, hi, htype⟩ := htype
    cases h' with
    | noMembers hmembers => simp [hmembers] at hi
    | conflict hclash => exact absurd hagreed hclash.not_agreed
    | noType _ _ hnoType => exact absurd (hnoType i hi) htype
    | noImage => rfl
    | settled _ _ himage =>
      obtain ⟨hvalue, j, hj, hreported⟩ := ((himage _).mpr rfl).exists_reported
      exact absurd (hreported.symm.trans (hnone j hj)) hvalue
  | @settled attributes hagreed htype himage hzone =>
    obtain ⟨hvalue, i, hi, hreported⟩ := (htype _).mpr rfl
    cases h' with
    | noMembers hmembers => simp [hmembers] at hi
    | conflict hclash => exact absurd hagreed hclash.not_agreed
    | noType _ _ hnone => exact absurd (hreported.symm.trans (hnone i hi)) hvalue
    | noImage _ _ hnone =>
      obtain ⟨hvalue, j, hj, hreported⟩ := ((himage _).mpr rfl).exists_reported
      exact absurd (hreported.symm.trans (hnone j hj)) hvalue
    | @settled attributes' _ htype' himage' hzone' =>
      -- The same type and the same image lead, and the same zone is the only one.
      have hsameType := (htype' _).mp ((htype _).mpr rfl)
      have hsameImage := (himage' _).mp ((himage _).mpr rfl)
      have hsameZone : attributes.zoneId = attributes'.zoneId :=
        Option.ext fun zone => (hzone zone).trans (hzone' zone).symm
      cases attributes
      cases attributes'
      congr

/-- When conflicts are rejected, the consensus of members is the verdict on them: they have none if
there are no members; they clash at the first of them that splits those up to it; and otherwise one
type and one image lead, unless no member reports one, and a zone counts if it is the only one. -/
theorem ofMembers_reject_iff (members : List Instance)
    (result : Except ConsensusError LaunchAttributes) :
    LaunchAttributes.ofMembers .reject members = result ↔ Verdict members result := by
  -- The consensus is a verdict, and there is only one.
  have hverdict : Verdict members (LaunchAttributes.ofMembers .reject members) := by
    rw [LaunchAttributes.ofMembers]
    by_cases hmembers : members = []
    · rw [if_pos hmembers]
      exact .noMembers hmembers
    · rw [if_neg hmembers]
      rcases Ballot.of_foldlM members with ⟨ballot, hballot, hof, hagreed⟩ |
        ⟨subject, kept, rejected, herror, hclash⟩
      · rw [hballot]
        exact hof.verdict hmembers hagreed
      · rw [herror]
        exact .conflict hclash
  exact ⟨fun h => h ▸ hverdict, hverdict.unique⟩

/-! ### Consensus under either policy -/

section EitherPolicy

variable {policy : ConflictPolicy} {attributes : LaunchAttributes}

theorem Candidate.ne_empty_of_offer {held held' : Option Candidate} {next best : Candidate}
    (hheld : ∀ c ∈ held, c.value ≠ "")
    (h : Candidate.offer policy subject held next = .ok held') (hbest : best ∈ held') :
    best.value ≠ "" := by
  unfold Candidate.offer at h
  split at h
  case isTrue =>
    cases h
    exact hheld best hbest
  case isFalse hnext =>
    -- What is held next is the candidate offered or what was held before.
    have heither : best = next ∨ best ∈ held := by
      split at h
      · cases h
        exact .inl (Option.some.inj hbest).symm
      · repeat' split at h
        all_goals cases h
        all_goals cases hbest
        all_goals first | exact .inl rfl | exact .inr rfl
    rcases heither with rfl | hold
    · exact hnext
    · exact hheld best hold

/-- A candidate with the value that is held leaves that value held. -/
theorem Candidate.offer_same {best next : Candidate} (hvalue : next.value = best.value) :
    ∃ best', Candidate.offer policy subject (some best) next = .ok (some best') ∧
      best'.value = best.value := by
  unfold Candidate.offer
  by_cases hnext : next.value = ""
  · rw [if_pos hnext]
    exact ⟨best, rfl, rfl⟩
  · rw [if_neg hnext]
    dsimp only
    rw [if_pos hvalue.symm]
    refine ⟨_, rfl, ?_⟩
    split
    · exact hvalue
    · rfl

/-- The zone that a vote settles on changes nothing about it, and neither does no zone where it
settles on none. -/
theorem ZoneVote.zone?_offer_getD (vote : ZoneVote) :
    (vote.offer (vote.zone?.getD "")).zone? = vote.zone? := by
  cases vote with
  | unset => rfl
  | balanced => rfl
  | single zone =>
    rw [zone?, Option.getD_some, offer.eq_def]
    by_cases hzone : zone = "" <;> simp [hzone, zone?]

namespace Ballot

variable {ballot ballot' : Ballot}

/-- Votes settle when a type and an image are held. -/
theorem settle_eq_ok_iff :
    ballot.settle = .ok attributes ↔
      (∃ type, ballot.instanceType = some type ∧ type.value = attributes.instanceType) ∧
      (∃ image, ballot.image = some image ∧ image.value = attributes.imageId) ∧
      ballot.zone.zone? = attributes.zoneId := by
  obtain ⟨type, image, zone⟩ := ballot
  obtain ⟨attributeType, attributeImage, attributeZone⟩ := attributes
  cases type <;> cases image <;>
    simp [settle, Candidate.settle, bind, Except.bind, pure, Except.pure]

theorem ne_empty_of_foldlM
    (hballot : ∀ subject : Attribute, ∀ c ∈ ballot.held subject, c.value ≠ "")
    (h : members.foldlM (hear policy) ballot = .ok ballot') :
    ∀ subject : Attribute, ∀ c ∈ ballot'.held subject, c.value ≠ "" := by
  induction members generalizing ballot with
  | nil =>
    cases h
    exact hballot
  | cons i rest ih =>
    -- The first member may fail the votes, and then nothing is held in the end.
    rw [List.foldlM_cons] at h
    cases hfirst : hear policy ballot i with
    | error error =>
      rw [hfirst] at h
      cases h
    | ok next =>
      rw [hfirst] at h
      have hoffers := (hear_eq_ok_iff.mp hfirst).1
      refine ih (fun subject c hc => ?_) h
      exact Candidate.ne_empty_of_offer (hballot subject) (hoffers subject) hc

end Ballot

theorem LaunchAttributes.ofMembers_eq_ok_iff :
    ofMembers policy members = .ok attributes ↔
      members ≠ [] ∧ ∃ ballot, members.foldlM (Ballot.hear policy) {} = .ok ballot ∧
        ballot.settle = .ok attributes := by
  rw [ofMembers]
  by_cases hmembers : members = []
  · simp [hmembers]
  · rw [if_neg hmembers, and_iff_right hmembers]
    cases members.foldlM (Ballot.hear policy) {} <;> simp [bind, Except.bind]

/-- A consensus is one of some members, and has a type and an image. -/
theorem ne_empty_of_ofMembers (h : LaunchAttributes.ofMembers policy members = .ok attributes) :
    members ≠ [] ∧ attributes.instanceType ≠ "" ∧ attributes.imageId ≠ "" := by
  obtain ⟨hmembers, ballot, hballot, hsettle⟩ := LaunchAttributes.ofMembers_eq_ok_iff.mp h
  obtain ⟨⟨type, htype, htypeValue⟩, ⟨image, himage, himageValue⟩, -⟩ :=
    Ballot.settle_eq_ok_iff.mp hsettle
  have hvalues := Ballot.ne_empty_of_foldlM (by rintro (_ | _) c ⟨⟩) hballot
  refine ⟨hmembers, ?_, ?_⟩
  · rw [← htypeValue]
    exact hvalues .instanceType type htype
  · rw [← himageValue]
    exact hvalues .image image himage

/-- One more member that is as the consensus says, in its zone or without one, leaves the consensus
as it is. -/
theorem ofMembers_concat (h : LaunchAttributes.ofMembers policy members = .ok attributes)
    (htype : i.instanceType = attributes.instanceType) (himage : i.image.id = attributes.imageId)
    (hzone : i.zoneId = attributes.zoneId.getD "") :
    LaunchAttributes.ofMembers policy (members ++ [i]) = .ok attributes := by
  obtain ⟨-, ballot, hballot, hsettle⟩ := LaunchAttributes.ofMembers_eq_ok_iff.mp h
  obtain ⟨⟨type, htypeHeld, htypeValue⟩, ⟨image, himageHeld, himageValue⟩, hzoneVote⟩ :=
    Ballot.settle_eq_ok_iff.mp hsettle
  obtain ⟨type', htypeOffer, htype'⟩ := @Candidate.offer_same .instanceType policy type
    (Attribute.instanceType.reported i) (htype.trans htypeValue.symm)
  obtain ⟨image', himageOffer, himage'⟩ := @Candidate.offer_same .image policy image
    (Attribute.image.reported i) (himage.trans himageValue.symm)
  -- The member offers the values held, so the votes hear it under either policy.
  have hheard : Ballot.hear policy ballot i =
      .ok ⟨some type', some image', ballot.zone.offer i.zoneId⟩ := by
    refine Ballot.hear_eq_ok_iff.mpr ⟨?_, rfl⟩
    rintro (_ | _)
    · rw [Ballot.held, htypeHeld]
      exact htypeOffer
    · rw [Ballot.held, himageHeld]
      exact himageOffer
  refine LaunchAttributes.ofMembers_eq_ok_iff.mpr
    ⟨by simp, ⟨some type', some image', ballot.zone.offer i.zoneId⟩, ?_, ?_⟩
  · rw [Ballot.foldlM_hear_concat, hballot]
    exact hheard
  · refine Ballot.settle_eq_ok_iff.mpr ⟨⟨type', rfl, htype'.trans htypeValue⟩,
      ⟨image', rfl, himage'.trans himageValue⟩, ?_⟩
    rw [hzone, ← hzoneVote]
    exact ZoneVote.zone?_offer_getD _

end EitherPolicy

end ElasticGroups.Discovery
