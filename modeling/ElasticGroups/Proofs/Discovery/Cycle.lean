import ElasticGroups.Proofs.Cloud.Effect
import ElasticGroups.Proofs.Discovery.Census
import ElasticGroups.Proofs.Scaling.Bounds

/-!
# What a cycle discovers

What a complete cycle asks, and what it makes of the replies, for every provider. A cycle asks for
the listing and then looks the members of every candidate up, in the order of the listing; the
replies decide which candidates become node groups.

The module introduces:

* `candidate` — the groups of a listing whose members a cycle looks up;
* `Sighting` — a candidate together with the replies to the look-ups of its members, and
  `Sighting.nodeGroup?`, the node group that they make of it;
* `surfaced` — the groups of the sightings that become node groups.

Every complete transcript of `discover` is a listing followed by the sightings of its candidates
(`sightings_of_discover`), and nothing else is asked by a cycle, be it complete or not
(`asksOnly_refresh`).
-/

namespace ElasticGroups.Discovery

open Boot Cloud Scaling Session

/-! ### Candidates -/

/-- A text ends with another one when it is some text followed by the other one. -/
theorem endsWith_iff {s ending : String} :
    endsWith s ending = true ↔ ∃ stem, s = stem ++ ending := by
  rw [endsWith, List.isSuffixOf_iff_suffix]
  constructor
  · rintro ⟨stem, hstem⟩
    refine ⟨String.ofList stem, String.toList_inj.mp ?_⟩
    rw [String.toList_append, String.toList_ofList, hstem]
  · rintro ⟨stem, rfl⟩
    rw [String.toList_append]
    exact List.suffix_append _ _

/-- A group of the cluster is named by some text, a dot and the name of the cluster. -/
theorem ofCluster_iff {settings : Settings} {group : InstanceGroup} :
    ofCluster settings group = true ↔
      ∃ stem, group.name = stem ++ "." ++ settings.clusterName := by
  simp only [ofCluster, Settings.clusterSuffix, endsWith_iff, String.append_assoc]

/-- A group of the cluster with members and with bounds in its description. -/
def candidate (settings : Settings) (group : InstanceGroup) : Bool :=
  ofCluster settings group && !group.members.isEmpty &&
    (Bounds.parse? group.description).isSome

/-- The three conditions on a candidate. -/
theorem candidate_iff {settings : Settings} {group : InstanceGroup} :
    candidate settings group = true ↔
      ofCluster settings group = true ∧ group.members ≠ [] ∧
        ∃ bounds, Bounds.parse? group.description = some bounds := by
  simp only [candidate, Bool.and_eq_true, Bool.not_eq_true', List.isEmpty_eq_false_iff,
    Option.isSome_iff_exists, and_assoc]

/-! ### Sightings -/

/-- The record that a reply shows, unless it shows the instance deleted. -/
def liveRecord? : Except ProviderError Instance → Option Instance
  | .ok i => if i.isDeleted then none else some i
  | .error _ => none

/-- A group together with the replies to the look-ups of its members, in their order. -/
structure Sighting where
  /-- The group as it was listed. -/
  group : InstanceGroup
  /-- The reply for every member. -/
  replies : List (Except ProviderError Instance)

namespace Sighting

variable (s : Sighting)

/-- What was asked and replied. -/
def exchanges : List (Sigma Reply) :=
  List.zipWith (fun m reply => ⟨.getInstance m.id, reply⟩) s.group.members s.replies

/-- Every member was looked up, and none of the look-ups failed but because the instance was not
found. -/
def Complete : Prop :=
  s.replies.length = s.group.members.length ∧
    ∀ error, .error error ∈ s.replies → error.isNotFound = true

/-- The records of the members that are known and not deleted. -/
def live : List Instance := s.replies.filterMap liveRecord?

/-- The node group that the replies make of the group: nothing unless its description holds bounds
and its live members have a consensus. -/
def nodeGroup? (settings : Settings) (payload : Payload) (parent : Option GroupId) :
    Option NodeGroup :=
  match Bounds.parse? s.group.description,
    LaunchAttributes.ofMembers settings.conflictPolicy s.live with
  | some bounds, .ok attributes => some
      { id := s.group.id
        bounds := bounds
        template :=
          { name := settings.serverNamePrefix ++ s.group.name
            instanceType := attributes.instanceType
            imageId := attributes.imageId
            zoneId := attributes.zoneId
            groupId := s.group.id
            parentGroupId := parent
            userData := payload.userData }
        convergence := settings.convergence }
  | _, _ => none

/-- A node group takes its name, its bounds and its target from the group, and the rest of its
frame from the settings. -/
theorem nodeGroup?_spec {settings : Settings} {payload : Payload} {parent : Option GroupId}
    {g : NodeGroup} (h : s.nodeGroup? settings payload parent = some g) :
    g.id = s.group.id ∧ Bounds.parse? s.group.description = some g.bounds ∧
      g.template.groupId = s.group.id ∧ g.template.parentGroupId = parent ∧
      g.convergence = settings.convergence := by
  rw [nodeGroup?] at h
  split at h
  case h_1 bounds attributes hbounds _ =>
    cases h
    exact ⟨rfl, hbounds, rfl, rfl, rfl⟩
  case h_2 => cases h

/-- A node group is made of the group with the bounds in its description and the consensus of its
live members. -/
theorem nodeGroup?_eq_some_iff {settings : Settings} {payload : Payload} {parent : Option GroupId}
    {g : NodeGroup} :
    s.nodeGroup? settings payload parent = some g ↔
      ∃ bounds attributes, Bounds.parse? s.group.description = some bounds ∧
        LaunchAttributes.ofMembers settings.conflictPolicy s.live = .ok attributes ∧
        g = nodeGroupOf settings payload parent s.group bounds attributes := by
  rw [nodeGroup?]
  cases Bounds.parse? s.group.description with
  | none => simp
  | some bounds =>
    cases LaunchAttributes.ofMembers settings.conflictPolicy s.live with
    | error error => simp
    | ok attributes =>
      simp only [Option.some.injEq, Except.ok.injEq, exists_and_left, ↓existsAndEq, true_and]
      exact eq_comm

/-- The reply at a place is that to the look-up of the member at the place. -/
theorem exchange_mem {n : Nat} (hmember : n < s.group.members.length) (hn : n < s.replies.length) :
    ⟨.getInstance s.group.members[n].id, s.replies[n]⟩ ∈ s.exchanges := by
  refine List.mem_iff_getElem.mpr ⟨n, ?_, List.getElem_zipWith⟩
  rw [exchanges, List.length_zipWith]
  exact Nat.lt_min.mpr ⟨hmember, hn⟩

/-- A live record of a complete sighting was shown by the look-up of a member. -/
theorem Complete.exists_exchange {s : Sighting} (h : s.Complete) {i : Instance} (hi : i ∈ s.live) :
    ∃ m ∈ s.group.members, ⟨.getInstance m.id, .ok i⟩ ∈ s.exchanges ∧ i.isDeleted = false := by
  obtain ⟨reply, hreply, hlive⟩ := List.mem_filterMap.mp hi
  obtain ⟨rfl, hdeleted⟩ : reply = .ok i ∧ i.isDeleted = false := by
    cases reply with
    | error error => cases hlive
    | ok shown =>
      rw [liveRecord?] at hlive
      split at hlive
      case isTrue => cases hlive
      case isFalse hdeleted =>
        cases hlive
        exact ⟨rfl, eq_false_of_ne_true hdeleted⟩
  -- The reply and the member that was looked up stand at the same place.
  obtain ⟨n, hn, hget⟩ := List.getElem_of_mem hreply
  have hmember : n < s.group.members.length := h.1 ▸ hn
  refine ⟨s.group.members[n], List.getElem_mem hmember, ?_, hdeleted⟩
  rw [← hget]
  exact s.exchange_mem hmember hn

end Sighting

/-- The groups of the sightings that become node groups. -/
def surfaced (settings : Settings) (payload : Payload) (parent : Option GroupId)
    (sightings : List Sighting) : List InstanceGroup :=
  (sightings.filter fun s => (s.nodeGroup? settings payload parent).isSome).map (·.group)

theorem surfaced_sublist {settings : Settings} {payload : Payload} {parent : Option GroupId}
    (sightings : List Sighting) :
    (surfaced settings payload parent sightings).Sublist (sightings.map (·.group)) :=
  List.filter_sublist.map _

/-- A node group has the name of the group that it is made of. -/
theorem map_id_nodeGroups {settings : Settings} {payload : Payload} {parent : Option GroupId}
    (sightings : List Sighting) :
    (sightings.filterMap (·.nodeGroup? settings payload parent)).map (·.id) =
      (surfaced settings payload parent sightings).map (·.id) := by
  induction sightings with
  | nil => rfl
  | cons s rest ih =>
    rw [surfaced] at ih ⊢
    cases h : s.nodeGroup? settings payload parent with
    | none => simpa [h] using ih
    | some g =>
      have hid := (s.nodeGroup?_spec h).1
      simpa [h, hid] using ih

/-! ### The transcripts of a cycle -/

variable {clock : Clock} {record : List (Sigma Reply)} {settings : Settings} {payload : Payload}
  {parent : Option GroupId}

/-- The members are looked up one after the other, and the live ones are kept. -/
theorem replies_of_fetchMembers {members : List Member} {live : List Instance}
    (h : (fetchMembers members).run.Transcript clock record (.ok live)) :
    ∃ replies, replies.length = members.length ∧
      (∀ error, .error error ∈ replies → error.isNotFound = true) ∧
      record = List.zipWith (fun m reply => ⟨.getInstance m.id, reply⟩) members replies ∧
      live = replies.filterMap liveRecord? := by
  -- The induction is on the members; a reply adds one record, or none, or ends the cycle.
  induction members generalizing record live with
  | nil =>
    obtain ⟨rfl, ⟨⟩⟩ := h
    exact ⟨[], rfl, by simp, rfl, rfl⟩
  | cons m rest ih =>
    simp only [fetchMembers, transcript_exceptT_bind, transcript_exceptT_pure] at h
    obtain ⟨error, -, ⟨⟩⟩ | ⟨_, later, found, rfl, ⟨reply, _, rfl, hreply⟩, h⟩ := h
    obtain ⟨error, -, ⟨⟩⟩ | ⟨later, _, others, rfl, hothers, rfl, ⟨⟩⟩ := h
    obtain ⟨replies, hlength, herrors, rfl, rfl⟩ := ih hothers
    refine ⟨reply :: replies, congrArg (· + 1) hlength, ?_⟩
    cases reply with
    | ok i =>
      obtain ⟨rfl, ⟨⟩⟩ := hreply
      refine ⟨by simpa using herrors, by simp, ?_⟩
      cases hdeleted : i.isDeleted <;> simp [liveRecord?, hdeleted]
    | error error =>
      dsimp only at hreply
      by_cases herror : error.isNotFound = true
      · rw [if_pos herror] at hreply
        obtain ⟨rfl, ⟨⟩⟩ := hreply
        exact ⟨by simpa [herror] using herrors, by simp, rfl⟩
      · rw [if_neg herror] at hreply
        obtain ⟨-, ⟨⟩⟩ := hreply

/-- A group that is no candidate is skipped at once. The members of a candidate are looked up, and
it is surfaced when they make a node group of it. -/
theorem sighting_of_examine {group : InstanceGroup} {finding : Finding}
    (hgroup : ofCluster settings group = true)
    (h : (examine settings payload parent group).run.Transcript clock record (.ok finding)) :
    (candidate settings group = false ∧ record = [] ∧ finding = .skipped) ∨
      ∃ s : Sighting, s.group = group ∧ candidate settings group = true ∧ s.Complete ∧
        record = s.exchanges ∧
        finding.surfaced? = (s.nodeGroup? settings payload parent).map fun g => (group, g) := by
  simp only [examine, Bounds.isScalable_ofDescription] at h
  by_cases hskip : group.members = [] ∨ (Bounds.parse? group.description).isSome = false
  · rw [if_pos hskip] at h
    obtain ⟨rfl, ⟨⟩⟩ := h
    refine .inl ⟨?_, rfl, rfl⟩
    rcases hskip with hskip | hskip <;> simp [candidate, hskip]
  · -- The group is a candidate, and the vote of its members decides.
    rw [if_neg hskip, transcript_exceptT_bind] at h
    obtain ⟨hmembers, hbounds⟩ := not_or.mp hskip
    obtain ⟨bounds, hbounds⟩ := Option.isSome_iff_exists.mp (Bool.eq_true_of_not_eq_false hbounds)
    obtain ⟨error, -, ⟨⟩⟩ | ⟨record, rest, live, rfl, hfetch, h⟩ := h
    obtain ⟨replies, hlength, herrors, rfl, rfl⟩ := replies_of_fetchMembers hfetch
    refine .inr ⟨⟨group, replies⟩, rfl, ?_, ⟨hlength, herrors⟩, ?_⟩
    · simp [candidate, hgroup, hmembers, hbounds]
    · have hlive : Sighting.live ⟨group, replies⟩ = replies.filterMap liveRecord? := rfl
      rw [Sighting.nodeGroup?, hlive, hbounds]
      cases hvote : LaunchAttributes.ofMembers settings.conflictPolicy
          (replies.filterMap liveRecord?) with
      | error error =>
        rw [hvote] at h
        obtain ⟨rfl, ⟨⟩⟩ := h
        exact ⟨List.append_nil _, rfl⟩
      | ok attributes =>
        rw [hvote, Bounds.ofDescription, hbounds] at h
        obtain ⟨rfl, ⟨⟩⟩ := h
        exact ⟨List.append_nil _, rfl⟩

/-- The candidates among the groups of a cluster are sighted in their order, and the findings
surface what the sightings make node groups. -/
theorem sightings_of_examineAll {groups : List InstanceGroup} {findings : List Finding}
    (hgroups : ∀ group ∈ groups, ofCluster settings group = true)
    (h : (examineAll settings payload parent groups).run.Transcript clock record
      (.ok findings)) :
    ∃ sightings : List Sighting, sightings.map (·.group) = groups.filter (candidate settings) ∧
      (∀ s ∈ sightings, s.Complete) ∧ record = sightings.flatMap (·.exchanges) ∧
      findings.length = groups.length ∧
      surfacedBy findings = sightings.filterMap fun s =>
        (s.nodeGroup? settings payload parent).map fun g => (s.group, g) := by
  induction groups generalizing record findings with
  | nil =>
    obtain ⟨rfl, ⟨⟩⟩ := h
    exact ⟨[], rfl, List.forall_mem_nil _, rfl, rfl, rfl⟩
  | cons group rest ih =>
    simp only [examineAll, transcript_exceptT_bind, transcript_exceptT_pure] at h
    obtain ⟨error, -, ⟨⟩⟩ | ⟨first, _, finding, rfl, hfirst, h⟩ := h
    obtain ⟨error, -, ⟨⟩⟩ | ⟨later, _, findings, rfl, hrest, rfl, ⟨⟩⟩ := h
    rw [List.forall_mem_cons] at hgroups
    obtain ⟨sightings, hcandidates, hcomplete, rfl, hlength, hsurfaced⟩ := ih hgroups.2 hrest
    obtain ⟨hskip, rfl, rfl⟩ | ⟨s, rfl, hcandidate, hs, rfl, hfinding⟩ :=
      sighting_of_examine hgroups.1 hfirst
    · -- A group that is skipped at once leaves no sighting, only a finding.
      refine ⟨sightings, ?_, hcomplete, by simp, congrArg (· + 1) hlength, hsurfaced⟩
      rw [hcandidates, List.filter_cons_of_neg (by simp [hskip])]
    · refine ⟨s :: sightings, ?_, List.forall_mem_cons.mpr ⟨hs, hcomplete⟩, by simp,
        congrArg (· + 1) hlength, ?_⟩
      · rw [List.map_cons, hcandidates, List.filter_cons_of_pos hcandidate]
      · rw [surfacedBy, List.filterMap_cons, hfinding, List.filterMap_cons, ← hsurfaced]
        cases s.nodeGroup? settings payload parent <;> rfl

/-- A complete cycle is a listing followed by the sightings of its candidates, and its census is
that of the groups that they surface. -/
theorem sightings_of_discover {found : Census}
    (h : (discover settings payload).run.Transcript clock record (.ok found)) :
    ∃ (groups : List InstanceGroup) (findings : List Finding) (sightings : List Sighting),
      record = ⟨.listGroups, .ok groups⟩ :: sightings.flatMap (·.exchanges) ∧
      sightings.map (·.group) = groups.filter (candidate settings) ∧
      (∀ s ∈ sightings, s.Complete) ∧ found = .ofFindings findings ∧
      findings.length = (groups.filter (ofCluster settings)).length ∧
      surfacedBy findings = sightings.filterMap fun s =>
        (s.nodeGroup? settings payload (parentGroup? settings groups)).map
          fun g => (s.group, g) := by
  simp only [discover, listGroups, transcript_exceptT_bind, transcript_exceptT_pure] at h
  obtain ⟨error, -, ⟨⟩⟩ | ⟨_, later, groups, rfl, ⟨reply, _, rfl, hreply⟩, h⟩ := h
  obtain ⟨error, -, ⟨⟩⟩ | ⟨later, _, findings, rfl, hexamine, rfl, ⟨⟩⟩ := h
  cases reply with
  | error error =>
    obtain ⟨-, ⟨⟩⟩ := hreply
  | ok listed =>
    obtain ⟨rfl, ⟨⟩⟩ := hreply
    obtain ⟨sightings, hcandidates, hcomplete, rfl, hlength, hsurfaced⟩ :=
      sightings_of_examineAll (by simp) hexamine
    refine ⟨groups, findings, sightings, by simp, ?_, hcomplete, rfl, hlength, hsurfaced⟩
    -- The candidates of the groups of the cluster are the candidates of all groups.
    rw [hcandidates, List.filter_filter]
    refine List.filter_congr fun group _ => ?_
    rw [candidate, Bool.and_assoc]
    cases ofCluster settings group <;> simp

/-! ### What a cycle may ask -/

/-- The requests that a cycle makes: the listing and look-ups of instances. -/
def Surveys (request : Request) : Prop :=
  request = .listGroups ∨ ∃ id, request = .getInstance id

theorem asksOnly_fetchMembers (members : List Member) :
    (fetchMembers members).run.AsksOnly Surveys := by
  induction members with
  | nil => exact trivial
  | cons m rest ih =>
    refine AsksOnly.exceptT_bind ⟨.inr ⟨m.id, rfl⟩, ?_⟩ fun found =>
      AsksOnly.exceptT_bind ih fun others => trivial
    rintro (error | i)
    · dsimp only
      split <;> exact trivial
    · exact trivial

theorem asksOnly_examineAll (groups : List InstanceGroup) :
    (examineAll settings payload parent groups).run.AsksOnly Surveys := by
  induction groups with
  | nil => exact trivial
  | cons group rest ih =>
    refine AsksOnly.exceptT_bind ?_ fun finding => AsksOnly.exceptT_bind ih fun findings => trivial
    simp only [examine]
    split
    · exact trivial
    · refine AsksOnly.exceptT_bind (asksOnly_fetchMembers group.members) fun live => ?_
      split <;> exact trivial

/-- A cycle only lists groups and looks instances up, whatever it is replied. -/
theorem asksOnly_refresh (c : Catalog) : c.refresh.AsksOnly Surveys := by
  have hlist : listGroups.run.AsksOnly Surveys :=
    ⟨.inl rfl, by rintro (error | groups) <;> exact trivial⟩
  have hdiscover : (discover c.settings c.payload).run.AsksOnly Surveys :=
    AsksOnly.exceptT_bind hlist fun groups =>
      AsksOnly.exceptT_bind (asksOnly_examineAll _) fun findings => trivial
  refine AsksOnly.bind hdiscover ?_
  rintro (error | found) <;> exact trivial

/-- A cycle only reads. -/
theorem reads_of_refresh {c : Catalog} {result : Except CatalogError Summary × Catalog}
    (h : c.refresh.Transcript clock record result) : ∀ exchange ∈ record, exchange.1.Reads := by
  intro exchange hexchange
  obtain hlist | ⟨id, hget⟩ := (asksOnly_refresh c).of_mem h exchange hexchange
  · rw [hlist]
    trivial
  · rw [hget]
    trivial

/-! ### Runs with any provider -/

/-- A refreshed catalog holds what the cycle found when the cycle was complete, and is as before
otherwise. -/
theorem transcript_refresh {c after : Catalog} {result : Except CatalogError Summary}
    (h : c.refresh.Transcript clock record (result, after)) :
    (∃ found, (discover c.settings c.payload).run.Transcript clock record (.ok found) ∧
        result = .ok found.summary ∧ after = { c with found }) ∨
      ∃ error, result = .error error ∧ after = c := by
  rw [Catalog.refresh, transcript_bind] at h
  obtain ⟨first, _, error | found, rfl, hdiscover, rfl, ⟨⟩⟩ := h
  · exact .inr ⟨error, rfl, rfl⟩
  · exact .inl ⟨found, by simpa using hdiscover, rfl, rfl⟩

/-- The groups and the node groups that a complete cycle surfaces, as told by its sightings. -/
theorem map_surfaced (sightings : List Sighting) :
    ((sightings.filterMap fun s => (s.nodeGroup? settings payload parent).map
        fun g => (s.group, g)).map (·.1) = surfaced settings payload parent sightings) ∧
      (sightings.filterMap fun s => (s.nodeGroup? settings payload parent).map
        fun g => (s.group, g)).map (·.2) =
          sightings.filterMap (·.nodeGroup? settings payload parent) := by
  induction sightings with
  | nil => exact ⟨rfl, rfl⟩
  | cons s rest ih =>
    rw [surfaced] at ih ⊢
    cases h : s.nodeGroup? settings payload parent <;> simpa [h] using ih

/-- Whatever a provider replies to a cycle that is complete, the cycle has asked for the listing
and for the members of the candidates in it. The node groups are those that the replies make of
the candidates, in the order of the listing; an instance belongs to the last surfaced group that
lists it; and the summary counts the node groups, the instances that the surfaced groups list, and
the other groups of the cluster. -/
theorem refresh_complete {σ : Type} (clock : Clock) (respond : Responder Reply σ) (state : σ)
    (now : Duration) (c : Catalog) (summary : Summary)
    (hok : (c.refresh.run clock respond.recorded ⟨(state, []), now⟩).1.1 = .ok summary) :
    let run := c.refresh.run clock respond.recorded ⟨(state, []), now⟩
    let after := run.1.2
    (∀ group, ofCluster c.settings group = true ↔
        ∃ stem, group.name = stem ++ "." ++ c.settings.clusterName) ∧
      (∀ group, candidate c.settings group = true ↔
        ofCluster c.settings group = true ∧ group.members ≠ [] ∧
          ∃ bounds, Bounds.parse? group.description = some bounds) ∧
      ∃ (groups : List InstanceGroup) (sightings : List Sighting),
        let parent := (groups.find? (·.name = c.settings.clusterName)).map (·.id)
        run.2.partner.2 = ⟨.listGroups, .ok groups⟩ :: sightings.flatMap (·.exchanges) ∧
        sightings.map (·.group) = groups.filter (candidate c.settings) ∧
        (∀ s ∈ sightings, s.Complete) ∧
        after.settings = c.settings ∧ after.payload = c.payload ∧
        after.nodeGroups = sightings.filterMap (·.nodeGroup? c.settings c.payload parent) ∧
        (∀ id, after.membership.find? id =
          (lastLister? (surfaced c.settings c.payload parent sightings) id).map (·.id)) ∧
        summary.groups = after.nodeGroups.length ∧
        summary.instances = after.membership.size ∧
        after.membership.size =
          (listedIn (surfaced c.settings c.payload parent sightings)).toFinset.card ∧
        summary.groups + summary.skipped = (groups.filter (ofCluster c.settings)).length := by
  intro run after
  refine ⟨fun group => ofCluster_iff, fun group => candidate_iff, ?_⟩
  obtain ⟨htranscript, -⟩ := transcript_recorded clock respond c.refresh state now
  obtain ⟨found, hdiscover, hfound, hafter⟩ | ⟨error, herror, -⟩ := transcript_refresh htranscript
  · obtain ⟨groups, findings, sightings, hrecord, hcandidates, hcomplete, rfl, hlength, hsurfaced⟩ :=
      sightings_of_discover hdiscover
    obtain ⟨hgroups, hnodeGroups⟩ :=
      @map_surfaced c.settings c.payload (parentGroup? c.settings groups) sightings
    -- What the sightings surface is what the findings surface, of which the census is made.
    rw [← hsurfaced] at hgroups hnodeGroups
    obtain rfl : summary = (Census.ofFindings findings).summary :=
      Except.ok.inj (hok.symm.trans hfound)
    have hafter : after = { c with found := .ofFindings findings } := hafter
    have hsettings : after.settings = c.settings := by rw [hafter]
    have hpayload : after.payload = c.payload := by rw [hafter]
    have hnodes : after.nodeGroups = (Census.ofFindings findings).nodeGroups := by
      rw [hafter, Catalog.nodeGroups]
    have hindex : after.membership = (Census.ofFindings findings).membership := by
      rw [hafter, Catalog.membership]
    refine ⟨groups, sightings, hrecord, hcandidates, hcomplete, hsettings, hpayload, ?_,
      fun id => ?_, ?_, ?_, ?_, ?_⟩
    · rw [hnodes, Census.nodeGroups_ofFindings, hnodeGroups]
      rfl
    · rw [hindex, Census.find?_ofFindings, hgroups]
      rfl
    · rw [hnodes]
      rfl
    · rw [hindex]
      rfl
    · rw [hindex, Census.size_ofFindings, hgroups]
      rfl
    · have hcount := Census.skipped_ofFindings findings
      rw [← hlength, ← hcount, Census.summary, Census.nodeGroups_ofFindings, List.length_map]
  · exact absurd (hok.symm.trans herror) (by simp)

/-- A cycle on a store with the group of the cluster, a group that lists a live instance and a
deleted one, and a group whose size is fixed. -/
theorem refresh_complete_store :
    let live (id : InstanceId) (group : GroupId) : Instance :=
      ⟨id, "n", "active", "t", ⟨"i", .available⟩, "z", ["main", group], none⟩
    let store : Store :=
      { groups :=
          [⟨"main", "c", "", [⟨"a", "active"⟩, ⟨"b", "active"⟩]⟩,
            ⟨"w", "w.c", "1:3", [⟨"a", "active"⟩, ⟨"gone", "active"⟩]⟩,
            ⟨"s", "s.c", "2:2", [⟨"b", "active"⟩]⟩]
        instances := ((OrderedMap.empty.insert "a" (live "a" "w")).insert "b" (live "b" "s")).insert
          "gone" { live "gone" "w" with deletedAt := some 7 } }
    let join := "kubeadm join 10.0.0.1:6443 --token abcdef.0123456789abcdef " ++
      "--discovery-token-ca-cert-hash sha256:0123abcd"
    ∃ payload : Payload, payload.joinCommand = join ∧
      let c : Catalog := { settings := { clusterName := "c" }, payload }
      let run := c.refresh.run .bounded Store.respond.recorded ⟨(store, []), .zero⟩
      run.1.1 = .ok ⟨1, 2, 1⟩ ∧ run.1.2.membership.find? "gone" = some "w" ∧
        run.1.2.nodeGroups.map (·.template.parentGroupId) = [some "main"] ∧
        run.1.2.membership.size = 2 ∧ run.1.2.payload = payload := by
  intro live store join
  refine ⟨⟨"1.17.4", join, ⟨⟨1, 17, 4, [], []⟩, by decide +kernel⟩, by decide +kernel⟩, rfl, ?_⟩
  intro c run
  have hok : run.1.1 = .ok ⟨1, 2, 1⟩ := by decide +kernel
  obtain ⟨-, -, groups, sightings, -, -, -, -, hpayload, -⟩ :=
    refresh_complete .bounded Store.respond store .zero c ⟨1, 2, 1⟩ hok
  exact ⟨hok, by decide +kernel, by decide +kernel, by decide +kernel, hpayload⟩

end ElasticGroups.Discovery
