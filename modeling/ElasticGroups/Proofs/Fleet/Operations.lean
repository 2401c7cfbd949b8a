import ElasticGroups.Proofs.Fleet.Tending
import ElasticGroups.Proofs.Scaling.Deletion
import ElasticGroups.Proofs.Scaling.Growth
import ElasticGroups.Proofs.Scaling.Refusal

/-!
# Operations tend the groups

What the operations of a node group do to a store that it governs a group of: whatever their
outcome, the store stays orderly and the groups of the cluster are tended. An operation is known
by its record, which says what it asked and what the store gave; the look at the size in front of
the creations, or of each destruction, is what keeps the size within its bounds.

A cycle of discovery only reads, and every node group that it finds governs a group of the store
(`governs_of_discover`).
-/

namespace ElasticGroups.Fleet

open Boot Cloud Discovery Scaling Session

variable {settings : Settings} {limit : Nat} {before after : Store} {g : NodeGroup} {n : Nat}
  {total : Duration} {record : List (Sigma Reply)} {outcome : Except NodeGroupError Unit}

/-- A record of reads tends the groups. -/
theorem tended_of_reads (h : Orderly settings limit before)
    (hgives : Store.respond.Gives before record after)
    (hreads : ∀ exchange ∈ record, exchange.1.Reads) :
    Orderly settings limit after ∧ Tended settings before after := by
  have hkept := Store.kept_of_gives hgives hreads
  exact ⟨h.of_kept hkept, .of_kept hkept⟩

/-! ### Growth -/

/-- Creating instances from the template of a node group lets its group grow by as many members at
most as were asked for. -/
theorem grown_of_creations {replies : List (Except ProviderError InstanceId)}
    (h : Orderly settings limit before) (hg : Governs settings before g)
    (hgives : Store.respond.Gives before (asked (.createInstance g.template) replies) after)
    (hlimit : after.created ≤ limit) :
    Orderly settings limit after ∧ Grown settings g.id replies.length before after := by
  -- The induction is on the creations: the names that are left to give out stay free.
  induction replies generalizing before with
  | nil =>
    obtain rfl := hgives
    exact ⟨h, .of_kept (.refl _)⟩
  | cons reply rest ih =>
    obtain ⟨-, hrest⟩ := hgives
    have heffect := Store.effect_respond before (.createInstance g.template)
    have hcreated := Store.created_le_of_gives hrest
    have hfirst := Grown.create h hg heffect
    obtain ⟨horderly, hgrown⟩ :=
      ih (h.create hg heffect (hcreated.trans hlimit)) (hg.of_frames hfirst.frames) hrest
    exact ⟨horderly, hfirst.trans hgrown⟩

/-- Creating no more instances than fit behind a look at the size tends the groups. -/
theorem tended_of_admitted {group : InstanceGroup}
    {replies : List (Except ProviderError InstanceId)}
    {looks : List (Except ProviderError InstanceGroup)}
    (h : Orderly settings limit before) (hg : Governs settings before g)
    (hgives : Store.respond.Gives before
      (⟨.getGroup g.id, .ok group⟩ ::
        (asked (.createInstance g.template) replies ++ asked (.getGroup g.id) looks)) after)
    (hlimit : after.created ≤ limit) (hmax : group.size + replies.length ≤ g.bounds.max) :
    Orderly settings limit after ∧ Tended settings before after := by
  obtain ⟨hsize, hrest⟩ := hgives
  obtain ⟨last, hcreations, hlooks⟩ := Responder.gives_append.mp hrest
  have hfirst := (Store.effect_respond before (.getGroup g.id)).kept_of_reads trivial
  have hlast : Store.Kept last after :=
    Store.kept_of_gives hlooks (by simp [asked, Request.Reads])
  have hgoverns := hg.of_frames (congrArg (List.map _) hfirst.groups)
  -- The size that was shown is still the size when the creations begin.
  have hshown : (Store.respond (.getGroup g.id) before).2.sizeOf g.id = group.size := by
    rw [Store.sizeOf_of_kept hfirst, sizeOf_eq_size (Store.group?_of_reply hsize)]
  obtain ⟨horderly, hgrown⟩ := grown_of_creations (h.of_kept hfirst) hgoverns hcreations
    (hlast.created.trans hlimit)
  have htended := hgrown.tended (h.of_kept hfirst).distinct hgoverns (hshown ▸ hmax)
  exact ⟨horderly.of_kept hlast, ((Tended.of_kept hfirst).trans htended).trans (.of_kept hlast)⟩

/-- A growth tends the groups. -/
theorem tended_of_growth {delta : Int} (hgrowth : Growth g n total delta record outcome)
    (h : Orderly settings limit before) (hg : Governs settings before g)
    (hgives : Store.respond.Gives before record after) (hlimit : after.created ≤ limit) :
    Orderly settings limit after ∧ Tended settings before after := by
  cases hgrowth with
  | notPositive => exact tended_of_reads h hgives (by simp)
  | sizeUnknown => exact tended_of_reads h hgives (by simp [Request.Reads])
  | tooLarge => exact tended_of_reads h hgives (by simp [Request.Reads])
  | @refused group ids error hdelta hmax hids =>
    -- The failed creation is the last request: no look at the size follows it.
    rw [← List.append_nil (asked _ _)] at hgives
    change Store.respond.Gives before (_ :: (_ ++ asked (.getGroup g.id) [])) after at hgives
    refine tended_of_admitted h hg hgives hlimit ?_
    rw [List.length_append, List.length_map, List.length_singleton]
    omega
  | created hdelta hmax hids harrival =>
    refine tended_of_admitted h hg hgives hlimit ?_
    rw [List.length_map]
    omega

/-! ### Deletion -/

/-- Destroying a member right behind a look at a size above the least one tends the groups. -/
theorem tended_of_authorised {id : InstanceId} {group : InstanceGroup} {i : Instance}
    {reply : Reply (.destroyInstance id)} {looks : List (Except ProviderError Instance)}
    (h : Orderly settings limit before) (hg : Governs settings before g)
    (hgives : Store.respond.Gives before
      (⟨.getGroup g.id, .ok group⟩ :: ⟨.getInstance id, .ok i⟩ :: ⟨.destroyInstance id, reply⟩ ::
        asked (.getInstance id) looks) after)
    (hsize : g.bounds.min < group.size) (hi : g.ShowsMember (.ok i)) :
    Orderly settings limit after ∧ Tended settings before after := by
  obtain ⟨hgroup, hfound, -, hlooks⟩ := hgives
  obtain ⟨_, ⟨⟩, -, hmember⟩ := hi
  have hfirst := (Store.effect_respond before (.getGroup g.id)).kept_of_reads trivial
  have hsecond := hfirst.trans ((Store.effect_respond _ (.getInstance id)).kept_of_reads trivial)
  have heffect := Store.effect_respond
    (Store.respond (.getInstance id) (Store.respond (.getGroup g.id) before).2).2
    (.destroyInstance id)
  have hlast : Store.Kept _ after := Store.kept_of_gives hlooks (by simp [asked, Request.Reads])
  have horderly := h.of_kept hsecond
  -- What the two looks have shown still holds when the instance is destroyed.
  have hlarger : g.bounds.min <
      (Store.respond (.getInstance id) (Store.respond (.getGroup g.id) before).2).2.sizeOf g.id := by
    rw [Store.sizeOf_of_kept hsecond, sizeOf_eq_size (Store.group?_of_reply hgroup)]
    exact hsize
  have hknown := Store.find?_of_reply hfound
  rw [hfirst.instances, ← hsecond.instances] at hknown
  have htended := Tended.destroy horderly (hg.of_frames (congrArg (List.map _) hsecond.groups))
    hlarger hknown hmember heffect
  exact ⟨(horderly.destroy heffect).of_kept hlast,
    ((Tended.of_kept hsecond).trans htended).trans (.of_kept hlast)⟩

/-- A removal tends the groups. -/
theorem tended_of_removal {id : InstanceId} (hremoval : Removal g n total id record outcome)
    (h : Orderly settings limit before) (hg : Governs settings before g)
    (hgives : Store.respond.Gives before record after) :
    Orderly settings limit after ∧ Tended settings before after := by
  cases hremoval with
  | sizeUnknown => exact tended_of_reads h hgives (by simp [Request.Reads])
  | atMinimum => exact tended_of_reads h hgives (by simp [Request.Reads])
  | memberUnknown => exact tended_of_reads h hgives (by simp [Request.Reads])
  | foreign => exact tended_of_reads h hgives (by simp [Request.Reads])
  | refused hsize hi =>
    change Store.respond.Gives before (_ :: _ :: _ :: asked (.getInstance id) []) after at hgives
    exact tended_of_authorised h hg hgives hsize hi
  | destroyed hsize hi hdeparture => exact tended_of_authorised h hg hgives hsize hi

/-- A batch of removals tends the groups: each of them begins with a look at the size. -/
theorem tended_of_batch {refs : List InstanceRef} (hbatch : Batch g n total refs record outcome)
    (h : Orderly settings limit before) (hg : Governs settings before g)
    (hgives : Store.respond.Gives before record after) :
    Orderly settings limit after ∧ Tended settings before after := by
  induction hbatch generalizing before with
  | done => exact tended_of_reads h hgives (by simp)
  | stopped hfirst => exact tended_of_removal hfirst h hg hgives
  | next hfirst hlater ih =>
    obtain ⟨middle, hgives, hrest⟩ := Responder.gives_append.mp hgives
    obtain ⟨horderly, htended⟩ := tended_of_removal hfirst h hg hgives
    obtain ⟨horderly', htended'⟩ := ih horderly (hg.of_frames htended.frames) hrest
    exact ⟨horderly', htended.trans htended'⟩

/-! ### Discovery -/

/-- A cycle tends the groups. -/
theorem tended_of_refresh {clock : Clock} {c : Catalog}
    {result : Except CatalogError Summary × Catalog}
    (hrefresh : c.refresh.Transcript clock record result) (h : Orderly settings limit before)
    (hgives : Store.respond.Gives before record after) :
    Orderly settings limit after ∧ Tended settings before after :=
  tended_of_reads h hgives (reads_of_refresh hrefresh)

/-- Every node group that a cycle finds governs a group of the store. -/
theorem governs_of_discover {clock : Clock} {payload : Payload} {found : Census}
    (hdiscover : (discover settings payload).run.Transcript clock record (.ok found))
    (hgives : Store.respond.Gives before record after) :
    ∀ g ∈ found.nodeGroups, Governs settings before g := by
  obtain ⟨groups, findings, sightings, rfl, hcandidates, -, rfl, -, hsurfaced⟩ :=
    sightings_of_discover hdiscover
  obtain rfl : groups = before.groups := Store.groups_of_reply hgives.1
  intro g hg
  -- A node group that was found comes from the sighting of a candidate in the listing.
  rw [Census.nodeGroups_ofFindings, hsurfaced,
    (@map_surfaced settings payload (parentGroup? settings before.groups) sightings).2,
    List.mem_filterMap] at hg
  obtain ⟨s, hs, hnodeGroup⟩ := hg
  obtain ⟨hid, hbounds, htarget, hparent, hpace⟩ := s.nodeGroup?_spec hnodeGroup
  have hgroup : s.group ∈ before.groups.filter (candidate settings) := by
    rw [← hcandidates]
    exact List.mem_map_of_mem hs
  obtain ⟨hlisted, hcandidate⟩ := List.mem_filter.mp hgroup
  refine ⟨⟨s.group, hlisted, hid.symm, (candidate_iff.mp hcandidate).1, hbounds⟩,
    htarget.trans hid.symm, fun parent hp => ?_, hpace⟩
  rw [hparent, parentGroup?, Option.map_eq_some_iff] at hp
  obtain ⟨group, hfound, rfl⟩ := hp
  exact ⟨group, List.mem_of_find?_eq_some hfound, rfl, by simpa using List.find?_some hfound⟩

end ElasticGroups.Fleet
