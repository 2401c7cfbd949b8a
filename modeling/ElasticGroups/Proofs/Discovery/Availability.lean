import ElasticGroups.Proofs.Discovery.Consensus

/-!
# Available images

When an image that is available prevails over the others. An available image leads wherever it is
reported, unless another one is available too, so from the first member that reports it on nothing
can split the members on the image any more. In front of that member they may be split on images of
a lower standing, and such a conflict is not undone by what follows it.

The module introduces:

* `OffersAvailable i` — the member reports an image that is available;
* `beforeAvailable members` — the members in front of the first that does.

Members that report one type and one available image settle on these exactly if those in front of
the image agree, and clash on the image among those in front of it otherwise
(`ofMembers_reject_available`).
-/

namespace ElasticGroups.Cloud.ImageStatus

/-- No standing is above that of an available image. -/
theorem rank_le_available (status : ImageStatus) : status.rank ≤ available.rank := by
  cases status <;> decide

/-- Only an available image has the highest standing. -/
theorem eq_available_of_rank_le {status : ImageStatus} (h : available.rank ≤ status.rank) :
    status = available := by
  revert h
  cases status <;> decide

end ElasticGroups.Cloud.ImageStatus

namespace ElasticGroups.Discovery

open Cloud

/-- The member reports an image that is available. -/
def OffersAvailable (i : Instance) : Prop := i.image.status = .available ∧ i.image.id ≠ ""

instance : DecidablePred OffersAvailable := fun _ => inferInstanceAs (Decidable (_ ∧ _))

/-- The members in front of the first one that reports an available image. -/
def beforeAvailable (members : List Instance) : List Instance :=
  members.takeWhile fun i => ¬ OffersAvailable i

variable {subject : Attribute} {members first : List Instance} {type image : String}

/-- First members that report no available image are in front of the first that does. -/
theorem prefix_beforeAvailable (hbegins : first <+: members)
    (hnone : ∀ i ∈ first, ¬ OffersAvailable i) : first <+: beforeAvailable members := by
  obtain ⟨rest, rfl⟩ := hbegins
  rw [beforeAvailable, List.takeWhile_append_of_pos (by simpa using hnone)]
  exact List.prefix_append _ _

/-! ### What leads -/

/-- When one value is all that leads, the candidates are not split. -/
theorem not_split_of_leads {heard : List Candidate} (value : String)
    (h : ∀ other, Leads heard other → other = value) : ¬ Split heard := by
  rintro ⟨first, second, hne, hfirst, hsecond⟩
  exact hne ((h first hfirst).trans (h second hsecond).symm)

/-- A vote that holds what leads holds the one value that leads. -/
theorem Holds.exists_eq {heard : List Candidate} {held : Option Candidate} {value : String}
    (h : Holds heard held) (hleads : ∀ other, Leads heard other ↔ other = value) :
    ∃ best, held = some best ∧ best.value = value := by
  cases held with
  | none =>
    obtain rfl : heard = [] := h
    obtain ⟨c, hc, -⟩ := (hleads value).mpr rfl
    cases hc
  | some best => exact ⟨best, rfl, (hleads best.value).mp (h.leads_iff.mpr rfl)⟩

/-- Where one available image is reported and no other, it leads alone. -/
theorem leads_image_iff_of_available (himage : ∃ i ∈ members, OffersAvailable i)
    (himages : ∀ i ∈ members, OffersAvailable i → i.image.id = image) (value : String) :
    Leads (Attribute.image.heard members) value ↔ value = image := by
  obtain ⟨i, hi, hstatus, hid⟩ := himage
  have hheard : Attribute.image.reported i ∈ Attribute.image.heard members :=
    mem_heard_iff.mpr ⟨hid, i, hi, rfl⟩
  constructor
  · rintro ⟨c, hc, rfl, htop⟩
    -- What leads stands no lower than an available image, so it is available itself.
    obtain ⟨hvalue, j, hj, rfl⟩ := mem_heard_iff.mp hc
    have hrank : i.image.status.rank ≤ j.image.status.rank := htop _ hheard
    rw [hstatus] at hrank
    exact himages j hj ⟨ImageStatus.eq_available_of_rank_le hrank, hvalue⟩
  · rintro rfl
    refine ⟨_, hheard, himages i hi ⟨hstatus, hid⟩, fun other _ => ?_⟩
    show other.standing.rank ≤ i.image.status.rank
    rw [hstatus]
    exact ImageStatus.rank_le_available other.standing

/-! ### The consensus -/

section OneType

variable (htypes : ∀ i ∈ members, i.instanceType ≠ "" → i.instanceType = type)

include htypes

/-- Members that report one type are not split on it. -/
theorem not_split_instanceType (hbegins : first <+: members) :
    ¬ Split (Attribute.instanceType.heard first) := by
  refine not_split_of_leads type fun other hother => ?_
  obtain ⟨hvalue, i, hi, rfl⟩ := leads_instanceType_iff.mp hother
  exact htypes i (hbegins.subset hi) hvalue

variable (himages : ∀ i ∈ members, OffersAvailable i → i.image.id = image)

include himages

/-- First members that are split are in front of the available image, and split on their images. -/
theorem prefix_beforeAvailable_of_split (hbegins : first <+: members)
    (hsplit : Split (subject.heard first)) :
    first <+: beforeAvailable members ∧ subject = .image := by
  cases subject with
  | instanceType => exact absurd hsplit (not_split_instanceType htypes hbegins)
  | image =>
    refine ⟨prefix_beforeAvailable hbegins fun i hi hoffers => ?_, rfl⟩
    refine not_split_of_leads image (fun other hother => ?_) hsplit
    exact (leads_image_iff_of_available ⟨i, hi, hoffers⟩
      (fun j hj => himages j (hbegins.subset hj)) other).mp hother

/-- Members agree when those in front of the available image do. -/
theorem agreed_iff_beforeAvailable : Agreed members ↔ Agreed (beforeAvailable members) := by
  constructor
  · intro h first hfirst
    exact h first (hfirst.trans (List.takeWhile_prefix _))
  · intro h first hfirst subject hsplit
    have hbefore := (prefix_beforeAvailable_of_split htypes himages hfirst hsplit).1
    exact h first hbefore subject hsplit

/-- Members that clash do so in front of the available image, and on their images. -/
theorem Clash.beforeAvailable {kept rejected : String}
    (h : Clash members subject kept rejected) :
    subject = .image ∧ Clash (beforeAvailable members) .image kept rejected := by
  obtain ⟨before, last, hbegins, hagreed, hsplit, hrest⟩ := h
  obtain ⟨hbefore, rfl⟩ := prefix_beforeAvailable_of_split htypes himages hbegins hsplit
  exact ⟨rfl, before, last, hbefore, hagreed, hsplit, hrest⟩

end OneType

/-- Take members that report one type, and one available image besides any that are deprecated or
unknown. When conflicts are rejected, they settle on this type and this image exactly if the members
in front of the first report of the image agree, in whatever order the others follow. Otherwise they
fail with the first conflict among the images in front of it. -/
theorem ofMembers_reject_available (members : List Instance) (type image : String)
    (htype : ∃ i ∈ members, i.instanceType ≠ "")
    (htypes : ∀ i ∈ members, i.instanceType ≠ "" → i.instanceType = type)
    (himage : ∃ i ∈ members, OffersAvailable i)
    (himages : ∀ i ∈ members, OffersAvailable i → i.image.id = image) :
    ((∃ zone, LaunchAttributes.ofMembers .reject members = .ok ⟨type, image, zone⟩) ↔
        Agreed (beforeAvailable members)) ∧
      (¬ Agreed (beforeAvailable members) → ∃ kept rejected,
        Clash (beforeAvailable members) .image kept rejected ∧
          LaunchAttributes.ofMembers .reject members =
            .error (.conflict .image kept rejected)) := by
  have hmembers : members ≠ [] := by
    obtain ⟨i, hi, -⟩ := himage
    exact List.ne_nil_of_mem hi
  have hleadsType : ∀ value, Leads (Attribute.instanceType.heard members) value ↔ value = type := by
    intro value
    rw [leads_instanceType_iff]
    obtain ⟨i, hi, hreported⟩ := htype
    constructor
    · rintro ⟨hvalue, j, hj, rfl⟩
      exact htypes j hj hvalue
    · rintro rfl
      have heq := htypes i hi hreported
      exact ⟨heq ▸ hreported, i, hi, heq⟩
  rcases Ballot.of_foldlM members with ⟨ballot, hballot, hof, hagreed⟩ |
    ⟨subject, kept, rejected, herror, hclash⟩
  · -- All members are heard, and the votes hold the type and the image that lead.
    have hbefore := (agreed_iff_beforeAvailable htypes himages).mp hagreed
    obtain ⟨bestType, hheldType, hvalueType⟩ := (hof.holds .instanceType).exists_eq hleadsType
    obtain ⟨bestImage, hheldImage, hvalueImage⟩ := (hof.holds .image).exists_eq
      (leads_image_iff_of_available himage himages)
    have hok : LaunchAttributes.ofMembers .reject members =
        .ok ⟨type, image, ballot.zone.zone?⟩ :=
      LaunchAttributes.ofMembers_eq_ok_iff.mpr ⟨hmembers, ballot, hballot,
        Ballot.settle_eq_ok_iff.mpr
          ⟨⟨bestType, hheldType, hvalueType⟩, ⟨bestImage, hheldImage, hvalueImage⟩, rfl⟩⟩
    exact ⟨iff_of_true ⟨_, hok⟩ hbefore, fun hnot => absurd hbefore hnot⟩
  · obtain ⟨rfl, hbefore⟩ := hclash.beforeAvailable htypes himages
    have herror : LaunchAttributes.ofMembers .reject members =
        .error (.conflict .image kept rejected) := by
      rw [LaunchAttributes.ofMembers, if_neg hmembers, herror]
      rfl
    refine ⟨iff_of_false ?_ hbefore.not_agreed, fun _ => ⟨kept, rejected, hbefore, herror⟩⟩
    rintro ⟨zone, hok⟩
    rw [herror] at hok
    cases hok

/-- Four members with one available image among others: the deprecated image in front of it, and
the deprecated and the unknown one behind it, do not matter. -/
theorem ofMembers_reject_available_between :
    let live (id image : String) (status : ImageStatus) : Instance :=
      ⟨id, "n", "active", "t", ⟨image, status⟩, "z", ["g"], none⟩
    let members := [live "a" "old" .deprecated, live "b" "new" .available,
      live "c" "older" .deprecated, live "d" "lost" .unknown]
    (∃ i ∈ members, i.instanceType ≠ "") ∧
      (∀ i ∈ members, i.instanceType ≠ "" → i.instanceType = "t") ∧
      (∃ i ∈ members, OffersAvailable i) ∧
      (∀ i ∈ members, OffersAvailable i → i.image.id = "new") ∧
      LaunchAttributes.ofMembers .reject members = .ok ⟨"t", "new", some "z"⟩ ∧
      Agreed (beforeAvailable members) := by
  intro live members
  have htype : ∃ i ∈ members, i.instanceType ≠ "" := by decide
  have htypes : ∀ i ∈ members, i.instanceType ≠ "" → i.instanceType = "t" := by decide
  have himage : ∃ i ∈ members, OffersAvailable i := by decide
  have himages : ∀ i ∈ members, OffersAvailable i → i.image.id = "new" := by decide
  have hok : LaunchAttributes.ofMembers .reject members = .ok ⟨"t", "new", some "z"⟩ := by decide
  exact ⟨htype, htypes, himage, himages, hok,
    (ofMembers_reject_available members "t" "new" htype htypes himage himages).1.mp ⟨_, hok⟩⟩

/-- An available image does not prevail in every order of the members: behind two deprecated images
that differ it comes too late, and in front of them it is in time. -/
theorem conflict_before_available :
    let live (id image : String) (status : ImageStatus) : Instance :=
      ⟨id, "n", "active", "t", ⟨image, status⟩, "z", ["g"], none⟩
    let members := [live "a" "old" .deprecated, live "b" "older" .deprecated,
      live "c" "new" .available]
    (∃ i ∈ members, i.instanceType ≠ "") ∧
      (∀ i ∈ members, i.instanceType ≠ "" → i.instanceType = "t") ∧
      (∃ i ∈ members, OffersAvailable i) ∧
      (∀ i ∈ members, OffersAvailable i → i.image.id = "new") ∧
      LaunchAttributes.ofMembers .reject members = .error (.conflict .image "old" "older") ∧
      LaunchAttributes.ofMembers .reject members.reverse = .ok ⟨"t", "new", some "z"⟩ := by
  decide

end ElasticGroups.Discovery
