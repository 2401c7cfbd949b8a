import ElasticGroups.Cloud.Snapshot
import ElasticGroups.Proofs.Data.Writing

/-!
# Round trips of cloud records

The records of the provider are read back from their document form, and from everything that may be
written in its place.

The module introduces, for every record, what may be written in place of its document form:
`Member.writing`, `ImageRef.writing`, `InstanceGroup.writing`, `Instance.writing`,
`LaunchTemplate.writing` and `Snapshot.writing`. A time of deletion must fit a word
(`Instance.Fits`, `Snapshot.Fits`).
-/

namespace ElasticGroups.Cloud

open Data Writing

namespace Member

/-- The fields of a member. -/
def writing : Writing := fieldwise [.required "id" verbatim, .required "status" verbatim]

theorem roundTrips : RoundTrips (fun _ : Member => True) writing toValue ofValue? := by
  refine .of_fields (fun _ => rfl) ?_ (fun _ => by simp) ?_ fun _ _ _ => trivial
  · rintro m given - h
    have hfields : (Value.record given).fields? ["id", "status"] = some given :=
      Field.fields?_of_given h
    simp only [List.forall_mem_cons] at h
    obtain ⟨hid, hstatus, -⟩ := h
    rw [ofValue?, hfields, Option.bind_eq_bind, Option.bind_some, hid.text rfl,
      hstatus.text rfl]
    rfl
  · intro m
    simp only [List.forall_mem_cons]
    exact ⟨⟨_, rfl, rfl⟩, ⟨_, rfl, rfl⟩, List.forall_mem_nil _⟩

end Member

namespace ImageStatus

/-- A standing is read back from its word. -/
theorem ofValue?_toValue (status : ImageStatus) : ofValue? status.toValue = some status :=
  congrArg some (ofLabel_label status)

end ImageStatus

namespace ImageRef

/-- The fields of an image reference. An image of which nothing is said has no known standing. -/
def writing : Writing :=
  fieldwise [.required "id" verbatim, .optional "status" (.text "unknown") verbatim]

theorem roundTrips : RoundTrips (fun _ : ImageRef => True) writing toValue ofValue? := by
  refine .of_fields (fun _ => rfl) ?_ (fun _ => by simp) ?_ fun _ _ _ => trivial
  · rintro image given - h
    have hfields : (Value.record given).fields? ["id", "status"] = some given :=
      Field.fields?_of_given h
    simp only [List.forall_mem_cons] at h
    obtain ⟨hid, hstatus, -⟩ := h
    have hread : optional? given "status" .unknown ImageStatus.ofValue? = some image.status :=
      hstatus.optional rfl (reads_verbatim (ImageStatus.ofValue?_toValue image.status)) rfl
        (ImageStatus.ofValue?_toValue .unknown)
    rw [ofValue?, hfields, Option.bind_eq_bind, Option.bind_some, hid.text rfl, hread]
    rfl
  · intro image
    simp only [List.forall_mem_cons]
    exact ⟨⟨_, rfl, rfl⟩, ⟨_, rfl, rfl⟩, List.forall_mem_nil _⟩

example : ofValue? (.list [.text "img", .text "retired"]) = some ⟨"img", .unknown⟩ := by decide

end ImageRef

namespace InstanceGroup

/-- The fields of a group. A group without a list of members has none. -/
def writing : Writing :=
  fieldwise [.required "id" verbatim, .required "name" verbatim,
    .optional "description" (.text "") verbatim,
    .optional "members" (.list []) (itemwise Member.writing)]

theorem roundTrips : RoundTrips (fun _ : InstanceGroup => True) writing toValue ofValue? := by
  refine .of_fields (fun _ => rfl) ?_ (fun _ => by simp) ?_ fun _ _ _ => trivial
  · rintro g given - h
    have hfields : (Value.record given).fields? ["id", "name", "description", "members"] =
        some given := Field.fields?_of_given h
    simp only [List.forall_mem_cons] at h
    obtain ⟨hid, hname, hdescription, hmembers, -⟩ := h
    have hread : optional? given "members" [] (Value.listOf? Member.ofValue?) = some g.members :=
      hmembers.items Member.roundTrips (fun _ _ => trivial) rfl
    rw [ofValue?, hfields, Option.bind_eq_bind, Option.bind_some, hid.text rfl, hname.text rfl,
      hdescription.textOr rfl, hread]
    rfl
  · intro g
    simp only [List.forall_mem_cons]
    exact ⟨⟨_, rfl, rfl⟩, ⟨_, rfl, rfl⟩, ⟨_, rfl, rfl⟩,
      ⟨_, rfl, Member.roundTrips.items_written g.members⟩, List.forall_mem_nil _⟩

end InstanceGroup

namespace Instance

/-- The time of deletion fits a word. -/
def Fits (i : Instance) : Prop := ∀ n ∈ i.deletedAt, n < Text.wordLimit

/-- The fields of an instance. -/
def writing : Writing :=
  fieldwise [.required "id" verbatim, .required "name" verbatim, .required "status" verbatim,
    .required "instance_type" verbatim, .required "image" ImageRef.writing,
    .optional "zone_id" (.text "") verbatim, .optional "group_ids" (.list []) verbatim,
    .optional "deleted_at" .null verbatim]

/-- What is read as an instance fits. -/
theorem fits_of_ofValue? {v : Value} {i : Instance} (h : ofValue? v = some i) : i.Fits := by
  simp only [ofValue?, Option.bind_eq_bind, Option.bind_eq_some_iff, Option.pure_def,
    Option.some.injEq] at h
  obtain ⟨fields, -, _, -, _, -, _, -, _, -, _, -, _, -, _, -, deletedAt, hdeleted, rfl⟩ := h
  obtain rfl | ⟨w, hw⟩ := optional?_eq_some hdeleted
  · exact nofun
  · exact lt_wordLimit_of_orNull? hw

theorem roundTrips : RoundTrips Fits writing toValue ofValue? := by
  refine .of_fields (fun _ => rfl) ?_ (fun _ => by simp) ?_ fun v i => fits_of_ofValue?
  · rintro i given hi h
    have hfields : (Value.record given).fields? ["id", "name", "status", "instance_type", "image",
        "zone_id", "group_ids", "deleted_at"] = some given := Field.fields?_of_given h
    simp only [List.forall_mem_cons] at h
    obtain ⟨hid, hname, hstatus, htype, himage, hzone, hgroups, hdeleted, -⟩ := h
    have himage' : required? given "image" ImageRef.ofValue? = some i.image :=
      himage.required rfl (ImageRef.roundTrips.reads trivial)
    have hgroups' : optional? given "group_ids" [] (Value.listOf? Value.text?) =
        some i.groupIds := hgroups.optional rfl (reads_verbatim (listOf?_texts _)) rfl rfl
    have hdeleted' : optional? given "deleted_at" none (Value.orNull? Value.word?) =
        some i.deletedAt := hdeleted.optional rfl (reads_verbatim (orNull?_natOrNull hi)) rfl rfl
    rw [ofValue?, hfields, Option.bind_eq_bind, Option.bind_some, hid.text rfl, hname.text rfl,
      hstatus.text rfl, htype.text rfl, himage', hzone.textOr rfl, hgroups', hdeleted']
    rfl
  · intro i
    simp only [List.forall_mem_cons]
    exact ⟨⟨_, rfl, rfl⟩, ⟨_, rfl, rfl⟩, ⟨_, rfl, rfl⟩, ⟨_, rfl, rfl⟩,
      ⟨_, rfl, ImageRef.roundTrips.encode_written i.image⟩, ⟨_, rfl, rfl⟩, ⟨_, rfl, rfl⟩,
      ⟨_, rfl, rfl⟩, List.forall_mem_nil _⟩

end Instance

namespace LaunchTemplate

/-- The fields of a launch template. -/
def writing : Writing :=
  fieldwise [.required "name" verbatim, .required "instance_type" verbatim,
    .required "image_id" verbatim, .optional "zone_id" .null verbatim,
    .required "group_id" verbatim, .optional "parent_group_id" .null verbatim,
    .required "user_data" verbatim]

theorem roundTrips : RoundTrips (fun _ : LaunchTemplate => True) writing toValue ofValue? := by
  refine .of_fields (fun _ => rfl) ?_ (fun _ => by simp) ?_ fun _ _ _ => trivial
  · rintro t given - h
    have hfields : (Value.record given).fields? ["name", "instance_type", "image_id", "zone_id",
        "group_id", "parent_group_id", "user_data"] = some given := Field.fields?_of_given h
    simp only [List.forall_mem_cons] at h
    obtain ⟨hname, htype, himage, hzone, hgroup, hparent, hdata, -⟩ := h
    rw [ofValue?, hfields, Option.bind_eq_bind, Option.bind_some, hname.text rfl, htype.text rfl,
      himage.text rfl, hzone.textOrNull rfl, hgroup.text rfl, hparent.textOrNull rfl,
      hdata.text rfl]
    rfl
  · intro t
    simp only [List.forall_mem_cons]
    exact ⟨⟨_, rfl, rfl⟩, ⟨_, rfl, rfl⟩, ⟨_, rfl, rfl⟩, ⟨_, rfl, rfl⟩, ⟨_, rfl, rfl⟩,
      ⟨_, rfl, rfl⟩, ⟨_, rfl, rfl⟩, List.forall_mem_nil _⟩

end LaunchTemplate

namespace Snapshot

/-- The times of deletion fit a word. -/
def Fits (s : Snapshot) : Prop := ∀ i ∈ s.instances, i.Fits

/-- The fields of a snapshot. -/
def writing : Writing :=
  fieldwise [.optional "groups" (.list []) (itemwise InstanceGroup.writing),
    .optional "instances" (.list []) (itemwise Instance.writing)]

/-- What is read as a snapshot fits. -/
theorem fits_of_ofValue? {v : Value} {s : Snapshot} (h : ofValue? v = some s) : s.Fits := by
  simp only [ofValue?, Option.bind_eq_bind, Option.bind_eq_some_iff, Option.pure_def,
    Option.some.injEq] at h
  obtain ⟨fields, -, _, -, instances, hinstances, rfl⟩ := h
  obtain rfl | ⟨w, hw⟩ := optional?_eq_some hinstances
  · exact List.forall_mem_nil _
  · exact forall_mem_of_listOf? (fun v i => Instance.fits_of_ofValue?) hw

theorem roundTrips : RoundTrips Fits writing toValue ofValue? := by
  refine .of_fields (fun _ => rfl) ?_ (fun _ => by simp) ?_ fun v s => fits_of_ofValue?
  · rintro s given hs h
    have hfields : (Value.record given).fields? ["groups", "instances"] = some given :=
      Field.fields?_of_given h
    simp only [List.forall_mem_cons] at h
    obtain ⟨hgroup, hinstance, -⟩ := h
    have hgroup' : optional? given "groups" [] (Value.listOf? InstanceGroup.ofValue?) =
        some s.groups := hgroup.items InstanceGroup.roundTrips (fun _ _ => trivial) rfl
    have hinstance' : optional? given "instances" [] (Value.listOf? Instance.ofValue?) =
        some s.instances := hinstance.items Instance.roundTrips hs rfl
    rw [ofValue?, hfields, Option.bind_eq_bind, Option.bind_some, hgroup', hinstance']
    rfl
  · intro s
    simp only [List.forall_mem_cons]
    exact ⟨⟨_, rfl, InstanceGroup.roundTrips.items_written s.groups⟩,
      ⟨_, rfl, Instance.roundTrips.items_written s.instances⟩, List.forall_mem_nil _⟩

end Snapshot

end ElasticGroups.Cloud
