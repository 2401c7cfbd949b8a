import ElasticGroups.Discovery.Settings
import ElasticGroups.Proofs.Cloud.Codec
import ElasticGroups.Proofs.Duration

/-!
# Round trips of settings and of all documents

Settings are read back from their document form, in the convention of any source, if their
durations can be said in the configured form. With the records of the provider these are all of the
documents (`roundTrips_documents`).

The module introduces what may be written in place of settings: `Convergence.writing` and
`Settings.writing`.
-/

namespace ElasticGroups

open Data Writing

namespace Convergence

/-- Both durations can be said in the configured form. -/
def Configurable (c : Convergence) : Prop := c.interval.Configurable ∧ c.timeout.Configurable

/-- The fields of a convergence. -/
def writing : Writing :=
  fieldwise [.optional "interval" (.text "1s") verbatim, .optional "timeout" (.text "30s") verbatim]

/-- The default convergence can be said in the configured form. -/
theorem configurable_default : Configurable {} :=
  ⟨⟨"1s", by decide +kernel⟩, ⟨"30s", by decide +kernel⟩⟩

/-- What is read as a duration can be said in the configured form. -/
theorem configurable_of_durationOfValue? {v : Value} {d : Duration}
    (h : durationOfValue? v = some d) : d.Configurable := by
  obtain ⟨s, -, hs⟩ := Option.bind_eq_some_iff.mp h
  exact ⟨s, hs⟩

/-- What is read as a convergence can be said in the configured form. -/
theorem configurable_of_ofValue? {convention : Convention} {v : Value} {c : Convergence}
    (h : ofValue? convention v = some c) : c.Configurable := by
  have hfield : ∀ {fields name} {default d : Duration}, default.Configurable →
      optional? fields name default durationOfValue? = some d → d.Configurable := by
    intro fields name default d hdefault hd
    obtain rfl | ⟨w, hw⟩ := optional?_eq_some hd
    · exact hdefault
    · exact configurable_of_durationOfValue? hw
  simp only [ofValue?, Option.bind_eq_bind, Option.bind_eq_some_iff, Option.pure_def,
    Option.some.injEq] at h
  obtain ⟨fields, -, interval, hinterval, timeout, htimeout, rfl⟩ := h
  exact ⟨hfield configurable_default.1 hinterval, hfield configurable_default.2 htimeout⟩

theorem roundTrips (convention : Convention) :
    RoundTrips Configurable writing toValue (ofValue? convention) := by
  refine .of_fields (fun _ => rfl) ?_ (fun _ => by simp) ?_ fun v c => configurable_of_ofValue?
  · rintro c given ⟨hinterval, htimeout⟩ h
    have hfields : convention.fields? ["interval", "timeout"] (.record given) = some given :=
      Field.convention_fields?_of_given convention h
    simp only [List.forall_mem_cons] at h
    obtain ⟨hgiven, hgiven', -⟩ := h
    have hread : optional? given "interval" (.ofSeconds 1) durationOfValue? = some c.interval :=
      hgiven.optional rfl (reads_verbatim hinterval.parse?_format) rfl (by decide +kernel)
    have hread' : optional? given "timeout" (.ofSeconds 30) durationOfValue? = some c.timeout :=
      hgiven'.optional rfl (reads_verbatim htimeout.parse?_format) rfl (by decide +kernel)
    rw [ofValue?, hfields, Option.bind_eq_bind, Option.bind_some, hread, hread']
    rfl
  · intro c
    simp only [List.forall_mem_cons]
    exact ⟨⟨_, rfl, rfl⟩, ⟨_, rfl, rfl⟩, List.forall_mem_nil _⟩

/-- Writing durations and reading them agree wherever they can. A duration is read back with what is
shorter than a millisecond cut off, unless it is written in more milliseconds than fit a word. So
what is read from a text is read again from its configured form, and a convergence that is read from
a document, in whatever convention, is read from its own document in any other. -/
theorem written_reads_back :
    (∀ secs nanos : Nat, secs < Text.wordLimit → nanos < 1000000000 →
      Duration.parse? (Duration.ofSeconds secs + ⟨nanos⟩).format =
        if nanos / 1000000 ≠ 0 ∧ Text.wordLimit ≤ secs * 1000 + nanos / 1000000 then none
        else some (.ofMillis (secs * 1000 + nanos / 1000000))) ∧
      (∀ (s : String) (d : Duration), Duration.parse? s = some d →
        Duration.parse? d.format = some d) ∧
      ∀ (convention convention' : Convention) (v : Value) (c : Convergence),
        ofValue? convention v = some c → ofValue? convention' c.toValue = some c :=
  ⟨fun _ _ hsecs hnanos => Duration.parse?_format_add hsecs hnanos,
    fun s _ h => Duration.Configurable.parse?_format ⟨s, h⟩,
    fun _ convention' _ _ h => (roundTrips convention').decode_encode (configurable_of_ofValue? h)⟩

end Convergence

namespace Discovery

namespace ConflictPolicy

/-- A policy is read back from its word. -/
theorem ofValue?_label (convention : Convention) (policy : ConflictPolicy) :
    ofValue? convention (.text policy.label) = some policy := by
  cases policy <;> rfl

end ConflictPolicy

namespace Settings

/-- Both durations can be said in the configured form. -/
def Configurable (s : Settings) : Prop := s.convergence.Configurable

/-- The fields of settings. -/
def writing : Writing :=
  fieldwise [.required "cluster_name" verbatim,
    .optional "server_name_prefix" (.text "auto.") verbatim,
    .optional "conflict_policy" (.text "reject") verbatim,
    .optional "convergence" (Convergence.toValue {}) Convergence.writing]

/-- What is read as settings can be said in the configured form. -/
theorem configurable_of_ofValue? {convention : Convention} {v : Value} {s : Settings}
    (h : ofValue? convention v = some s) : s.Configurable := by
  simp only [ofValue?, Option.bind_eq_bind, Option.bind_eq_some_iff, Option.pure_def,
    Option.some.injEq] at h
  obtain ⟨fields, -, _, -, _, -, _, -, convergence, hconvergence, rfl⟩ := h
  obtain rfl | ⟨w, hw⟩ := optional?_eq_some hconvergence
  · exact Convergence.configurable_default
  · exact Convergence.configurable_of_ofValue? hw

theorem roundTrips (convention : Convention) :
    RoundTrips Configurable writing toValue (ofValue? convention) := by
  have hconvergence := Convergence.roundTrips convention
  refine .of_fields (fun _ => rfl) ?_ (fun _ => by simp) ?_ fun v s => configurable_of_ofValue?
  · rintro s given hs h
    have hfields : convention.fields? ["cluster_name", "server_name_prefix", "conflict_policy",
        "convergence"] (.record given) = some given :=
      Field.convention_fields?_of_given convention h
    simp only [List.forall_mem_cons] at h
    obtain ⟨hname, hserver, hpolicy, hgiven, -⟩ := h
    have hpolicy' : optional? given "conflict_policy" .reject
        (ConflictPolicy.ofValue? convention) = some s.conflictPolicy :=
      hpolicy.optional rfl (reads_verbatim (ConflictPolicy.ofValue?_label convention _)) rfl
        (ConflictPolicy.ofValue?_label convention .reject)
    have hread : optional? given "convergence" {} (Convergence.ofValue? convention) =
        some s.convergence :=
      hgiven.optional rfl (hconvergence.reads hs) (hconvergence.encode_written s.convergence)
        (hconvergence.decode_encode Convergence.configurable_default)
    rw [ofValue?, hfields, Option.bind_eq_bind, Option.bind_some, hname.text rfl,
      hserver.textOr rfl, hpolicy', hread]
    rfl
  · intro s
    simp only [List.forall_mem_cons]
    exact ⟨⟨_, rfl, rfl⟩, ⟨_, rfl, rfl⟩, ⟨_, rfl, rfl⟩,
      ⟨_, rfl, hconvergence.encode_written s.convergence⟩, List.forall_mem_nil _⟩

end Settings

end Discovery

open Cloud Discovery

/-- Every document is read back from its full form and from all that may be written in its place:
with the fields in any order, fields that have their default left out, and fields that are not
declared added, at every level. What is read from whatever value has a full form that is read as the
same. -/
theorem roundTrips_documents (convention : Convention) :
    RoundTrips (fun _ => True) InstanceGroup.writing InstanceGroup.toValue
        InstanceGroup.ofValue? ∧
      RoundTrips (fun _ => True) Member.writing Member.toValue Member.ofValue? ∧
      RoundTrips Instance.Fits Instance.writing Instance.toValue Instance.ofValue? ∧
      RoundTrips (fun _ => True) ImageRef.writing ImageRef.toValue ImageRef.ofValue? ∧
      RoundTrips (fun _ => True) LaunchTemplate.writing LaunchTemplate.toValue
        LaunchTemplate.ofValue? ∧
      RoundTrips Convergence.Configurable Convergence.writing Convergence.toValue
        (Convergence.ofValue? convention) ∧
      RoundTrips Settings.Configurable Settings.writing Settings.toValue
        (Settings.ofValue? convention) ∧
      RoundTrips Snapshot.Fits Snapshot.writing Snapshot.toValue Snapshot.ofValue? :=
  ⟨InstanceGroup.roundTrips, Member.roundTrips, Instance.roundTrips,
    ImageRef.roundTrips, LaunchTemplate.roundTrips, Convergence.roundTrips convention,
    Settings.roundTrips convention, Snapshot.roundTrips⟩

end ElasticGroups
