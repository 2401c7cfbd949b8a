import ElasticGroups.Daemon.Startup
import ElasticGroups.Proofs.Data.Fields

/-!
# A cluster name that overrides the configuration file

A cluster name may be given beside a configuration file, and is then put into the table of the file
before settings are read from it. The settings are decoded from what the table holds under the four
names that they know (`Settings.ofValue?_record_iff`), and what is put under one name leaves the
others alone (`Settings.sameBut_setField`). So a name that is given beside the file is the name of
the settings, whatever the table holds in its place, and all the rest comes from the table
(`Settings.ofTable?_override_iff`). Without one the table has to hold a text or nothing under the
name, and nothing stands for the empty text (`Settings.ofTable?_alone_iff`).

The module introduces `Settings.RestFrom`: the settings other than the name are those of a table.
-/

namespace ElasticGroups

open Data

namespace Discovery.Settings

/-- All settings but the name of the cluster are what the fields of a table decode to. -/
structure RestFrom (table : List (String × Value)) (s : Settings) : Prop where
  /-- The prefix is a text. -/
  serverNamePrefix : Decodes Value.text? "auto." (held "server_name_prefix" table)
    s.serverNamePrefix
  /-- The policy is one of the two words. -/
  conflictPolicy : Decodes (ConflictPolicy.ofValue? .plainTable) .reject
    (held "conflict_policy" table) s.conflictPolicy
  /-- The convergence is a record of its own. -/
  convergence : Decodes (Convergence.ofValue? .plainTable) {} (held "convergence" table)
    s.convergence

variable {table table' : List (String × Value)} {name : String} {s : Settings}

/-! ### What settings are decoded from -/

/-- Settings are decoded from what a table holds under their names: the name of the cluster must be
a text, and the other fields have defaults. -/
theorem ofValue?_record_iff :
    ofValue? .plainTable (.record table) = some s ↔
      held "cluster_name" table = [.text s.clusterName] ∧ s.RestFrom table := by
  simp only [ofValue?, Option.bind_eq_bind, Option.bind_eq_some_iff, Option.pure_def,
    Option.some.injEq, convention_fields?_record_iff, List.forall_mem_cons]
  constructor
  · rintro ⟨_, ⟨rfl, hname, hserver, hpolicy, hconvergence, -⟩, clusterName, hcluster,
      serverNamePrefix, hprefix, policy, hpolicy', convergence, hconvergence', rfl⟩
    obtain ⟨v, hheld, hv⟩ := (required?_eq_some_iff hname).mp hcluster
    obtain rfl := text?_eq_some_iff.mp hv
    exact ⟨hheld, (optional?_eq_some_iff hserver).mp hprefix,
      (optional?_eq_some_iff hpolicy).mp hpolicy',
      (optional?_eq_some_iff hconvergence).mp hconvergence'⟩
  · rintro ⟨hname, hrest⟩
    -- A name that is repeated decodes to nothing, so all four are there once at most.
    have hname' : (held "cluster_name" table).length ≤ 1 := by
      rw [hname]
      exact Nat.le_refl 1
    have hserver := hrest.serverNamePrefix.length_le_one
    have hpolicy := hrest.conflictPolicy.length_le_one
    have hconvergence := hrest.convergence.length_le_one
    exact ⟨table, ⟨rfl, hname', hserver, hpolicy, hconvergence, List.forall_mem_nil _⟩,
      s.clusterName, (required?_eq_some_iff hname').mpr ⟨_, hname, rfl⟩,
      s.serverNamePrefix, (optional?_eq_some_iff hserver).mpr hrest.serverNamePrefix,
      s.conflictPolicy, (optional?_eq_some_iff hpolicy).mpr hrest.conflictPolicy,
      s.convergence, (optional?_eq_some_iff hconvergence).mpr hrest.convergence, rfl⟩

/-- The rest of the settings does not depend on the name of the cluster in the table. -/
theorem RestFrom.congr (h : SameBut "cluster_name" table table') :
    s.RestFrom table' ↔ s.RestFrom table := by
  have hserver := h "server_name_prefix" (by decide)
  have hpolicy := h "conflict_policy" (by decide)
  have hconvergence := h "convergence" (by decide)
  constructor
  · rintro ⟨hs, hp, hc⟩
    exact ⟨hserver ▸ hs, hpolicy ▸ hp, hconvergence ▸ hc⟩
  · rintro ⟨hs, hp, hc⟩
    exact ⟨hserver ▸ hs, hpolicy ▸ hp, hconvergence ▸ hc⟩

/-- The rest of the settings does not include their name. -/
theorem RestFrom.rename (h : s.RestFrom table) (name : String) :
    ({ s with clusterName := name } : Settings).RestFrom table :=
  ⟨h.serverNamePrefix, h.conflictPolicy, h.convergence⟩

/-- There are settings for the rest of a table just when each of the other fields decodes. -/
theorem exists_restFrom_iff :
    (∃ s, RestFrom table s) ↔
      (∃ text, Decodes Value.text? "auto." (held "server_name_prefix" table) text) ∧
        (∃ policy, Decodes (ConflictPolicy.ofValue? .plainTable) .reject
          (held "conflict_policy" table) policy) ∧
        ∃ convergence, Decodes (Convergence.ofValue? .plainTable) {} (held "convergence" table)
          convergence := by
  constructor
  · rintro ⟨s, hserver, hpolicy, hconvergence⟩
    exact ⟨⟨_, hserver⟩, ⟨_, hpolicy⟩, ⟨_, hconvergence⟩⟩
  · rintro ⟨⟨text, hserver⟩, ⟨policy, hpolicy⟩, ⟨convergence, hconvergence⟩⟩
    exact ⟨⟨"", text, policy, convergence⟩, hserver, hpolicy, hconvergence⟩

/-! ### Putting a name into a table -/

/-- A field that is given a new value has this value only. -/
theorem held_setField (name : String) (v : Value) (table : List (String × Value)) :
    held name (setField name v table) = [v] := by
  have hnone : held name (table.filter fun field => field.1 ≠ name) = [] := by
    rw [held, List.filter_filter, List.map_eq_nil_iff, List.filter_eq_nil_iff]
    simp
  rw [setField, held_cons, if_pos rfl, hnone]

/-- Giving one field a new value leaves the others alone. -/
theorem sameBut_setField (name : String) (v : Value) (table : List (String × Value)) :
    SameBut name table (setField name v table) := by
  intro other hother
  have hkept : held other (table.filter fun field => field.1 ≠ name) = held other table := by
    rw [held, held, List.filter_filter]
    congr 1
    refine List.filter_congr fun field _ => ?_
    by_cases h : field.1 = other
    · simp [h, hother]
    · simp [h]
  rw [setField, held_cons, if_neg (Ne.symm hother), hkept]

/-- Settings decoded from a table into which a name was put. -/
theorem ofValue?_setField_iff :
    ofValue? .plainTable (.record (setField "cluster_name" (.text name) table)) = some s ↔
      s.clusterName = name ∧ s.RestFrom table := by
  rw [ofValue?_record_iff, held_setField, RestFrom.congr (sameBut_setField _ _ _)]
  simp [eq_comm]

/-- A name that is given beside a table is the name of the settings, and the rest comes from the
table. -/
theorem ofTable?_override_iff :
    ofTable? (some table) (some name) = some s ↔ s.clusterName = name ∧ s.RestFrom table := by
  have hgiven : ((setField "cluster_name" (.text name) table).lookup "cluster_name").isSome := by
    rw [lookup_eq_head?_held, held_setField]
    rfl
  rw [← ofValue?_setField_iff]
  simp only [ofTable?, Option.getD_some, hgiven, if_true]

/-- Without a name beside it, a table must hold a text under the name of the cluster, or nothing,
and then the name is empty. -/
theorem ofTable?_alone_iff :
    ofTable? (some table) none = some s ↔
      (held "cluster_name" table = [.text s.clusterName] ∨
        held "cluster_name" table = [] ∧ s.clusterName = "") ∧ s.RestFrom table := by
  simp only [ofTable?, Option.getD_some, lookup_eq_head?_held]
  cases hheld : held "cluster_name" table with
  -- The empty text is put under the name when there is nothing, and only then.
  | nil => simp [ofValue?_setField_iff]
  | cons v vs => simp [ofValue?_record_iff, hheld]

/-- The name is all that a name beside a table changes. -/
theorem ofTable?_override_of_alone (h : ofTable? (some table) none = some s) (name : String) :
    ofTable? (some table) (some name) = some { s with clusterName := name } := by
  obtain ⟨-, hrest⟩ := ofTable?_alone_iff.mp h
  exact ofTable?_override_iff.mpr ⟨rfl, hrest.rename name⟩

/-- A name beside a table makes what the table holds in its place unimportant. -/
theorem ofTable?_override_congr (h : SameBut "cluster_name" table table') (name : String) :
    ofTable? (some table') (some name) = ofTable? (some table) (some name) := by
  ext s
  rw [ofTable?_override_iff, ofTable?_override_iff, RestFrom.congr h]

/-- There are settings with a name beside a table just when each of the other fields decodes. -/
theorem exists_ofTable?_override_iff (name : String) :
    (∃ s, ofTable? (some table) (some name) = some s) ↔ ∃ s, RestFrom table s := by
  constructor
  · rintro ⟨s, hs⟩
    exact ⟨s, (ofTable?_override_iff.mp hs).2⟩
  · rintro ⟨s, hrest⟩
    exact ⟨_, ofTable?_override_iff.mpr ⟨rfl, hrest.rename name⟩⟩

/-- Settings from a table that holds nothing under the name of the cluster have the empty name. -/
theorem ofTable?_alone_iff_of_missing (hmissing : held "cluster_name" table = []) :
    ofTable? (some table) none = some s ↔ s.clusterName = "" ∧ s.RestFrom table := by
  rw [ofTable?_alone_iff, hmissing]
  simp

/-- A table that holds nothing under the name of the cluster is read as one that holds the empty
text. -/
theorem ofTable?_alone_of_missing (hmissing : held "cluster_name" table = [])
    (h : SameBut "cluster_name" table table') (hempty : held "cluster_name" table' = [.text ""]) :
    ofTable? (some table) none = ofTable? (some table') none := by
  ext s
  have hname : [Value.text ""] = [Value.text s.clusterName] ↔ s.clusterName = "" := by
    simp only [List.cons.injEq, Value.text.injEq, and_true]
    exact eq_comm
  rw [ofTable?_alone_iff_of_missing hmissing, ofTable?_alone_iff, RestFrom.congr h, hempty, hname]
  simp

/-- A catalog cannot run with settings whose name is empty. -/
theorem validate_of_clusterName_eq_empty (h : s.clusterName = "") :
    s.validate = .error .missingClusterName := by
  rw [validate, h]
  rfl

/-- Without a file, a name has the defaults beside it. -/
theorem ofTable?_none_override (name : String) :
    ofTable? none (some name) = some { clusterName := name } :=
  ofTable?_override_iff.mpr ⟨rfl, .missing, .missing, .missing⟩

end Discovery.Settings

namespace Daemon

open Discovery Settings

/-- What table a configuration denotes: that of the file, if there is one. -/
inductive Surroundings.Denotes (around : Surroundings) :
    Option String → Option (List (String × Value)) → Prop
  /-- There is no file. -/
  | nothing : Denotes around none none
  /-- The text of the file is read as a table. -/
  | file {path text : String} {table : List (String × Value)}
      (hfile : around.file path = .ok text) (htable : Toml.plainTable? text = some table) :
      Denotes around (some path) (some table)

/-- Settings are read from the table that the configuration denotes. -/
theorem Surroundings.Denotes.readSettings_eq {around : Surroundings} {config : Option String}
    {table : Option (List (String × Value))} (h : around.Denotes config table)
    (override : Option String) :
    readSettings around config override =
      (ofTable? table override).elim (.error .undecodedConfig) .ok := by
  cases h with
  | nothing =>
    simp only [readSettings, pure_bind]
    cases ofTable? none override <;> rfl
  | @file path text table hfile htable =>
    simp only [readSettings, hfile, htable, pure_bind]
    cases ofTable? (some table) override <;> rfl

/-- A name that is given beside a configuration file changes only the name in the settings: if the
table of the file holds settings, the name is replaced in them. What the table holds under the name
does not count then, and there are settings just when the other fields decode. Without it, a table
that holds nothing under the name is read as one that holds the empty text, and no catalog can run
with what is read. Without a file, the name has the defaults beside it. This is how the daemon reads
its settings from the table that a file denotes. -/
theorem override_exact (table : List (String × Value)) (name : String) :
    (∀ s, ofTable? (some table) none = some s →
        ofTable? (some table) (some name) = some { s with clusterName := name }) ∧
      (∀ table', SameBut "cluster_name" table table' →
        ofTable? (some table') (some name) = ofTable? (some table) (some name)) ∧
      (∀ s, ofTable? (some table) (some name) = some s ↔
        s.clusterName = name ∧ s.RestFrom table) ∧
      ((∃ s, ofTable? (some table) (some name) = some s) ↔
        (∃ text, Decodes Value.text? "auto." (held "server_name_prefix" table) text) ∧
          (∃ policy, Decodes (ConflictPolicy.ofValue? .plainTable) .reject
            (held "conflict_policy" table) policy) ∧
          ∃ convergence, Decodes (Convergence.ofValue? .plainTable) {}
            (held "convergence" table) convergence) ∧
      (held "cluster_name" table = [] →
        (∀ table', SameBut "cluster_name" table table' →
            held "cluster_name" table' = [.text ""] →
              ofTable? (some table) none = ofTable? (some table') none) ∧
          (∀ s, ofTable? (some table) none = some s ↔ s.clusterName = "" ∧ s.RestFrom table) ∧
          ∀ s, ofTable? (some table) none = some s →
            s.validate = .error .missingClusterName) ∧
      ofTable? none (some name) =
        some ⟨name, "auto.", .reject, ⟨.ofSeconds 1, .ofSeconds 30⟩⟩ ∧
      ∀ (around : Surroundings) config denoted, around.Denotes config denoted → ∀ override,
        readSettings around config override =
          (ofTable? denoted override).elim (.error .undecodedConfig) .ok := by
  refine ⟨fun s h => ofTable?_override_of_alone h name,
    fun table' h => ofTable?_override_congr h name, fun s => ofTable?_override_iff,
    (exists_ofTable?_override_iff name).trans exists_restFrom_iff, fun hmissing => ?_,
    ofTable?_none_override name, fun around config denoted h => h.readSettings_eq⟩
  refine ⟨fun table' => ofTable?_alone_of_missing hmissing,
    fun s => ofTable?_alone_iff_of_missing hmissing, fun s hs => ?_⟩
  exact validate_of_clusterName_eq_empty ((ofTable?_alone_iff_of_missing hmissing).mp hs).1

/-- A file that names its cluster, a table that holds a number in place of the name, and one that
holds nothing there. A name beside them gives the same settings. Without it the first has settings
of its own, the second has none, and no catalog can run with those of the third. -/
theorem override_exact_demo :
    let text := "cluster_name = \"demo.local\"\nconflict_policy = \"keep_first\""
    let around : Surroundings := ⟨fun _ => none, fun _ => .ok text⟩
    let nameless : List (String × Value) := [("conflict_policy", .text "keep_first")]
    let numbered : List (String × Value) := ("cluster_name", .int 7) :: nameless
    let settings (name : String) : Settings :=
      { clusterName := name, conflictPolicy := .keepFirst }
    (readSettings around (some "demo.toml") (some "k8s.local") = .ok (settings "k8s.local") ∧
        ofTable? (some numbered) (some "k8s.local") = some (settings "k8s.local") ∧
        ofTable? (some nameless) (some "k8s.local") = some (settings "k8s.local")) ∧
      readSettings around (some "demo.toml") none = .ok (settings "demo.local") ∧
      ofTable? (some numbered) none = none ∧
      ofTable? (some nameless) none = some (settings "") ∧
      (settings "").validate = .error .missingClusterName := by
  intro text around nameless numbered settings
  have hfile : (Toml.plainTable? text).bind (fun table => ofTable? (some table) none) =
      some (settings "demo.local") := by decide +kernel
  obtain ⟨table, htable, halone⟩ := Option.bind_eq_some_iff.mp hfile
  obtain ⟨hrename, -, -, -, -, -, hlink⟩ := override_exact table "k8s.local"
  have hdenotes : around.Denotes (some "demo.toml") (some table) := .file rfl htable
  obtain ⟨-, hcongr, hread, -, hmissing, -, -⟩ := override_exact nameless "k8s.local"
  obtain ⟨-, hempty, hvalidate⟩ := hmissing rfl
  have hsame : SameBut "cluster_name" nameless numbered := by
    intro other hother
    exact (held_cons _).trans (if_neg (Ne.symm hother))
  have hrest : ∀ name, (settings name).RestFrom nameless := fun name =>
    ⟨.missing, .given rfl, .missing⟩
  have hnamed : ofTable? (some nameless) (some "k8s.local") = some (settings "k8s.local") :=
    (hread _).mpr ⟨rfl, hrest "k8s.local"⟩
  have hnameless : ofTable? (some nameless) none = some (settings "") :=
    (hempty _).mpr ⟨rfl, hrest ""⟩
  refine ⟨⟨?_, (hcongr _ hsame).trans hnamed, hnamed⟩, ?_, rfl, hnameless, hvalidate _ hnameless⟩
  · rw [hlink _ _ _ hdenotes, hrename _ halone]
    rfl
  · rw [hlink _ _ _ hdenotes, halone]
    rfl

end Daemon

end ElasticGroups
