import ElasticGroups.Boot.Payload
import ElasticGroups.Proofs.Boot.JoinCommand
import ElasticGroups.Proofs.Boot.Version

/-!
# The check of a payload

There is a payload of two values just when the first is a semantic version and the second is a join
command (`Payload.exists_make_eq_ok_iff`), and it holds both as they are (`Payload.values_of_make`).
The version is looked at first: when it is none, it is reported whatever the join command is
(`Payload.make_of_not_isSemanticVersion`). Of the two variables only the trimmed values count
(`Payload.ofLookup_eq_make`).
-/

namespace ElasticGroups.Boot

open Text

namespace Payload

variable {version joinCommand : String}

/-! ### What the check gives -/

/-- What is read as no version is reported. -/
theorem make_of_parse_eq_error {reason : VersionError} (h : Version.parse version = .error reason) :
    make version joinCommand = .error (.invalidVersion version reason) := by
  rw [make]
  -- The check keeps the proof that the version is one, so its result cannot be put in its place.
  split
  case h_1 found hfound => rw [Except.error.inj (h.symm.trans hfound)]
  case h_2 v hv => exact absurd (h.symm.trans hv) nofun

/-- Behind what is read as a version the join command is looked at. -/
theorem make_of_parse_eq_ok {v : Version} (h : Version.parse version = .ok v) :
    make version joinCommand =
      if hjoin : isJoinCommand joinCommand = true then
        .ok ⟨version, joinCommand, ⟨v, h⟩, hjoin⟩
      else .error .invalidJoinCommand := by
  rw [make]
  split
  case h_1 reason hreason => exact absurd (h.symm.trans hreason) nofun
  case h_2 => rfl

/-- A payload is what the check of its two values gives. -/
theorem make_self (p : Payload) : make p.version p.joinCommand = .ok p := by
  obtain ⟨v, hv⟩ := p.version_parses
  rw [make_of_parse_eq_ok hv, dif_pos p.joinCommand_accepted]

/-- What the check lets through holds both values as they are. -/
theorem values_of_make {p : Payload} (h : make version joinCommand = .ok p) :
    p.version = version ∧ p.joinCommand = joinCommand := by
  cases hparse : Version.parse version with
  | error reason =>
    rw [make_of_parse_eq_error hparse] at h
    cases h
  | ok v =>
    rw [make_of_parse_eq_ok hparse] at h
    split at h
    case isTrue =>
      cases h
      exact ⟨rfl, rfl⟩
    case isFalse => cases h

/-! ### What the check accepts -/

/-- The check lets two values through just when they are a semantic version and the words of a join
command with one or more blanks between each two of them. -/
theorem exists_make_eq_ok_iff :
    (∃ p, make version joinCommand = .ok p) ↔
      IsSemanticVersion version ∧ ∃ a : JoinArguments, Spaced a.words joinCommand.toList := by
  rw [← exists_parse_eq_ok_iff, ← isJoinCommand_iff]
  constructor
  · rintro ⟨p, hp⟩
    obtain ⟨rfl, rfl⟩ := values_of_make hp
    exact ⟨p.version_parses, p.joinCommand_accepted⟩
  · rintro ⟨hversion, hjoin⟩
    exact ⟨_, make_self ⟨version, joinCommand, hversion, hjoin⟩⟩

/-- What is no semantic version is reported, whatever the join command is. -/
theorem make_of_not_isSemanticVersion (h : ¬ IsSemanticVersion version) :
    ∃ reason, ∀ other, make version other = .error (.invalidVersion version reason) := by
  rw [← exists_parse_eq_ok_iff] at h
  cases hparse : Version.parse version with
  | ok v => exact absurd ⟨v, hparse⟩ h
  | error reason => exact ⟨reason, fun other => make_of_parse_eq_error hparse⟩

/-- What is no join command is reported behind a semantic version. -/
theorem make_of_isSemanticVersion (h : IsSemanticVersion version)
    (hjoin : ¬ ∃ a : JoinArguments, Spaced a.words joinCommand.toList) :
    make version joinCommand = .error .invalidJoinCommand := by
  obtain ⟨v, hv⟩ := exists_parse_eq_ok_iff.mpr h
  rw [← isJoinCommand_iff] at hjoin
  rw [make_of_parse_eq_ok hv, dif_neg hjoin]

variable {lookup : String → Option String}

/-- Of the two variables the trimmed values are checked. -/
theorem ofLookup_eq_make (hversion : lookup versionVariable = some version)
    (hjoin : lookup joinCommandVariable = some joinCommand) :
    ofLookup lookup = make (trim version) (trim joinCommand) := by
  rw [ofLookup, hjoin, hversion]

/-- The check accepts just a semantic version together with the words of a join command, and stores
both as they are. A bad version is reported even when the join command is bad too. Of the two
variables the trimmed values are checked, so blanks around them make no difference. -/
theorem make_exact (version joinCommand : String) :
    ((∃ p, make version joinCommand = .ok p) ↔
        IsSemanticVersion version ∧ ∃ a : JoinArguments, Spaced a.words joinCommand.toList) ∧
      (∀ p, make version joinCommand = .ok p →
        p.version = version ∧ p.joinCommand = joinCommand) ∧
      (¬ IsSemanticVersion version →
        ∃ reason, ∀ other, make version other = .error (.invalidVersion version reason)) ∧
      (IsSemanticVersion version → (¬ ∃ a : JoinArguments, Spaced a.words joinCommand.toList) →
        make version joinCommand = .error .invalidJoinCommand) ∧
      ∀ lookup : String → Option String, lookup versionVariable = some version →
        lookup joinCommandVariable = some joinCommand →
          ofLookup lookup = make (trim version) (trim joinCommand) ∧
            ∀ (lookup' : String → Option String) (version' joinCommand' : String),
              lookup' versionVariable = some version' →
                lookup' joinCommandVariable = some joinCommand' →
                  SameUpToBlanks version version' → SameUpToBlanks joinCommand joinCommand' →
                    ofLookup lookup' = ofLookup lookup := by
  refine ⟨exists_make_eq_ok_iff, fun p => values_of_make, make_of_not_isSemanticVersion,
    make_of_isSemanticVersion, fun lookup hversion hjoin => ?_⟩
  have hmake := ofLookup_eq_make hversion hjoin
  refine ⟨hmake, fun lookup' version' joinCommand' hversion' hjoin' hsame hsame' => ?_⟩
  rw [hmake, ofLookup_eq_make hversion' hjoin', sameUpToBlanks_iff.mp hsame,
    sameUpToBlanks_iff.mp hsame']

/-- A version with identifiers and a join command with wide gaps are accepted. With a line break
behind it the command is none, but in the two variables line breaks and blanks at the ends make no
difference. Of two bad values the version is reported. -/
theorem make_exact_wide_gaps :
    let version := "1.17.4-rc.1+007"
    let join := "kubeadm  join   10.0.0.1:6443 --token abcdef.0123456789abcdef  " ++
      "--discovery-token-ca-cert-hash sha256:0123abcd"
    let lookup (lead trail name : String) : Option String :=
      if name = versionVariable then some (lead ++ version ++ trail)
      else some (lead ++ join ++ trail)
    (∃ p, make version join = .ok p ∧ p.version = version ∧ p.joinCommand = join) ∧
      make version (join ++ "\n") = .error .invalidJoinCommand ∧
      (∃ reason, make "1.017.4" "" = .error (.invalidVersion "1.017.4" reason)) ∧
      ofLookup (lookup "\t " "\n") = ofLookup (lookup "" "") := by
  intro version join lookup
  have hversion : IsSemanticVersion version := exists_parse_eq_ok_iff.mp
    ⟨⟨1, 17, 4, ["rc".toList, "1".toList], ["007".toList]⟩, by decide +kernel⟩
  have hjoin : ∃ a : JoinArguments, Spaced a.words join.toList :=
    isJoinCommand_iff.mp (by decide +kernel)
  have hbreak : ¬ ∃ a : JoinArguments, Spaced a.words (join ++ "\n").toList := by
    rw [← isJoinCommand_iff]
    decide +kernel
  have hzero : ¬ IsSemanticVersion "1.017.4" := by
    rw [← exists_parse_eq_ok_iff]
    rintro ⟨v, hv⟩
    have herror : Version.parse "1.017.4" = .error (.leadingZero .minor) := by decide +kernel
    exact absurd (herror.symm.trans hv) nofun
  have hother : ¬ joinCommandVariable = versionVariable := by decide
  have hsame (s : String) : SameUpToBlanks ("" ++ s ++ "") ("\t " ++ s ++ "\n") :=
    ⟨s, blanksAround_append s rfl rfl, blanksAround_append s (by decide) (by decide)⟩
  obtain ⟨hiff, hvalues, -, -, -⟩ := make_exact version join
  obtain ⟨-, -, -, -, hlookup⟩ := make_exact ("" ++ version ++ "") ("" ++ join ++ "")
  obtain ⟨p, hp⟩ := hiff.mpr ⟨hversion, hjoin⟩
  obtain ⟨reason, hreason⟩ := (make_exact "1.017.4" "").2.2.1 hzero
  exact ⟨⟨p, hp, hvalues p hp⟩, (make_exact version (join ++ "\n")).2.2.2.1 hversion hbreak,
    ⟨reason, hreason ""⟩, (hlookup (lookup "" "") rfl (if_neg hother)).2 _ _ _ rfl (if_neg hother)
      (hsame version) (hsame join)⟩

end Payload

end ElasticGroups.Boot
