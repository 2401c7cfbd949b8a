import ElasticGroups.Scaling.Bounds
import ElasticGroups.Proofs.Text.Blank
import ElasticGroups.Proofs.Text.Numeral

/-!
# Descriptions that hold bounds

A description holds bounds just when it is two counts with a colon between them, the first less than
the second (`Bounds.parse?_eq_some_iff`). Bounds that are written out are such a description
(`Bounds.parse?_written`), and a group may be scaled just when its description holds bounds
(`Bounds.isScalable_ofDescription`).
-/

namespace ElasticGroups.Scaling

open Text

namespace Bounds

variable {description : String} {b : Bounds}

/-! ### Taking a description apart -/

/-- Splitting at the first colon finds the one behind digits. -/
theorem split_at_colon {least : List Char} (h : ∀ c ∈ least, c.isDigit = true)
    (greatest : List Char) :
    (least ++ ':' :: greatest).takeWhile (· ≠ ':') = least ∧
      (least ++ ':' :: greatest).dropWhile (· ≠ ':') = ':' :: greatest := by
  have hplain : ∀ c ∈ least, decide (c ≠ ':') = true := by
    intro c hc
    rw [decide_eq_true_eq]
    rintro rfl
    exact absurd (h ':' hc) (by decide)
  exact ⟨takeWhile_append_of_head? hplain (by simp), dropWhile_append_of_head? hplain (by simp)⟩

/-- A description holds bounds just when it is two counts with a colon between them, the first less
than the second. -/
theorem parse?_eq_some_iff :
    parse? description = some b ↔ ∃ least greatest : Count,
      description.toList = least.digits ++ ':' :: greatest.digits ∧
        least.value = b.min ∧ greatest.value = b.max ∧ b.min < b.max := by
  constructor
  · intro h
    simp only [parse?] at h
    split at h
    case h_1 => cases h
    case h_2 colon right hdrop =>
      simp only [Option.bind_eq_bind, Option.bind_eq_some_iff] at h
      obtain ⟨min, hmin, max, hmax, h⟩ := h
      split at h
      case isTrue hlt =>
        cases h
        obtain ⟨least, hleast, rfl⟩ := count?_eq_some_iff_exists.mp hmin
        obtain ⟨greatest, rfl, rfl⟩ := count?_eq_some_iff_exists.mp hmax
        -- What the splitting stopped at is a colon.
        obtain rfl : colon = ':' := by
          have hhead := List.head?_dropWhile_not (· ≠ ':') description.toList
          rw [hdrop] at hhead
          simpa using hhead
        refine ⟨least, greatest, ?_, rfl, rfl, hlt⟩
        rw [hleast, ← hdrop, List.takeWhile_append_dropWhile]
      case isFalse => cases h
  · rintro ⟨least, greatest, htext, hmin, hmax, hlt⟩
    obtain ⟨htake, hdrop⟩ := split_at_colon least.isDigit_of_mem greatest.digits
    have hleast : count? least.digits = some b.min :=
      count?_eq_some_iff_exists.mpr ⟨least, rfl, hmin⟩
    have hgreatest : count? greatest.digits = some b.max :=
      count?_eq_some_iff_exists.mpr ⟨greatest, rfl, hmax⟩
    simp only [parse?, htext, htake, hdrop, hleast, hgreatest, Option.bind_eq_bind,
      Option.bind_some, hlt, if_true]

/-- Bounds that a description holds leave room. -/
theorem lt_of_parse? (h : parse? description = some b) : b.min < b.max := by
  obtain ⟨-, -, -, -, -, hlt⟩ := parse?_eq_some_iff.mp h
  exact hlt

/-- Bounds that are written out, with any number of zeros in front, are read back. -/
theorem parse?_written (hlt : b.min < b.max) (hfits : b.max < wordLimit) (zeros zeros' : Nat) :
    parse? (String.ofList (List.replicate zeros '0') ++ toString b.min ++ ":" ++
      (String.ofList (List.replicate zeros' '0') ++ toString b.max)) = some b := by
  have hmin : b.min < wordLimit := Nat.lt_trans hlt hfits
  refine parse?_eq_some_iff.mpr ⟨.ofNat zeros hmin, .ofNat zeros' hfits, ?_,
    Count.value_ofNat zeros hmin, Count.value_ofNat zeros' hfits, hlt⟩
  simp [Count.ofNat]

/-! ### The bounds of a group -/

/-- A group may be scaled when its description holds bounds, which are then its own. -/
theorem isScalable_ofDescription (description : String) (size : Nat) :
    (ofDescription description size).isScalable = (parse? description).isSome := by
  rw [ofDescription]
  cases h : parse? description with
  | none => simp [isScalable, fixed]
  | some bounds => simpa [isScalable] using lt_of_parse? h

/-- A group that may not be scaled has its size for both bounds. -/
theorem ofDescription_eq_of_not_isScalable {size : Nat}
    (h : (ofDescription description size).isScalable = false) :
    ofDescription description size = ⟨size, size⟩ := by
  rw [isScalable_ofDescription, Option.isSome_eq_false_iff, Option.isNone_iff_eq_none] at h
  rw [ofDescription, h]
  rfl

/-- A description holds bounds just when it is two counts with a colon between them, the first less
than the second. Bounds with room between them that fit a word are read back when they are written
out, however many zeros stand in front of them. A group may be scaled just when its description
holds bounds, and has its size for both of them otherwise. -/
theorem description_exact :
    (∀ (description : String) (b : Bounds), parse? description = some b ↔
        ∃ least greatest : Count,
          description.toList = least.digits ++ ':' :: greatest.digits ∧
            least.value = b.min ∧ greatest.value = b.max ∧ b.min < b.max) ∧
      (∀ b : Bounds, b.min < b.max → b.max < wordLimit → ∀ zeros zeros' : Nat,
        parse? (String.ofList (List.replicate zeros '0') ++ toString b.min ++ ":" ++
          (String.ofList (List.replicate zeros' '0') ++ toString b.max)) = some b) ∧
      ∀ (description : String) (size : Nat),
        ((ofDescription description size).isScalable = true ↔
            ∃ b, parse? description = some b) ∧
          ((ofDescription description size).isScalable = false →
            ofDescription description size = ⟨size, size⟩) := by
  refine ⟨fun _ _ => parse?_eq_some_iff, fun _ hlt hfits zeros zeros' =>
    parse?_written hlt hfits zeros zeros', fun description size => ⟨?_, fun h =>
    ofDescription_eq_of_not_isScalable h⟩⟩
  rw [isScalable_ofDescription, Option.isSome_iff_exists]

/-- The greatest bound that fits a word, with zeros in front of the other one, and a description
with a second colon. -/
theorem description_exact_greatest :
    parse? (String.ofList (List.replicate 2 '0') ++ toString 7 ++ ":" ++
        (String.ofList (List.replicate 0 '0') ++ toString 18446744073709551615)) =
      some ⟨7, 18446744073709551615⟩ ∧ ofDescription "1:4:6" 3 = ⟨3, 3⟩ :=
  ⟨description_exact.2.1 ⟨7, 18446744073709551615⟩ (by decide) (by decide) 2 0,
    (description_exact.2.2 "1:4:6" 3).2 (by decide)⟩

end Bounds

end ElasticGroups.Scaling
