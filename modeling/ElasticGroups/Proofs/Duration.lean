import ElasticGroups.Duration
import Mathlib.Data.List.Basic

/-!
# The configured form of a duration

A duration is written in its configured form as a number and a unit, and read back with what is
shorter than a millisecond cut off (`Duration.parse?_format`). What the configured form can say has
no such part (`Duration.Configurable`), so it is read back as it is
(`Duration.Configurable.parse?_format`).
-/

namespace ElasticGroups

namespace Text

/-- A text without blanks has none to trim. -/
theorem trimChars_of_not_isBlank {cs : List Char} (h : ∀ c ∈ cs, isBlank c = false) :
    trimChars cs = cs := by
  have hdrop : ∀ cs : List Char, (∀ c ∈ cs, isBlank c = false) → cs.dropWhile isBlank = cs := by
    intro cs hcs
    cases cs with
    | nil => rfl
    | cons c cs => exact List.dropWhile_cons_of_neg (ne_true_of_eq_false (hcs c List.mem_cons_self))
  rw [trimChars, trimEndChars, hdrop cs h,
    hdrop cs.reverse fun c hc => h c (List.mem_reverse.mp hc), List.reverse_reverse]

/-- A digit is no blank. -/
theorem not_isBlank_of_isDigit {c : Char} (h : c.isDigit = true) : isBlank c = false := by
  have hcode : 48 ≤ c.toNat ∧ c.toNat ≤ 57 := by
    simpa [Char.isDigit, UInt32.le_iff_toNat_le] using h
  rw [isBlank, CodeRanges.contains, blankRanges, List.any_eq_false]
  simp only [List.forall_mem_cons, Bool.and_eq_true, decide_eq_true_eq]
  refine ⟨?_, ?_, ?_, ?_, ?_, ?_, ?_, ?_, ?_, ?_, List.forall_mem_nil _⟩ <;> omega

/-- What is read as a count fits a word. -/
theorem lt_of_count? {cs : List Char} {n : Nat} (h : count? cs = some n) : n < wordLimit := by
  rw [count?] at h
  split at h
  case isTrue hcs => exact Option.some.inj h ▸ hcs.2.2
  case isFalse => cases h

/-- What is read as an unsigned number fits a word. -/
theorem lt_of_unsigned? {cs : List Char} {n : Nat} (h : unsigned? cs = some n) : n < wordLimit := by
  unfold unsigned? at h
  split at h <;> exact lt_of_count? h

/-- The digits of a number are digits. -/
theorem isDigit_of_mem_toDigits (n : Nat) : ∀ c ∈ Nat.toDigits 10 n, c.isDigit = true :=
  fun _ hc => Nat.isDigit_of_mem_toDigits (by decide) (by decide) hc

/-- A number is read back from its digits if it fits a word. -/
theorem unsigned?_toDigits (n : Nat) :
    unsigned? (Nat.toDigits 10 n) = if n < wordLimit then some n else none := by
  have hdigit := isDigit_of_mem_toDigits n
  have hcount : unsigned? (Nat.toDigits 10 n) = count? (Nat.toDigits 10 n) := by
    unfold unsigned?
    split
    case h_1 cs hcs => exact absurd (hdigit '+' (hcs ▸ List.mem_cons_self)) (by decide)
    case h_2 => rfl
  rw [hcount, count?, Nat.ofDigitChars_ten_toDigits]
  simp [Nat.toDigits_ne_nil, List.all_eq_true.mpr hdigit]

end Text

open Text

namespace Duration

/-- Milliseconds are split off from the digits in front of them. -/
theorem splitUnit?_millis (digits : List Char) :
    splitUnit? (digits ++ "ms".toList) = some (digits, 1000000) := by
  have hms : "ms".toList.isSuffixOf? (digits ++ "ms".toList) = some digits :=
    List.isSuffixOf?_eq_some_iff_append_eq.mpr rfl
  rw [splitUnit?, units, List.findSome?_cons, hms]
  rfl

/-- Seconds are split off from what stands in front of them: no letter stands there, so they are no
milliseconds. -/
theorem splitUnit?_seconds {digits : List Char} (h : 'm' ∉ digits) :
    splitUnit? (digits ++ "s".toList) = some (digits, 1000000000) := by
  have hms : "ms".toList.isSuffixOf? (digits ++ "s".toList) = none := by
    refine Option.eq_none_iff_forall_ne_some.mpr fun front hfront => ?_
    rw [List.isSuffixOf?_eq_some_iff_append_eq] at hfront
    have hfront' : front ++ ['m'] ++ ['s'] = digits ++ ['s'] := by simpa using hfront
    exact h (List.append_cancel_right hfront' ▸ by simp)
  have hs : "s".toList.isSuffixOf? (digits ++ "s".toList) = some digits :=
    List.isSuffixOf?_eq_some_iff_append_eq.mpr rfl
  rw [splitUnit?, units, List.findSome?_cons, hms, Option.map_none]
  simp only [List.findSome?_cons, hs]
  rfl

/-- Digits and a unit behind them are read as that many units. -/
theorem parse?_append {n unit : Nat} {suffix : String}
    (hsplit : splitUnit? (Nat.toDigits 10 n ++ suffix.toList) = some (Nat.toDigits 10 n, unit))
    (hsuffix : suffix.toList.any isBlank = false) :
    parse? (toString n ++ suffix) = if n < wordLimit then ofUnits? unit n else none := by
  have hdigits : ∀ c ∈ Nat.toDigits 10 n, isBlank c = false := fun c hc =>
    not_isBlank_of_isDigit (isDigit_of_mem_toDigits n c hc)
  have htext : (toString n ++ suffix).toList = Nat.toDigits 10 n ++ suffix.toList := by
    simp
  have htrim := trimChars_of_not_isBlank fun c hc =>
    (List.mem_append.mp hc).elim (hdigits c) fun hc =>
      eq_false_of_ne_true (List.any_eq_false.mp hsuffix c hc)
  rw [parse?, htext, htrim]
  simp only [hsplit, trimChars_of_not_isBlank hdigits, unsigned?_toDigits]
  split <;> rfl

/-- A number of units is a duration if its whole seconds fit a word. -/
theorem ofUnits?_of_lt {unit n : Nat} (h : n * unit / 1000000000 < wordLimit) :
    ofUnits? unit n = some ⟨n * unit⟩ :=
  if_pos h

/-- What is written in the configured form is read back with what is shorter than a millisecond cut
off, provided that the number in front of the unit fits a word. -/
theorem parse?_format (d : Duration) :
    parse? d.format =
      if d.subsecondNanos / 1000000 ≠ 0 then
        if d.millis < wordLimit then some (.ofMillis d.millis) else none
      else if d.seconds < wordLimit then some (.ofSeconds d.seconds) else none := by
  rw [format]
  split
  case isTrue =>
    rw [parse?_append (splitUnit?_millis _) (by decide)]
    exact ite_congr rfl (fun hfits => ofUnits?_of_lt (by omega)) fun _ => rfl
  case isFalse =>
    have hletter : 'm' ∉ Nat.toDigits 10 d.seconds := fun hm =>
      absurd (isDigit_of_mem_toDigits _ 'm' hm) (by decide)
    rw [parse?_append (splitUnit?_seconds hletter) (by decide)]
    exact ite_congr rfl (fun hfits => ofUnits?_of_lt (by omega)) fun _ => rfl

/-- Seconds that fit a word and a part of a second are read back with what is shorter than a
millisecond cut off, except that they are not read when they are written in milliseconds and these do
not fit a word. -/
theorem parse?_format_add {secs nanos : Nat} (hsecs : secs < wordLimit)
    (hnanos : nanos < 1000000000) :
    parse? (ofSeconds secs + ⟨nanos⟩).format =
      if nanos / 1000000 ≠ 0 ∧ wordLimit ≤ secs * 1000 + nanos / 1000000 then none
      else some (.ofMillis (secs * 1000 + nanos / 1000000)) := by
  have hlength : (ofSeconds secs + ⟨nanos⟩).nanos = secs * 1000000000 + nanos := rfl
  have hseconds : (ofSeconds secs + ⟨nanos⟩).seconds = secs := by
    rw [seconds, hlength]
    omega
  have hsubsecond : (ofSeconds secs + ⟨nanos⟩).subsecondNanos = nanos := by
    rw [subsecondNanos, hlength]
    omega
  have hmillis : (ofSeconds secs + ⟨nanos⟩).millis = secs * 1000 + nanos / 1000000 := by
    rw [millis, hlength]
    omega
  rw [parse?_format, hseconds, hsubsecond, hmillis]
  by_cases hpart : nanos / 1000000 ≠ 0
  · rw [if_pos hpart]
    by_cases hfits : secs * 1000 + nanos / 1000000 < wordLimit
    · rw [if_pos hfits, if_neg fun hover => Nat.not_le_of_lt hfits hover.2]
    · rw [if_neg hfits, if_pos ⟨hpart, Nat.le_of_not_lt hfits⟩]
  · rw [if_neg hpart, if_pos hsecs, if_neg fun hover => hpart hover.1, not_not.mp hpart]
    -- Whole seconds are whole milliseconds, however many there are.
    rw [ofMillis, ofSeconds, Nat.add_zero, Nat.mul_assoc]

/-- What is read as a number of units is one, and its whole seconds fit a word. -/
theorem eq_of_ofUnits? {unit n : Nat} {d : Duration} (h : ofUnits? unit n = some d) :
    d.nanos = n * unit ∧ d.seconds < wordLimit := by
  rw [ofUnits?] at h
  split at h
  case isTrue hfits => exact Option.some.inj h ▸ ⟨rfl, hfits⟩
  case isFalse => cases h

/-- What is read in the configured form is a number of units that fits a word. -/
theorem exists_of_parse? {s : String} {d : Duration} (h : parse? s = some d) :
    d.seconds < wordLimit ∧ ∃ unit ∈ units.map (·.2), ∃ n < wordLimit, d.nanos = n * unit := by
  rw [parse?] at h
  split at h
  case h_1 number unit hsplit =>
    obtain ⟨n, hn, hd⟩ := Option.bind_eq_some_iff.mp h
    obtain ⟨hnanos, hfits⟩ := eq_of_ofUnits? hd
    obtain ⟨entry, hentry, hsuffix⟩ := List.exists_of_findSome?_eq_some hsplit
    obtain ⟨front, -, hfront⟩ := Option.map_eq_some_iff.mp hsuffix
    cases hfront
    exact ⟨hfits, entry.2, List.mem_map_of_mem hentry, n, lt_of_unsigned? hn, hnanos⟩
  case h_2 =>
    obtain ⟨n, hn, hd⟩ := Option.bind_eq_some_iff.mp h
    obtain ⟨hnanos, hfits⟩ := eq_of_ofUnits? hd
    exact ⟨hfits, 1000000000, by decide, n, lt_of_unsigned? hn, hnanos⟩

/-- A whole number of milliseconds without a part of a second is a whole number of seconds. -/
theorem ofSeconds_seconds {d : Duration} (hmillis : d.millis * 1000000 = d.nanos)
    (hnone : d.subsecondNanos / 1000000 = 0) : ofSeconds d.seconds = d := by
  have hmod : d.nanos % 1000000 = 0 := hmillis ▸ Nat.mul_mod_left d.millis 1000000
  have hlt : d.nanos % 1000000000 < 1000000 := Nat.lt_of_div_eq_zero (by decide) hnone
  have hzero : d.nanos % 1000000000 = 0 := by
    rw [← Nat.mod_eq_of_lt hlt, Nat.mod_mod_of_dvd _ (by decide), hmod]
  rw [ofSeconds, seconds, Nat.div_mul_cancel (Nat.dvd_of_mod_eq_zero hzero)]

/-- The duration can be said in the configured form. -/
def Configurable (d : Duration) : Prop := ∃ s, parse? s = some d

/-- What can be said in the configured form is read back from it. -/
theorem Configurable.parse?_format {d : Duration} (h : d.Configurable) :
    parse? d.format = some d := by
  obtain ⟨s, h⟩ := h
  obtain ⟨hseconds, unit, hunit, n, hn, hnanos⟩ := exists_of_parse? h
  -- Only a number of milliseconds has a part of a second, and it is the number that was read.
  have hwhole : d.millis * 1000000 = d.nanos ∧
      (d.subsecondNanos / 1000000 ≠ 0 → d.millis < wordLimit) := by
    simp only [millis, subsecondNanos, hnanos]
    simp only [units, List.map_cons, List.map_nil, List.mem_cons, List.not_mem_nil, or_false]
      at hunit
    obtain rfl | rfl | rfl := hunit <;> omega
  obtain ⟨hmillis, hfits⟩ := hwhole
  rw [Duration.parse?_format]
  by_cases hsubsecond : d.subsecondNanos / 1000000 ≠ 0
  · rw [if_pos hsubsecond, if_pos (hfits hsubsecond), ofMillis, hmillis]
  · rw [if_neg hsubsecond, if_pos hseconds, ofSeconds_seconds hmillis (not_not.mp hsubsecond)]

end Duration

end ElasticGroups
