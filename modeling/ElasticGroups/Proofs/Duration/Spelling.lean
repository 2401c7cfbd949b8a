import ElasticGroups.Proofs.Duration
import ElasticGroups.Proofs.Text.Blank
import ElasticGroups.Proofs.Text.Numeral

/-!
# How a duration may be spelled

The grammar of the configured form, said without reading a text from either end: a number with a
sign or none, and a unit or none, with blanks wherever they do not count.

The module introduces:

* `Duration.Designation` — the units, one of which has no word;
* `Duration.Spelling` — a text of the grammar, by its parts.

What a text is read as is what its spelling says (`Duration.parse?_eq_some_iff_spelled`), and no
text has two spellings (`Duration.Spelling.eq_of_text_eq`).
-/

namespace ElasticGroups

open Text

namespace Duration

/-- What a number may count. -/
inductive Designation
  | millis
  | seconds
  | minutes
  /-- No unit is named, and the number counts seconds. -/
  | unnamed
  deriving DecidableEq, Repr, Inhabited

namespace Designation

/-- The word for a unit. -/
def word : Designation → List Char
  | millis => ['m', 's']
  | seconds => ['s']
  | minutes => ['m']
  | unnamed => []

/-- A number of units. -/
def counted (n : Nat) : Designation → Duration
  | millis => .ofMillis n
  | seconds => .ofSeconds n
  | minutes => .ofSeconds (n * 60)
  | unnamed => .ofSeconds n

/-- The length of a unit in nanoseconds. -/
def nanos : Designation → Nat
  | millis => 1000000
  | seconds => 1000000000
  | minutes => 60000000000
  | unnamed => 1000000000

variable {u u' : Designation}

/-- A number of units is as long as that many times the unit. -/
theorem nanos_counted (n : Nat) (u : Designation) : (u.counted n).nanos = n * u.nanos := by
  cases u with
  | minutes => exact Nat.mul_assoc n 60 1000000000
  | millis | seconds | unnamed => rfl

/-- Different units have different words. -/
theorem eq_of_word_eq (h : u.word = u'.word) : u = u' := by
  revert h
  cases u <;> cases u' <;> decide

/-- A word begins with one of two letters. -/
theorem eq_of_mem_head?_word {c : Char} (h : c ∈ u.word.head?) : c = 'm' ∨ c = 's' := by
  cases u with
  | millis | minutes => exact .inl (Option.some.inj h).symm
  | seconds => exact .inr (Option.some.inj h).symm
  | unnamed => cases h

/-- No word begins with a blank. -/
theorem not_isBlank_of_mem_head?_word : ∀ c ∈ u.word.head?, isBlank c = false := by
  intro c hc
  obtain rfl | rfl := eq_of_mem_head?_word hc
  · decide
  · decide

/-- The words that a text is searched for are those of units. -/
theorem exists_of_mem_units {entry : String × Nat} (h : entry ∈ units) :
    ∃ u, u ≠ unnamed ∧ entry.1.toList = u.word ∧ entry.2 = u.nanos := by
  simp only [units, List.mem_cons, List.not_mem_nil, or_false] at h
  obtain rfl | rfl | rfl := h
  · exact ⟨millis, by decide, rfl, rfl⟩
  · exact ⟨seconds, by decide, rfl, rfl⟩
  · exact ⟨minutes, by decide, rfl, rfl⟩

end Designation

/-- The parts of a text that spells a duration. -/
@[ext]
structure Spelling where
  /-- Blanks in front. -/
  lead : List Char
  /-- Whether the number has a plus sign. -/
  plus : Bool
  /-- The digits of the number. -/
  digits : List Char
  /-- Blanks between the number and the word for its unit. -/
  gap : List Char
  /-- The unit. -/
  unit : Designation
  /-- Blanks at the end. -/
  trail : List Char
  lead_blank : ∀ c ∈ lead, isBlank c = true
  digits_ne_nil : digits ≠ []
  isDigit_of_mem : ∀ c ∈ digits, c.isDigit = true
  /-- The number fits a word. -/
  fits : Nat.ofDigitChars 10 digits 0 < wordLimit
  gap_blank : ∀ c ∈ gap, isBlank c = true
  /-- Blanks behind a number without a unit are blanks at the end. -/
  gap_eq_nil : unit = .unnamed → gap = []
  trail_blank : ∀ c ∈ trail, isBlank c = true

namespace Spelling

variable (r : Spelling)

/-- The number as it is written. -/
def number : List Char := sign r.plus ++ r.digits

/-- The spelling without the blanks around it. -/
def core : List Char := r.number ++ r.gap ++ r.unit.word

/-- The text that is spelled. -/
def text : List Char := r.lead ++ r.core ++ r.trail

/-- The value of the number. -/
def value : Nat := Nat.ofDigitChars 10 r.digits 0

/-- The duration that is spelled. -/
def duration : Duration := r.unit.counted r.value

/-! ### What a spelling begins and ends with -/

theorem number_ne_nil : r.number ≠ [] := by
  simp [number, r.digits_ne_nil]

theorem core_ne_nil : r.core ≠ [] := by
  simp [core, r.number_ne_nil]

/-- The number begins with its sign or with a digit, neither of which is blank. -/
theorem not_isBlank_of_mem_head?_number : ∀ c ∈ r.number.head?, isBlank c = false := by
  intro c hc
  have hmem := List.mem_of_mem_head? hc
  rw [number, List.mem_append] at hmem
  rcases hmem with hsign | hdigit
  · rw [eq_of_mem_sign hsign]
    decide
  · exact not_isBlank_of_isDigit (r.isDigit_of_mem c hdigit)

/-- The number ends with a digit. -/
theorem isDigit_of_mem_getLast?_number : ∀ c ∈ r.number.getLast?, c.isDigit = true := by
  intro c hc
  rw [number, List.getLast?_append_of_ne_nil _ r.digits_ne_nil] at hc
  exact r.isDigit_of_mem c (List.mem_of_mem_getLast? hc)

theorem not_isBlank_of_mem_head?_core : ∀ c ∈ r.core.head?, isBlank c = false := by
  rw [core, List.append_assoc, List.head?_append_of_ne_nil _ r.number_ne_nil]
  exact r.not_isBlank_of_mem_head?_number

/-- A spelling ends with the word for its unit, or with a digit. -/
theorem not_isBlank_of_mem_getLast?_core : ∀ c ∈ r.core.getLast?, isBlank c = false := by
  intro c hc
  rw [core] at hc
  cases hunit : r.unit with
  | unnamed =>
    rw [hunit, r.gap_eq_nil hunit, Designation.word, List.append_nil, List.append_nil] at hc
    exact not_isBlank_of_isDigit (r.isDigit_of_mem_getLast?_number c hc)
  | millis | seconds | minutes =>
    rw [hunit, List.getLast?_append_of_ne_nil _ (by simp [Designation.word])] at hc
    obtain rfl := Option.some.inj hc
    decide

/-- Trimming takes the blanks around a spelling away. -/
theorem trimChars_text : trimChars r.text = r.core :=
  (trimChars_append r.lead_blank r.trail_blank).trans
    (trimChars_eq_self r.not_isBlank_of_mem_head?_core r.not_isBlank_of_mem_getLast?_core)

/-! ### No text has two spellings -/

/-- The characters of which a number is written. -/
def isNumberChar (c : Char) : Bool := c.isDigit || c = '+'

theorem isNumberChar_of_mem_number : ∀ c ∈ r.number, isNumberChar c = true := by
  intro c hc
  rw [number, List.mem_append] at hc
  rw [isNumberChar, Bool.or_eq_true, decide_eq_true_eq]
  rcases hc with hsign | hdigit
  · exact .inr (eq_of_mem_sign hsign)
  · exact .inl (r.isDigit_of_mem c hdigit)

/-- A number is not written with blanks. -/
theorem isNumberChar_of_isBlank {c : Char} (h : isBlank c = true) : isNumberChar c = false := by
  rw [isNumberChar, Bool.or_eq_false_iff, decide_eq_false_iff_not]
  constructor
  · refine eq_false_of_ne_true fun hdigit => ?_
    rw [not_isBlank_of_isDigit hdigit] at h
    cases h
  · rintro rfl
    exact absurd h (by decide)

/-- The number goes as far as it can: no character of a number stands behind it. -/
theorem isNumberChar_of_mem_head? :
    ∀ c ∈ (r.gap ++ r.unit.word).head?, isNumberChar c = false := by
  intro c hc
  cases hgap : r.gap with
  | nil =>
    rw [hgap, List.nil_append] at hc
    obtain rfl | rfl := Designation.eq_of_mem_head?_word hc
    · decide
    · decide
  | cons blank gap =>
    rw [hgap] at hc
    obtain rfl := Option.some.inj hc
    exact isNumberChar_of_isBlank (r.gap_blank _ (hgap ▸ List.mem_cons_self))

variable {r} {r' : Spelling}

/-- A number has one sign and one sequence of digits. -/
theorem sign_digits_of_number_eq (h : r.number = r'.number) :
    r.plus = r'.plus ∧ r.digits = r'.digits := by
  have hsign : ∀ plus, ∀ c ∈ sign plus, decide (c = '+') = true := fun _ _ hc =>
    decide_eq_true (eq_of_mem_sign hc)
  have hdigits : ∀ r : Spelling, ∀ c ∈ r.digits.head?, decide (c = '+') = false := by
    intro r c hc
    have hdigit := r.isDigit_of_mem c (List.mem_of_mem_head? hc)
    rw [decide_eq_false_iff_not]
    rintro rfl
    exact absurd hdigit (by decide)
  obtain ⟨hplus, hrest⟩ := append_inj_of_head? (hsign r.plus) (hdigits r) (hsign r'.plus)
    (hdigits r') h
  exact ⟨sign_injective hplus, hrest⟩

/-- A text has one spelling at most: each part of it goes as far as it can. -/
theorem eq_of_text_eq (h : r.text = r'.text) : r = r' := by
  have hcore : r.core = r'.core := by rw [← r.trimChars_text, h, r'.trimChars_text]
  have hhead : ∀ r : Spelling, ∀ c ∈ (r.core ++ r.trail).head?, isBlank c = false := by
    intro r
    rw [List.head?_append_of_ne_nil _ r.core_ne_nil]
    exact r.not_isBlank_of_mem_head?_core
  -- The blanks in front are cut off first, which leaves those at the end.
  rw [text, text, List.append_assoc, List.append_assoc] at h
  obtain ⟨hlead, hrest⟩ := append_inj_of_head? r.lead_blank (hhead r) r'.lead_blank (hhead r') h
  have htrail : r.trail = r'.trail := by
    rw [hcore] at hrest
    exact List.append_cancel_left hrest
  -- Between them the number is cut off, and then the blanks behind it, which leaves the word.
  rw [core, core, List.append_assoc, List.append_assoc] at hcore
  obtain ⟨hnumber, hunit⟩ := append_inj_of_head? r.isNumberChar_of_mem_number
    r.isNumberChar_of_mem_head? r'.isNumberChar_of_mem_number r'.isNumberChar_of_mem_head? hcore
  obtain ⟨hplus, hdigits⟩ := sign_digits_of_number_eq hnumber
  obtain ⟨hgap, hword⟩ := append_inj_of_head? r.gap_blank Designation.not_isBlank_of_mem_head?_word
    r'.gap_blank Designation.not_isBlank_of_mem_head?_word hunit
  exact Spelling.ext hlead hplus hdigits hgap (Designation.eq_of_word_eq hword) htrail

/-! ### Reading what is spelled -/

theorem unsigned?_number (r : Spelling) : unsigned? r.number = some r.value :=
  unsigned?_eq_some_iff.mpr ⟨r.plus, r.digits, rfl,
    count?_eq_some_iff.mpr ⟨r.digits_ne_nil, r.isDigit_of_mem, rfl, r.fits⟩⟩

/-- Trimming takes the blanks behind a number away. -/
theorem trimChars_number_gap (r : Spelling) : trimChars (r.number ++ r.gap) = r.number := by
  have hlast : ∀ c ∈ r.number.getLast?, isBlank c = false := fun c hc =>
    not_isBlank_of_isDigit (r.isDigit_of_mem_getLast?_number c hc)
  exact (@trimChars_append [] _ _ (List.forall_mem_nil _) r.gap_blank).trans
    (trimChars_eq_self r.not_isBlank_of_mem_head?_number hlast)

/-- No letter stands in front of the word for the unit. -/
theorem letter_notMem (r : Spelling) : 'm' ∉ r.number ++ r.gap := by
  rw [List.mem_append]
  rintro (hnumber | hgap)
  · exact absurd (r.isNumberChar_of_mem_number _ hnumber) (by decide)
  · exact absurd (r.gap_blank _ hgap) (by decide)

/-- A word is no end of a text that ends with another character. -/
theorem isSuffixOf?_eq_none {cs : List Char} {c : Char} (word : List Char)
    (hword : word.getLast? = some c) (hcs : cs.getLast? ≠ some c) : word.isSuffixOf? cs = none := by
  refine Option.eq_none_iff_forall_ne_some.mpr fun front hfront => hcs ?_
  rw [← List.isSuffixOf?_eq_some_iff_append_eq.mp hfront, List.getLast?_append, hword]
  rfl

/-- The word for a unit is split off from a spelling that has one. -/
theorem splitUnit?_core (hunit : r.unit ≠ .unnamed) :
    splitUnit? r.core = some (r.number ++ r.gap, r.unit.nanos) := by
  rw [core]
  cases h : r.unit with
  | unnamed => exact absurd h hunit
  | millis => exact splitUnit?_millis _
  | seconds => exact splitUnit?_seconds r.letter_notMem
  | minutes =>
    -- The words for milliseconds and seconds, which are tried first, end with another letter.
    have hlast : (r.number ++ r.gap ++ ['m']).getLast? ≠ some 's' := by simp
    have hm : "m".toList.isSuffixOf? (r.number ++ r.gap ++ ['m']) = some (r.number ++ r.gap) :=
      List.isSuffixOf?_eq_some_iff_append_eq.mpr rfl
    rw [splitUnit?, units, List.findSome?_cons, Designation.word,
      isSuffixOf?_eq_none _ rfl hlast, Option.map_none]
    simp only [List.findSome?_cons, isSuffixOf?_eq_none "s".toList rfl hlast, hm,
      Option.map_none, Option.map_some]
    rfl

/-- Without a unit there is only the number between the blanks. -/
theorem core_of_unnamed (hunit : r.unit = .unnamed) : r.core = r.number := by
  rw [core, hunit, r.gap_eq_nil hunit, Designation.word, List.append_nil, List.append_nil]

/-- No unit is found in a spelling that has none. -/
theorem splitUnit?_core_of_unnamed (hunit : r.unit = .unnamed) : splitUnit? r.core = none := by
  -- All words end with a letter, and the number ends with a digit.
  have hlast : ∀ c : Char, c.isDigit = false → r.number.getLast? ≠ some c := fun c hc hsome =>
    ne_true_of_eq_false hc (r.isDigit_of_mem_getLast?_number c hsome)
  rw [r.core_of_unnamed hunit, splitUnit?, units]
  simp only [List.findSome?_cons, List.findSome?_nil, Option.map_none,
    isSuffixOf?_eq_none "ms".toList rfl (hlast 's' rfl),
    isSuffixOf?_eq_none "s".toList rfl (hlast 's' rfl),
    isSuffixOf?_eq_none "m".toList rfl (hlast 'm' rfl)]

/-- A spelling says a duration whose whole seconds fit a word, as long as its minutes do not
overflow. -/
theorem ofUnits?_value (r : Spelling) (h : r.unit = .minutes → r.value * 60 < wordLimit) :
    ofUnits? r.unit.nanos r.value = some r.duration := by
  have hfits : r.value < wordLimit := r.fits
  have hseconds : r.value * r.unit.nanos / 1000000000 < wordLimit := by
    cases hunit : r.unit with
    | minutes =>
      have hminutes := h hunit
      rw [Designation.nanos]
      omega
    | millis | seconds | unnamed =>
      rw [Designation.nanos]
      omega
  rw [ofUnits?_of_lt hseconds, ← Designation.nanos_counted]
  rfl

/-- What is spelled is read, as long as its minutes do not overflow. -/
theorem parse?_eq_duration {s : String} (htext : r.text = s.toList)
    (h : r.unit = .minutes → r.value * 60 < wordLimit) : parse? s = some r.duration := by
  rw [parse?, ← htext, r.trimChars_text]
  by_cases hunit : r.unit = .unnamed
  · have hvalue := r.ofUnits?_value h
    rw [hunit, Designation.nanos] at hvalue
    simp only [r.splitUnit?_core_of_unnamed hunit]
    rw [r.core_of_unnamed hunit, unsigned?_number, Option.bind_some, hvalue]
  · simp only [splitUnit?_core hunit, trimChars_number_gap, unsigned?_number, Option.bind_some,
      ofUnits?_value r h]

end Spelling

/-! ### What is read is spelled -/

/-- A number, blanks and a unit are a spelling, with blanks around them. -/
theorem exists_spelling {lead digits gap trail : List Char} {n : Nat} {d : Duration} (plus : Bool)
    (u : Designation) (hlead : ∀ c ∈ lead, isBlank c = true) (hdigits : count? digits = some n)
    (hgap : ∀ c ∈ gap, isBlank c = true)
    (hnone : u = .unnamed → gap = []) (htrail : ∀ c ∈ trail, isBlank c = true)
    (hd : ofUnits? u.nanos n = some d) :
    ∃ r : Spelling, r.text = lead ++ (sign plus ++ digits ++ gap ++ u.word) ++ trail ∧
      r.duration = d := by
  obtain ⟨hsome, hall, rfl, hfits⟩ := count?_eq_some_iff.mp hdigits
  refine ⟨⟨lead, plus, digits, gap, u, trail, hlead, hsome, hall, hfits, hgap, hnone, htrail⟩, rfl,
    ?_⟩
  have hnanos : (u.counted (Nat.ofDigitChars 10 digits 0)).nanos = d.nanos :=
    (Designation.nanos_counted _ u).trans (eq_of_ofUnits? hd).1.symm
  exact congrArg Duration.mk hnanos

/-- A unit that is split off is named at the end of the text. -/
theorem exists_of_splitUnit? {cs front : List Char} {unit : Nat}
    (h : splitUnit? cs = some (front, unit)) :
    ∃ u : Designation, u ≠ .unnamed ∧ cs = front ++ u.word ∧ unit = u.nanos := by
  obtain ⟨entry, hentry, hsuffix⟩ := List.exists_of_findSome?_eq_some h
  obtain ⟨found, hfound, hpair⟩ := Option.map_eq_some_iff.mp hsuffix
  obtain ⟨u, hu, hword, hnanos⟩ := Designation.exists_of_mem_units hentry
  cases hpair
  rw [List.isSuffixOf?_eq_some_iff_append_eq, hword] at hfound
  exact ⟨u, hu, hfound.symm, hnanos⟩

/-- What is read is the duration of a spelling of the text. -/
theorem exists_spelling_of_parse? {s : String} {d : Duration} (h : parse? s = some d) :
    ∃ r : Spelling, r.text = s.toList ∧ r.duration = d := by
  obtain ⟨lead, trail, htext, hlead, htrail, hhead⟩ := exists_eq_trimChars s.toList
  rw [parse?] at h
  split at h
  case h_1 front unit hsplit =>
    obtain ⟨u, hu, hcore, rfl⟩ := exists_of_splitUnit? hsplit
    obtain ⟨n, hn, hd⟩ := Option.bind_eq_some_iff.mp h
    obtain ⟨plus, digits, hnumber, hdigits⟩ := unsigned?_eq_some_iff.mp hn
    obtain ⟨before, gap, hfront, hbefore, hgap, -⟩ := exists_eq_trimChars front
    -- The whole text was trimmed, so there are no blanks in front of the number.
    have hnil : before = [] := by
      cases before with
      | nil => rfl
      | cons blank before =>
        have hblank := hhead blank (by rw [hcore, hfront]; rfl)
        rw [hbefore blank List.mem_cons_self] at hblank
        cases hblank
    rw [hnil, List.nil_append, hnumber] at hfront
    obtain ⟨r, hr, hduration⟩ := exists_spelling plus u hlead hdigits hgap
      (fun hunnamed => absurd hunnamed hu) htrail hd
    exact ⟨r, by rw [hr, ← hfront, ← hcore, ← htext], hduration⟩
  case h_2 hsplit =>
    obtain ⟨n, hn, hd⟩ := Option.bind_eq_some_iff.mp h
    obtain ⟨plus, digits, hnumber, hdigits⟩ := unsigned?_eq_some_iff.mp hn
    obtain ⟨r, hr, hduration⟩ := exists_spelling plus .unnamed hlead hdigits
      (List.forall_mem_nil _) (fun _ => rfl) htrail hd
    refine ⟨r, ?_, hduration⟩
    rw [hr, List.append_nil, Designation.word, List.append_nil, ← hnumber, ← htext]

/-- A text is read as a duration just when it spells it: with blanks around it, a plus sign or none,
one or more digits whose value fits a word, and `ms`, `s`, `m` or, without blanks in between,
nothing for the unit. No text has two spellings. Texts that spell more minutes than there are
seconds in a word are left aside. -/
theorem parse?_eq_some_iff_spelled {s : String} {d : Duration}
    (hminutes : ∀ r : Spelling, r.text = s.toList → r.unit = .minutes → r.value * 60 < wordLimit) :
    (parse? s = some d ↔ ∃ r : Spelling, r.text = s.toList ∧ r.duration = d) ∧
      ∀ r r' : Spelling, r.text = s.toList → r'.text = s.toList → r = r' := by
  refine ⟨⟨exists_spelling_of_parse?, ?_⟩, fun r r' h h' => ?_⟩
  · rintro ⟨r, htext, rfl⟩
    exact Spelling.parse?_eq_duration htext (hminutes r htext)
  · exact Spelling.eq_of_text_eq (h.trans h'.symm)

/-- Nine minutes with a sign, a zero in front and blanks of three kinds, the widest of which is not
an ASCII one. -/
theorem parse?_eq_some_iff_spelled_minutes :
    parse? "\t+09 \u3000m " = some (.ofSeconds 540) := by
  let nine : Spelling :=
    { lead := ['\t'], plus := true, digits := ['0', '9'], gap := [' ', '\u3000'], unit := .minutes,
      trail := [' '], lead_blank := List.all_eq_true.mp (by decide),
      digits_ne_nil := List.cons_ne_nil _ _, isDigit_of_mem := List.all_eq_true.mp (by decide),
      fits := by decide, gap_blank := List.all_eq_true.mp (by decide),
      gap_eq_nil := by decide, trail_blank := List.all_eq_true.mp (by decide) }
  have htext : nine.text = "\t+09 \u3000m ".toList := by decide
  refine (parse?_eq_some_iff_spelled fun r hr _ => ?_).1.mpr ⟨nine, htext, rfl⟩
  rw [Spelling.eq_of_text_eq (hr.trans htext.symm)]
  decide

end Duration

end ElasticGroups
