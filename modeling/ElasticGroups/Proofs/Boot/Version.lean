import ElasticGroups.Boot.Version
import ElasticGroups.Proofs.Text.Blank
import ElasticGroups.Proofs.Text.Numeral

/-!
# Texts of versions

A text is read as a version just when it is the text of that version (`Version.parse_eq_ok_iff`).
Reading goes from left to right. For each step there are two lemmas: what it takes off a text is the
text of the part that it gives, and it gives a part whose text stands in front of something that the
part cannot go on with.

The module introduces:

* `IsIdentifier` — the text is an identifier of a part;
* `Version.Valid` — the numbers of a version fit a word, and its identifiers are some;
* `IsSemanticVersion` — the text is that of a valid version;
* `isVersionChar` — the characters that a version may have.
-/

namespace ElasticGroups.Boot

open Text

/-- A sequence of steps that may fail succeeds when both of its parts do. -/
theorem bind_eq_ok_iff {ε α β : Type} {first : Except ε α} {next : α → Except ε β} {b : β} :
    (first >>= next) = .ok b ↔ ∃ a, first = .ok a ∧ next a = .ok b := by
  constructor
  · intro h
    cases first with
    | error error => cases h
    | ok a => exact ⟨a, rfl, h⟩
  · rintro ⟨a, rfl, h⟩
    exact h

/-- The text is an identifier of a part: one or more letters, digits and hyphens. -/
structure IsIdentifier (part : VersionPart) (identifier : List Char) : Prop where
  ne_nil : identifier ≠ []
  isIdentifierChar_of_mem : ∀ c ∈ identifier, Version.isIdentifierChar c = true
  /-- A number among the identifiers of a pre-release has no zero in front. -/
  eq_zero : part = .preRelease → (∀ c ∈ identifier, c.isDigit = true) →
    identifier.head? = some '0' → identifier = ['0']

namespace Version

/-- The numbers of a version fit a word, and its identifiers are some. -/
structure Valid (v : Version) : Prop where
  major_lt : v.major < wordLimit
  minor_lt : v.minor < wordLimit
  patch_lt : v.patch < wordLimit
  preRelease : ∀ identifier ∈ v.preRelease, IsIdentifier .preRelease identifier
  build : ∀ identifier ∈ v.build, IsIdentifier .build identifier

variable {part : VersionPart} {cs rest : List Char}

/-! ### Numbers -/

/-- What is read as a number is its digits. -/
theorem eq_append_of_number {n : Nat} (h : number part cs = .ok (n, rest)) :
    cs = Nat.toDigits 10 n ++ rest ∧ n < wordLimit := by
  have hsplit := List.takeWhile_append_dropWhile (p := Char.isDigit) (l := cs)
  have hdigits : ∀ c ∈ cs.takeWhile Char.isDigit, c.isDigit = true :=
    List.all_eq_true.mp List.all_takeWhile
  unfold number at h
  dsimp only at h
  split at h
  case h_1 => split at h <;> cases h
  case h_2 d more htake =>
    -- Digits are refused only when a zero stands in front of others, or when their value is too
    -- great, so from here on they are those of their value.
    rw [htake] at h hsplit hdigits
    split at h
    case isTrue => cases h
    case isFalse hzero =>
      have hmore : d = '0' → more = [] := fun hd => by_contra fun hsome => hzero ⟨hd, hsome⟩
      split at h
      case isTrue hfits =>
        cases h
        rw [toDigits_ofDigitChars hdigits hmore]
        exact ⟨hsplit.symm, hfits⟩
      case isFalse => cases h

/-- The digits of a number that fits a word are read up to something else. -/
theorem number_append {n : Nat} (h : n < wordLimit)
    (hrest : ∀ c ∈ rest.head?, c.isDigit = false) :
    number part (Nat.toDigits 10 n ++ rest) = .ok (n, rest) := by
  have hdigits : ∀ c ∈ Nat.toDigits 10 n, c.isDigit = true := fun c hc =>
    Nat.isDigit_of_mem_toDigits (by decide) (by decide) hc
  obtain ⟨d, more, htext⟩ := List.exists_cons_of_ne_nil (Nat.toDigits_ne_nil (n := n) (b := 10))
  have hzero : ¬ (d = '0' ∧ more ≠ []) := by
    rintro ⟨rfl, hmore⟩
    rw [eq_zero_of_toDigits_eq_cons htext, Nat.toDigits_zero, List.cons.injEq] at htext
    exact hmore htext.2.symm
  have hvalue : Nat.ofDigitChars 10 (d :: more) 0 = n := by
    rw [← htext, Nat.ofDigitChars_ten_toDigits]
  simp only [number, takeWhile_append_of_head? hdigits hrest,
    dropWhile_append_of_head? hdigits hrest]
  simp only [htext, hzero, hvalue, h, if_true, if_false]

/-- What is taken behind a part is a dot. -/
theorem dot_eq_ok_iff : dot part cs = .ok rest ↔ cs = '.' :: rest := by
  cases cs with
  | nil => exact ⟨nofun, nofun⟩
  | cons c cs =>
    rw [dot]
    split
    case isTrue hdot => rw [hdot, Except.ok.injEq, List.cons.injEq, eq_self, true_and]
    case isFalse hdot => exact ⟨nofun, fun h => absurd (List.cons.inj h).1 hdot⟩

/-! ### Identifiers -/

/-- What is closed is an identifier, if all of its characters may stand in one. -/
theorem closeIdentifier_eq_ok_iff {identifier closed : List Char}
    (h : ∀ c ∈ identifier, isIdentifierChar c = true) :
    closeIdentifier part identifier = .ok closed ↔
      identifier = closed ∧ IsIdentifier part identifier := by
  rw [closeIdentifier]
  split
  case isTrue hnil => exact ⟨nofun, fun hid => absurd hnil hid.2.ne_nil⟩
  case isFalse hsome =>
    split
    case isTrue hzero =>
      obtain ⟨hpart, hdigits, hlong, hhead⟩ := hzero
      refine ⟨nofun, fun hid => ?_⟩
      rw [hid.2.eq_zero hpart (List.all_eq_true.mp hdigits) hhead] at hlong
      exact absurd hlong (by decide)
    case isFalse hzero =>
      rw [Except.ok.injEq]
      refine ⟨fun hclosed => ⟨hclosed, hsome, h, fun hpart hdigits hhead => ?_⟩, And.left⟩
      -- A text that begins with a zero is that zero, or has more than one character.
      obtain ⟨c, more, rfl⟩ := List.exists_cons_of_ne_nil hsome
      obtain rfl := Option.some.inj hhead
      by_contra hmore
      refine hzero ⟨hpart, List.all_eq_true.mpr hdigits, ?_, rfl⟩
      rw [List.length_cons, Nat.lt_add_left_iff_pos, List.length_pos_iff]
      exact fun hnil => hmore (hnil ▸ rfl)

/-- What is read as identifiers, together with what was read of the first one, is the identifiers
with dots between them. -/
theorem eq_append_of_identifiers {current : List Char} {read : List (List Char)}
    (hcurrent : ∀ c ∈ current, isIdentifierChar c = true)
    (h : identifiers part current cs = .ok (read, rest)) :
    current ++ cs = List.intercalate ['.'] read ++ rest ∧ read ≠ [] ∧
      ∀ identifier ∈ read, IsIdentifier part identifier := by
  induction cs generalizing current read with
  | nil =>
    obtain ⟨closed, hclose, hend⟩ := bind_eq_ok_iff.mp h
    obtain ⟨rfl, hid⟩ := (closeIdentifier_eq_ok_iff hcurrent).mp hclose
    cases hend
    rw [List.intercalate_singleton]
    exact ⟨rfl, List.cons_ne_nil _ _, List.forall_mem_singleton.mpr hid⟩
  | cons c cs ih =>
    rw [identifiers] at h
    split at h
    case isTrue hc =>
      have hmore := ih (List.forall_mem_append.mpr ⟨hcurrent, List.forall_mem_singleton.mpr hc⟩) h
      rwa [List.append_assoc] at hmore
    case isFalse =>
      -- An identifier ends here: with a dot another one follows, and else nothing more is read.
      obtain ⟨closed, hclose, hend⟩ := bind_eq_ok_iff.mp h
      obtain ⟨rfl, hid⟩ := (closeIdentifier_eq_ok_iff hcurrent).mp hclose
      split at hend
      case isTrue hdot =>
        obtain ⟨⟨more, behind⟩, hmore, hpair⟩ := bind_eq_ok_iff.mp hend
        cases hpair
        obtain ⟨rfl, hsome, hids⟩ := ih (List.forall_mem_nil _) hmore
        refine ⟨?_, List.cons_ne_nil _ _, List.forall_mem_cons.mpr ⟨hid, hids⟩⟩
        rw [List.intercalate_cons_of_ne_nil hsome, hdot]
        simp
      case isFalse =>
        cases hend
        rw [List.intercalate_singleton]
        exact ⟨rfl, List.cons_ne_nil _ _, List.forall_mem_singleton.mpr hid⟩

/-- Characters of identifiers are added to the identifier that is being read. -/
theorem identifiers_append {current front : List Char}
    (h : ∀ c ∈ front, isIdentifierChar c = true) :
    identifiers part current (front ++ cs) = identifiers part (current ++ front) cs := by
  induction front generalizing current with
  | nil => rw [List.nil_append, List.append_nil]
  | cons c front ih =>
    rw [List.forall_mem_cons] at h
    rw [List.cons_append, identifiers, if_pos h.1, ih h.2, List.append_assoc]
    rfl

/-- Identifiers with dots between them are read up to something else. -/
theorem identifiers_intercalate {read : List (List Char)} (hsome : read ≠ [])
    (h : ∀ identifier ∈ read, IsIdentifier part identifier)
    (hrest : ∀ c ∈ rest.head?, isIdentifierChar c = false ∧ c ≠ '.') :
    identifiers part [] (List.intercalate ['.'] read ++ rest) = .ok (read, rest) := by
  induction read with
  | nil => exact absurd rfl hsome
  | cons identifier more ih =>
    rw [List.forall_mem_cons] at h
    have hchars := h.1.isIdentifierChar_of_mem
    have hclose := (closeIdentifier_eq_ok_iff hchars).mpr ⟨rfl, h.1⟩
    cases more with
    | nil =>
      -- The last identifier is closed by what stands behind all of them.
      rw [List.intercalate_singleton, identifiers_append hchars, List.nil_append]
      cases rest with
      | nil => rw [identifiers, hclose]; rfl
      | cons c rest =>
        obtain ⟨hc, hdot⟩ := hrest c rfl
        rw [identifiers, if_neg (ne_true_of_eq_false hc), hclose]
        exact if_neg hdot
    | cons next more =>
      -- Any other one is closed by its dot.
      have hmore := ih (List.cons_ne_nil _ _) h.2
      rw [List.intercalate_cons_cons, List.append_assoc, List.append_assoc,
        identifiers_append hchars, List.nil_append, List.singleton_append, identifiers,
        if_neg (by decide), hclose]
      refine bind_eq_ok_iff.mpr ⟨identifier, rfl, ?_⟩
      rw [if_pos rfl, hmore]
      rfl

/-- What is read behind a mark is the text of identifiers. -/
theorem eq_append_of_optionalIdentifiers {mark : Char} {read : List (List Char)}
    (h : optionalIdentifiers part mark cs = .ok (read, rest)) :
    cs = identifiersText mark read ++ rest ∧ ∀ identifier ∈ read, IsIdentifier part identifier := by
  cases cs with
  | nil =>
    cases h
    exact ⟨rfl, List.forall_mem_nil _⟩
  | cons c cs =>
    rw [optionalIdentifiers] at h
    split at h
    case isTrue hmark =>
      obtain ⟨rfl, hsome, hids⟩ := eq_append_of_identifiers (List.forall_mem_nil _) h
      rw [identifiersText, if_neg hsome, hmark]
      exact ⟨rfl, hids⟩
    case isFalse =>
      cases h
      exact ⟨rfl, List.forall_mem_nil _⟩

/-- The text of identifiers is read up to something else. -/
theorem optionalIdentifiers_append {mark : Char} {read : List (List Char)}
    (h : ∀ identifier ∈ read, IsIdentifier part identifier)
    (hrest : ∀ c ∈ rest.head?, isIdentifierChar c = false ∧ c ≠ '.' ∧ c ≠ mark) :
    optionalIdentifiers part mark (identifiersText mark read ++ rest) = .ok (read, rest) := by
  by_cases hread : read = []
  · subst hread
    cases rest with
    | nil => rfl
    | cons c rest => exact if_neg (hrest c rfl).2.2
  · rw [identifiersText, if_neg hread, List.cons_append, optionalIdentifiers, if_pos rfl]
    exact identifiers_intercalate hread h fun c hc => ⟨(hrest c hc).1, (hrest c hc).2.1⟩

/-! ### Versions -/

/-- What the text of identifiers begins with is the mark. -/
theorem eq_mark_of_head? {mark c : Char} {read : List (List Char)}
    (h : c ∈ (identifiersText mark read).head?) : c = mark := by
  rw [identifiersText] at h
  split at h
  · cases h
  · exact (Option.some.inj h).symm

/-- The text of a version, part after part. -/
theorem toList_text (v : Version) :
    v.text.toList = Nat.toDigits 10 v.major ++ '.' :: (Nat.toDigits 10 v.minor ++
      '.' :: (Nat.toDigits 10 v.patch ++ (identifiersText '-' v.preRelease ++
        identifiersText '+' v.build))) := by
  simp [text]

/-- Behind the patch number nothing stands, or a mark. -/
theorem eq_mark_of_head?_append {mark mark' c : Char} {read read' : List (List Char)}
    (h : c ∈ (identifiersText mark read ++ identifiersText mark' read').head?) :
    c = mark ∨ c = mark' := by
  rw [List.head?_append] at h
  rcases Option.or_eq_some_iff.mp h with h | ⟨-, h⟩
  · exact .inl (eq_mark_of_head? h)
  · exact .inr (eq_mark_of_head? h)

/-- A version that is read is valid, and the text is that of the version. -/
theorem text_of_parse {s : String} {v : Version} (h : parse s = .ok v) : v.Valid ∧ v.text = s := by
  rw [parse] at h
  split at h
  · cases h
  obtain ⟨⟨major, _⟩, hmajor, h⟩ := bind_eq_ok_iff.mp h
  obtain ⟨_, hdot, h⟩ := bind_eq_ok_iff.mp h
  obtain ⟨⟨minor, _⟩, hminor, h⟩ := bind_eq_ok_iff.mp h
  obtain ⟨_, hdot', h⟩ := bind_eq_ok_iff.mp h
  obtain ⟨⟨patch, _⟩, hpatch, h⟩ := bind_eq_ok_iff.mp h
  obtain ⟨⟨preRelease, _⟩, hpreRelease, h⟩ := bind_eq_ok_iff.mp h
  obtain ⟨⟨build, rest⟩, hbuild, hend⟩ := bind_eq_ok_iff.mp h
  -- Nothing is left behind the build.
  cases rest with
  | cons c rest => cases hend
  | nil =>
    cases hend
    obtain ⟨hs, major_lt⟩ := eq_append_of_number hmajor
    obtain rfl := dot_eq_ok_iff.mp hdot
    obtain ⟨rfl, minor_lt⟩ := eq_append_of_number hminor
    obtain rfl := dot_eq_ok_iff.mp hdot'
    obtain ⟨rfl, patch_lt⟩ := eq_append_of_number hpatch
    obtain ⟨rfl, hpreReleases⟩ := eq_append_of_optionalIdentifiers hpreRelease
    obtain ⟨rfl, hbuilds⟩ := eq_append_of_optionalIdentifiers hbuild
    refine ⟨⟨major_lt, minor_lt, patch_lt, hpreReleases, hbuilds⟩, String.toList_inj.mp ?_⟩
    rw [toList_text, hs, List.append_nil]

/-- The text of a valid version is read as that version. -/
theorem parse_text {v : Version} (hv : v.Valid) : parse v.text = .ok v := by
  have hsome : v.text ≠ "" := fun hnil => by
    have htext := v.toList_text
    rw [hnil] at htext
    exact Nat.toDigits_ne_nil (List.append_eq_nil_iff.mp htext.symm).1
  have hmark : ∀ c ∈ (identifiersText '-' v.preRelease ++ identifiersText '+' v.build).head?,
      c.isDigit = false := by
    intro c hc
    rcases eq_mark_of_head?_append hc with rfl | rfl <;> decide
  have hplus : ∀ c ∈ (identifiersText '+' v.build).head?,
      isIdentifierChar c = false ∧ c ≠ '.' ∧ c ≠ '-' := by
    intro c hc
    obtain rfl := eq_mark_of_head? hc
    decide
  have hbuild : optionalIdentifiers .build '+' (identifiersText '+' v.build ++ []) =
      .ok (v.build, []) := optionalIdentifiers_append hv.build nofun
  rw [List.append_nil] at hbuild
  rw [parse, if_neg hsome, toList_text]
  refine bind_eq_ok_iff.mpr ⟨_, number_append hv.major_lt (by simp), ?_⟩
  refine bind_eq_ok_iff.mpr ⟨_, dot_eq_ok_iff.mpr rfl, ?_⟩
  refine bind_eq_ok_iff.mpr ⟨_, number_append hv.minor_lt (by simp), ?_⟩
  refine bind_eq_ok_iff.mpr ⟨_, dot_eq_ok_iff.mpr rfl, ?_⟩
  refine bind_eq_ok_iff.mpr ⟨_, number_append hv.patch_lt hmark, ?_⟩
  refine bind_eq_ok_iff.mpr ⟨_, optionalIdentifiers_append hv.preRelease hplus, ?_⟩
  exact bind_eq_ok_iff.mpr ⟨_, hbuild, rfl⟩

/-- A text is read as a version just when it is the text of that version, which is valid. -/
theorem parse_eq_ok_iff {s : String} {v : Version} : parse s = .ok v ↔ v.Valid ∧ v.text = s :=
  ⟨text_of_parse, fun ⟨hv, hs⟩ => hs ▸ parse_text hv⟩

end Version

/-- The text is that of a semantic version whose numbers fit a word. -/
def IsSemanticVersion (s : String) : Prop :=
  ∃ v : Version, v.Valid ∧ v.text = s

/-- The texts that are read as versions are those of semantic versions. -/
theorem exists_parse_eq_ok_iff {s : String} :
    (∃ v, Version.parse s = .ok v) ↔ IsSemanticVersion s :=
  exists_congr fun _ => Version.parse_eq_ok_iff

/-! ### Characters of versions -/

/-- The characters that a version may have. -/
def isVersionChar (c : Char) : Bool := c.isAlphanum || c = '-' || c = '.' || c = '+'

namespace Version

theorem isVersionChar_of_mem_toDigits {n : Nat} {c : Char} (h : c ∈ Nat.toDigits 10 n) :
    isVersionChar c = true := by
  have hdigit := Nat.isDigit_of_mem_toDigits (by decide) (by decide) h
  simp [isVersionChar, Char.isAlphanum, hdigit]

/-- What stands in identifiers with dots between them is in one of them, or a dot. -/
theorem mem_intercalate_dot {c : Char} {read : List (List Char)}
    (h : c ∈ List.intercalate ['.'] read) : c = '.' ∨ ∃ identifier ∈ read, c ∈ identifier := by
  induction read with
  | nil => cases h
  | cons identifier more ih =>
    by_cases hmore : more = []
    · subst hmore
      rw [List.intercalate_singleton] at h
      exact .inr ⟨identifier, List.mem_singleton_self _, h⟩
    · rw [List.intercalate_cons_of_ne_nil hmore, List.mem_append, List.mem_append,
        List.mem_singleton] at h
      rcases h with (h | h) | h
      · exact .inr ⟨identifier, List.mem_cons_self, h⟩
      · exact .inl h
      · exact (ih h).imp_right fun ⟨other, hother, hc⟩ =>
          ⟨other, List.mem_cons_of_mem _ hother, hc⟩

theorem isVersionChar_of_mem_identifiersText {part : VersionPart} {mark c : Char}
    {read : List (List Char)} (hmark : isVersionChar mark = true)
    (hread : ∀ identifier ∈ read, IsIdentifier part identifier)
    (h : c ∈ identifiersText mark read) : isVersionChar c = true := by
  rw [identifiersText] at h
  split at h
  case isTrue => cases h
  case isFalse =>
    rcases List.mem_cons.mp h with rfl | h
    · exact hmark
    rcases mem_intercalate_dot h with rfl | ⟨identifier, hid, hc⟩
    · decide
    · have hchar := (hread identifier hid).isIdentifierChar_of_mem c hc
      simp only [isIdentifierChar, Bool.or_eq_true, decide_eq_true_eq] at hchar
      simp [isVersionChar, hchar]

/-- A text that is read as a version consists of characters that a version may have. -/
theorem isVersionChar_of_parse {s : String} {v : Version} (h : parse s = .ok v) :
    ∀ c ∈ s.toList, isVersionChar c = true := by
  obtain ⟨hv, rfl⟩ := text_of_parse h
  simp only [toList_text, List.forall_mem_append, List.forall_mem_cons]
  exact ⟨fun c => isVersionChar_of_mem_toDigits, by decide,
    fun c => isVersionChar_of_mem_toDigits, by decide, fun c => isVersionChar_of_mem_toDigits,
    fun c => isVersionChar_of_mem_identifiersText (by decide) hv.preRelease,
    fun c => isVersionChar_of_mem_identifiersText (by decide) hv.build⟩

end Version

end ElasticGroups.Boot
