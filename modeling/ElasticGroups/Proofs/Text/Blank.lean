import ElasticGroups.Text.Blank
import Mathlib.Data.List.DropRight

/-!
# Texts taken apart at a class of characters

What stands at the start of a text and consists of a class of characters is told by the text, as
long as the class does not go on behind it (`append_inj_of_head?`). Trimming takes blanks off both
ends of a text (`exists_eq_trimChars`) and stops at what is no blank (`trimChars_append`).
-/

namespace ElasticGroups.Text

section Run

variable {member : Char → Bool} {front front' rest rest' : List Char}

/-- Dropping a class of characters stops where the class does. -/
theorem dropWhile_append_of_head? (hfront : ∀ c ∈ front, member c = true)
    (hrest : ∀ c ∈ rest.head?, member c = false) : (front ++ rest).dropWhile member = rest := by
  rw [List.dropWhile_append_of_pos hfront]
  cases rest with
  | nil => rfl
  | cons c rest => exact List.dropWhile_cons_of_neg (ne_true_of_eq_false (hrest c rfl))

/-- Taking a class of characters stops where the class does. -/
theorem takeWhile_append_of_head? (hfront : ∀ c ∈ front, member c = true)
    (hrest : ∀ c ∈ rest.head?, member c = false) : (front ++ rest).takeWhile member = front := by
  have hsplit := List.takeWhile_append_dropWhile (p := member) (l := front ++ rest)
  rw [dropWhile_append_of_head? hfront hrest] at hsplit
  exact List.append_cancel_right hsplit

/-- There is one way only to cut a text behind the class of characters at its start. -/
theorem append_inj_of_head? (hfront : ∀ c ∈ front, member c = true)
    (hrest : ∀ c ∈ rest.head?, member c = false) (hfront' : ∀ c ∈ front', member c = true)
    (hrest' : ∀ c ∈ rest'.head?, member c = false) (h : front ++ rest = front' ++ rest') :
    front = front' ∧ rest = rest' := by
  have hsame : rest = rest' := by
    rw [← dropWhile_append_of_head? hfront hrest, h, dropWhile_append_of_head? hfront' hrest']
  subst hsame
  exact ⟨List.append_cancel_right h, rfl⟩

end Run

/-- A text is its trimmed form with blanks around it, and the trimmed form begins with no blank. -/
theorem exists_eq_trimChars (cs : List Char) :
    ∃ lead trail, cs = lead ++ trimChars cs ++ trail ∧ (∀ c ∈ lead, isBlank c = true) ∧
      (∀ c ∈ trail, isBlank c = true) ∧ ∀ c ∈ (trimChars cs).head?, isBlank c = false := by
  have hsplit : trimChars cs ++ (cs.dropWhile isBlank).rtakeWhile isBlank =
      cs.dropWhile isBlank := List.rdropWhile_append_rtakeWhile
  refine ⟨cs.takeWhile isBlank, (cs.dropWhile isBlank).rtakeWhile isBlank, ?_,
    fun c => List.mem_takeWhile_imp, fun c => List.mem_rtakeWhile_imp, fun c hc => ?_⟩
  · rw [List.append_assoc, hsplit, List.takeWhile_append_dropWhile]
  · -- The trimmed form is a start of what is left when the blanks in front are dropped.
    have hhead : (cs.dropWhile isBlank).head? = some c := by
      rw [← hsplit, List.head?_append, hc]
      rfl
    have hnot := List.head?_dropWhile_not isBlank cs
    rw [hhead] at hnot
    exact hnot

variable {lead core trail : List Char}

/-- Blanks around a text do not count when it is trimmed. -/
theorem trimChars_append (hlead : ∀ c ∈ lead, isBlank c = true)
    (htrail : ∀ c ∈ trail, isBlank c = true) :
    trimChars (lead ++ core ++ trail) = trimChars core := by
  rw [trimChars, trimChars, List.append_assoc, List.dropWhile_append_of_pos hlead,
    List.dropWhile_append]
  split
  case isTrue hblank =>
    -- There are only blanks, so nothing is left of either text.
    rw [List.isEmpty_iff.mp hblank, List.dropWhile_eq_nil_iff.mpr htrail]
  case isFalse =>
    rw [trimEndChars, List.reverse_append,
      List.dropWhile_append_of_pos fun c hc => htrail c (List.mem_reverse.mp hc)]
    rfl

/-- What begins and ends with no blank is its own trimmed form. -/
theorem trimChars_eq_self (hhead : ∀ c ∈ core.head?, isBlank c = false)
    (hlast : ∀ c ∈ core.getLast?, isBlank c = false) : trimChars core = core := by
  have hfront : core.dropWhile isBlank = core :=
    dropWhile_append_of_head? (List.forall_mem_nil _) hhead
  have hback : core.reverse.dropWhile isBlank = core.reverse := by
    rw [← List.head?_reverse] at hlast
    exact dropWhile_append_of_head? (List.forall_mem_nil _) hlast
  rw [trimChars, trimEndChars, hfront, hback, List.reverse_reverse]

/-- The second text is the first one with blanks around it. -/
def BlanksAround (core s : String) : Prop :=
  ∃ lead trail, (∀ c ∈ lead, isBlank c = true) ∧ (∀ c ∈ trail, isBlank c = true) ∧
    s.toList = lead ++ core.toList ++ trail

/-- Two texts differ in the blanks around them only. -/
def SameUpToBlanks (s t : String) : Prop :=
  ∃ core, BlanksAround core s ∧ BlanksAround core t

theorem blanksAround_append {lead trail : String} (core : String)
    (hlead : lead.toList.all isBlank = true) (htrail : trail.toList.all isBlank = true) :
    BlanksAround core (lead ++ core ++ trail) :=
  ⟨lead.toList, trail.toList, List.all_eq_true.mp hlead, List.all_eq_true.mp htrail, by
    rw [String.toList_append, String.toList_append]⟩

theorem BlanksAround.trim_eq {core s : String} (h : BlanksAround core s) : trim s = trim core := by
  obtain ⟨lead, trail, hlead, htrail, hs⟩ := h
  rw [trim, trim, hs, trimChars_append hlead htrail]

/-- A text is its trimmed form with blanks around it. -/
theorem blanksAround_trim (s : String) : BlanksAround (trim s) s := by
  obtain ⟨lead, trail, hs, hlead, htrail, -⟩ := exists_eq_trimChars s.toList
  exact ⟨lead, trail, hlead, htrail, by rwa [trim, String.toList_ofList]⟩

/-- Texts that differ in the blanks around them only are those with the same trimmed form. -/
theorem sameUpToBlanks_iff {s t : String} : SameUpToBlanks s t ↔ trim s = trim t := by
  constructor
  · rintro ⟨core, hs, ht⟩
    rw [hs.trim_eq, ht.trim_eq]
  · intro h
    exact ⟨trim s, blanksAround_trim s, h ▸ blanksAround_trim t⟩

end ElasticGroups.Text
