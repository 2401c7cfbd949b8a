import Mathlib.Data.List.Basic

/-!
# Words and lines

A text taken apart at its blanks or at its line breaks, as a shell does before it runs a command.
Words are never empty, however many blanks stand between them; lines may be.

The module introduces:

* `words`, `lines` — the words and the lines of a text;
* `Spaced parts cs` — the text is given parts with one or more blanks between each two of them.

The words of a text that is made of words with blanks between them are these words
(`words_of_spaced`), and lines that are written with a break behind each of them are the lines again
(`lines_unlines`).
-/

namespace ElasticGroups.Text

/-- The words of a text: what stands between its blanks. -/
def words (cs : List Char) : List (List Char) :=
  (cs.splitOn ' ').filter (· ≠ [])

/-- The lines of a text: what stands in front of each line break, and what stands behind the last
one. -/
def lines (cs : List Char) : List (List Char) :=
  cs.splitOn '\n'

/-- A text is split first at the first mark in it. -/
theorem splitOn_append_cons {mark : Char} {front : List Char} (h : mark ∉ front)
    (rest : List Char) : (front ++ mark :: rest).splitOn mark = front :: rest.splitOn mark := by
  have hplain : ∀ c ∈ front, (c == mark) = false := fun c hc =>
    beq_false_of_ne fun hmark => h (hmark ▸ hc)
  exact List.splitOnP_append_cons_of_forall_mem hplain mark (beq_self_eq_true mark) rest

variable {word gap rest : List Char}

/-- A text without blanks is one word. -/
theorem words_eq_singleton (hword : ' ' ∉ word) (hsome : word ≠ []) : words word = [word] := by
  rw [words, List.splitOn_eq_singleton hword, List.filter_singleton]
  simp [hsome]

/-- Blanks at the start of a text do not count. -/
theorem words_blank (hgap : ∀ c ∈ gap, c = ' ') : words (gap ++ rest) = words rest := by
  induction gap with
  | nil => rfl
  | cons c gap ih =>
    rw [List.forall_mem_cons] at hgap
    obtain ⟨rfl, hgap⟩ := hgap
    have hsplit : (' ' :: (gap ++ rest)).splitOn ' ' = [] :: (gap ++ rest).splitOn ' ' :=
      splitOn_append_cons List.not_mem_nil _
    rw [words, List.cons_append, hsplit, List.filter_cons_of_neg (by simp)]
    exact ih hgap

/-- A word with blanks behind it is the first word. -/
theorem words_append (hword : ' ' ∉ word) (hsome : word ≠ []) (hgap : ∀ c ∈ gap, c = ' ')
    (hnone : gap ≠ []) : words (word ++ (gap ++ rest)) = word :: words rest := by
  obtain ⟨c, gap, rfl⟩ := List.exists_cons_of_ne_nil hnone
  rw [List.forall_mem_cons] at hgap
  obtain ⟨rfl, hgap⟩ := hgap
  rw [words, List.cons_append, splitOn_append_cons hword,
    List.filter_cons_of_pos (by simpa using hsome)]
  exact congrArg (word :: ·) (words_blank hgap)

/-- The text is given parts with one or more blanks between each two of them. -/
inductive Spaced : List (List Char) → List Char → Prop
  | last (part : List Char) : Spaced [part] part
  | cons {parts : List (List Char)} {rest : List Char} (part gap : List Char) :
    gap ≠ [] → (∀ c ∈ gap, c = ' ') → Spaced parts rest →
      Spaced (part :: parts) (part ++ (gap ++ rest))

/-- A text that is made of words with blanks between them has these words. -/
theorem words_of_spaced {parts : List (List Char)} {cs : List Char} (h : Spaced parts cs)
    (hparts : ∀ part ∈ parts, part ≠ [] ∧ ' ' ∉ part) : words cs = parts := by
  induction h with
  | last part =>
    obtain ⟨hsome, hplain⟩ := hparts part List.mem_cons_self
    exact words_eq_singleton hplain hsome
  | cons part gap hnone hgap _ ih =>
    rw [List.forall_mem_cons] at hparts
    rw [words_append hparts.1.2 hparts.1.1 hgap hnone, ih hparts.2]

/-- Lines that are written with a break behind each of them are the lines again, with nothing
behind the last break. -/
theorem lines_unlines {parts : List (List Char)} (h : ∀ part ∈ parts, '\n' ∉ part) :
    lines (parts.flatMap (· ++ ['\n'])) = parts ++ [[]] := by
  induction parts with
  | nil => rfl
  | cons part parts ih =>
    rw [List.forall_mem_cons] at h
    rw [List.flatMap_cons, List.append_assoc, List.singleton_append, lines,
      splitOn_append_cons h.1, List.cons_append]
    exact congrArg (part :: ·) (ih h.2)

end ElasticGroups.Text
