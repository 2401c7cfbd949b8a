import ElasticGroups.Proofs.Text.Blank
import ElasticGroups.Text.Shape
import Mathlib.Data.List.Chain

/-!
# Texts of a shape

What a shape stands for, said without reading a text from left to right: a text of a shape is made
of parts, one for each of its pieces.

The module introduces:

* `Piece.Matches` — the text is one of those that a piece stands for;
* `Shape.Spells` — the text is made of such parts, in the order of the pieces;
* `Shape.Separated` — what comes behind a run never starts with a character of its class;
* `Piece.Within` — all characters that a piece stands for are of a class.

A text that is accepted is of the shape, and the other way round if the shape is separated
(`Shape.accepts_iff_spells`). Two shapes in a row stand for their texts in a row
(`Shape.spells_append_iff`). If all pieces stay within a class of characters, so does the text
(`Shape.Spells.forall_mem`).
-/

namespace ElasticGroups.Text

/-- The text is one of those that a piece stands for. -/
def Piece.Matches : Piece → List Char → Prop
  | word text, cs => cs = text.toList
  | run member, cs => cs ≠ [] ∧ ∀ c ∈ cs, member c = true
  | exactly count member, cs => cs.length = count ∧ ∀ c ∈ cs, member c = true

/-- The text is made of parts, one for each piece of a shape. -/
def Shape.Spells : Shape → List Char → Prop
  | [], cs => cs = []
  | piece :: shape, cs => ∃ part rest, cs = part ++ rest ∧ piece.Matches part ∧ Spells shape rest

/-- What is taken off the start of a text is a part of the piece. -/
theorem Piece.matches_of_strip? {piece : Piece} {cs rest : List Char}
    (h : piece.strip? cs = some rest) : ∃ part, cs = part ++ rest ∧ piece.Matches part := by
  cases piece with
  | word text =>
    exact ⟨text.toList, (List.isPrefixOf?_eq_some_iff_append_eq.mp h).symm, rfl⟩
  | run member =>
    rw [strip?] at h
    split at h
    case isTrue => cases h
    case isFalse hsome =>
      obtain rfl := Option.some.inj h
      refine ⟨cs.takeWhile member, List.takeWhile_append_dropWhile.symm, ?_,
        List.all_eq_true.mp List.all_takeWhile⟩
      exact fun hnil => hsome (List.isEmpty_iff.mpr hnil)
  | exactly count member =>
    rw [strip?] at h
    split at h
    case isTrue hall =>
      obtain rfl := Option.some.inj h
      exact ⟨cs.take count, (List.take_append_drop count cs).symm, hall.1,
        List.all_eq_true.mp hall.2⟩
    case isFalse => cases h

/-- A text from which the pieces are taken one after the other, so that nothing is left, is of the
shape. -/
theorem Shape.spells_of_foldlM {shape : Shape} {cs : List Char}
    (h : shape.foldlM (fun rest piece => piece.strip? rest) cs = some []) : shape.Spells cs := by
  induction shape generalizing cs with
  | nil => exact Option.some.inj h
  | cons piece shape ih =>
    rw [List.foldlM_cons] at h
    obtain ⟨rest, hfirst, hrest⟩ := Option.bind_eq_some_iff.mp h
    obtain ⟨part, hcs, hpart⟩ := Piece.matches_of_strip? hfirst
    exact ⟨part, rest, hcs, hpart, ih hrest⟩

/-- A text that is accepted is of the shape. -/
theorem Shape.spells_of_accepts {shape : Shape} {s : String} (h : shape.accepts s = true) :
    shape.Spells s.toList :=
  spells_of_foldlM (beq_iff_eq.mp h)

/-! ### Reading a text of a shape -/

/-- What a piece stands for begins with a character out of a class. -/
def Piece.Avoids (member : Char → Bool) : Piece → Prop
  | word text => ∃ c ∈ text.toList.head?, member c = false
  | run own => ∀ c, own c = true → member c = false
  | exactly count own => 0 < count ∧ ∀ c, own c = true → member c = false

theorem Piece.Avoids.head? {member : Char → Bool} {piece : Piece} {part : List Char}
    (hpiece : piece.Avoids member) (h : piece.Matches part) (rest : List Char) :
    ∀ c ∈ (part ++ rest).head?, member c = false := by
  -- The part is not empty, so the text begins with its first character.
  have hsome : ∃ c ∈ part.head?, member c = false := by
    cases piece with
    | word text =>
      obtain rfl := h
      exact hpiece
    | run own =>
      obtain ⟨c, more, rfl⟩ := List.exists_cons_of_ne_nil h.1
      exact ⟨c, rfl, hpiece c (h.2 c List.mem_cons_self)⟩
    | exactly count own =>
      obtain ⟨hpos, hown⟩ := hpiece
      rw [← h.1, List.length_pos_iff] at hpos
      obtain ⟨c, more, rfl⟩ := List.exists_cons_of_ne_nil hpos
      exact ⟨c, rfl, hown c (h.2 c List.mem_cons_self)⟩
  obtain ⟨first, hfirst, hout⟩ := hsome
  intro c hc
  rw [List.head?_append, hfirst, Option.some_or, Option.mem_some_iff] at hc
  exact hc ▸ hout

/-- A run does not go on in a text. -/
def Piece.StopsAt : Piece → List Char → Prop
  | run member, rest => ∀ c ∈ rest.head?, member c = false
  | word _, _ => True
  | exactly _ _, _ => True

/-- A part of a piece is taken off a text that does not go on with it. -/
theorem Piece.strip?_append {piece : Piece} {part rest : List Char} (h : piece.Matches part)
    (hrest : piece.StopsAt rest) : piece.strip? (part ++ rest) = some rest := by
  cases piece with
  | word text =>
    obtain rfl := h
    exact List.isPrefixOf?_eq_some_iff_append_eq.mpr rfl
  | run member =>
    have hsome : ¬ part.isEmpty = true := fun hnil => h.1 (List.isEmpty_iff.mp hnil)
    rw [strip?, takeWhile_append_of_head? h.2 hrest, dropWhile_append_of_head? h.2 hrest,
      if_neg hsome]
  | exactly count member =>
    obtain ⟨rfl, hall⟩ := h
    rw [strip?, List.take_left, List.drop_left, if_pos ⟨rfl, List.all_eq_true.mpr hall⟩]

/-- What the second piece stands for never begins with more of a run of the first. -/
def Piece.EndsBefore : Piece → Piece → Prop
  | run member, next => next.Avoids member
  | word _, _ => True
  | exactly _ _, _ => True

/-- What comes behind a run never starts with a character of its class. -/
def Shape.Separated (shape : Shape) : Prop :=
  List.IsChain Piece.EndsBefore shape

/-- A piece stops where the text of the pieces behind it begins. -/
theorem Shape.Spells.stopsAt {piece : Piece} {shape : Shape} {cs : List Char}
    (h : shape.Spells cs) (hpiece : ∀ next ∈ shape.head?, piece.EndsBefore next) :
    piece.StopsAt cs := by
  cases piece with
  | word text => trivial
  | exactly count member => trivial
  | run member =>
    cases shape with
    | nil =>
      -- Behind the last piece nothing is left.
      obtain rfl := h
      exact nofun
    | cons next shape =>
      obtain ⟨part, rest, rfl, hpart, -⟩ := h
      exact (hpiece next rfl).head? hpart rest

/-- From a text of a separated shape the pieces are taken one after the other, so that nothing is
left. -/
theorem Shape.Spells.foldlM {shape : Shape} {cs : List Char} (h : shape.Spells cs)
    (hshape : shape.Separated) :
    shape.foldlM (fun rest piece => piece.strip? rest) cs = some [] := by
  induction shape generalizing cs with
  | nil => exact congrArg some h
  | cons piece shape ih =>
    obtain ⟨part, rest, rfl, hpart, hrest⟩ := h
    obtain ⟨hpiece, hshape⟩ := List.isChain_cons.mp hshape
    rw [List.foldlM_cons, Piece.strip?_append hpart (hrest.stopsAt hpiece)]
    exact ih hrest hshape

/-- The texts that are accepted are those of the shape, if it is separated. -/
theorem Shape.accepts_iff_spells {shape : Shape} (hshape : shape.Separated) {s : String} :
    shape.accepts s = true ↔ shape.Spells s.toList :=
  ⟨spells_of_accepts, fun h => beq_iff_eq.mpr (h.foldlM hshape)⟩

/-- Two shapes in a row stand for their texts in a row. -/
theorem Shape.spells_append_iff {front back : Shape} {cs : List Char} :
    Spells (front ++ back) cs ↔
      ∃ part rest, cs = part ++ rest ∧ Spells front part ∧ Spells back rest := by
  induction front generalizing cs with
  | nil =>
    refine ⟨fun h => ⟨[], cs, rfl, rfl, h⟩, ?_⟩
    rintro ⟨_, rest, rfl, rfl, h⟩
    exact h
  | cons piece front ih =>
    constructor
    · rintro ⟨first, behind, rfl, hfirst, hbehind⟩
      obtain ⟨part, rest, rfl, hpart, hrest⟩ := ih.mp hbehind
      exact ⟨first ++ part, rest, (List.append_assoc _ _ _).symm, ⟨first, part, rfl, hfirst, hpart⟩,
        hrest⟩
    · rintro ⟨_, rest, rfl, ⟨first, part, rfl, hfirst, hpart⟩, hrest⟩
      exact ⟨first, part ++ rest, List.append_assoc _ _ _, hfirst,
        ih.mpr ⟨part, rest, rfl, hpart, hrest⟩⟩

/-! ### The characters of a text -/

/-- All characters that a piece stands for are of a class. -/
def Piece.Within (member : Char → Bool) : Piece → Prop
  | word text => text.toList.all member = true
  | run own => ∀ c, own c = true → member c = true
  | exactly _ own => ∀ c, own c = true → member c = true

theorem Piece.Within.forall_mem {member : Char → Bool} {piece : Piece} {part : List Char}
    (hpiece : piece.Within member) (h : piece.Matches part) : ∀ c ∈ part, member c = true := by
  cases piece with
  | word text =>
    obtain rfl := h
    exact List.all_eq_true.mp hpiece
  | run own => exact fun c hc => hpiece c (h.2 c hc)
  | exactly count own => exact fun c hc => hpiece c (h.2 c hc)

/-- A text of a shape whose pieces stay within a class of characters stays within it. -/
theorem Shape.Spells.forall_mem {member : Char → Bool} {shape : Shape} {cs : List Char}
    (h : shape.Spells cs) (hshape : ∀ piece ∈ shape, piece.Within member) :
    ∀ c ∈ cs, member c = true := by
  induction shape generalizing cs with
  | nil =>
    obtain rfl := h
    exact List.forall_mem_nil _
  | cons piece shape ih =>
    rw [List.forall_mem_cons] at hshape
    obtain ⟨part, rest, rfl, hpart, hrest⟩ := h
    exact List.forall_mem_append.mpr ⟨hshape.1.forall_mem hpart, ih hrest hshape.2⟩

end ElasticGroups.Text
