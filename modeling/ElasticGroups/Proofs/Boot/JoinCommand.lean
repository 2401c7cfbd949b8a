import ElasticGroups.Boot.JoinCommand
import ElasticGroups.Proofs.Text.Shape
import ElasticGroups.Proofs.Text.Words

/-!
# Words of join commands

A join command is seven words with one or more blanks between each two of them, and nothing in front
or behind (`isJoinCommand_iff`). Each of the words consists of few characters.

The module introduces:

* `isJoinChar` — the characters that a join command may have;
* `JoinArguments` — what a join command says: the address of the cluster, the token and the hash of
  the certificate, each of its characters;
* `JoinArguments.words` — the words in which it is said;
* `wordShapes` — the shapes of these words.
-/

namespace ElasticGroups.Boot

open Text

/-- The characters that a join command may have. -/
def isJoinChar (c : Char) : Bool :=
  c.isLower || c.isDigit || c = ' ' || c = '.' || c = ':' || c = '-'

/-- What a join command says. -/
structure JoinArguments where
  /-- The host of the cluster. -/
  host : List Char
  /-- The port on that host. -/
  port : List Char
  /-- The public part of the token. -/
  tokenId : List Char
  /-- The secret part of the token. -/
  tokenSecret : List Char
  /-- The hash of the certificate. -/
  hash : List Char
  /-- A host is one or more digits and dots. -/
  host_chars : host ≠ [] ∧ ∀ c ∈ host, isHostChar c = true
  /-- A port is one or more digits. -/
  port_chars : port ≠ [] ∧ ∀ c ∈ port, c.isDigit = true
  /-- The public part is six characters of a token. -/
  tokenId_chars : tokenId.length = 6 ∧ ∀ c ∈ tokenId, isTokenChar c = true
  /-- The secret part is sixteen characters of a token. -/
  tokenSecret_chars : tokenSecret.length = 16 ∧ ∀ c ∈ tokenSecret, isTokenChar c = true
  /-- A hash is one or more hexadecimal digits. -/
  hash_chars : hash ≠ [] ∧ ∀ c ∈ hash, isHashChar c = true

/-- The words of the join command that says so. -/
def JoinArguments.words (a : JoinArguments) : List (List Char) :=
  ["kubeadm".toList, "join".toList, a.host ++ ':' :: a.port, "--token".toList,
    a.tokenId ++ '.' :: a.tokenSecret, "--discovery-token-ca-cert-hash".toList,
    "sha256:".toList ++ a.hash]

theorem isLower_of_isHashChar {c : Char} (h : isHashChar c = true) :
    c.isDigit = true ∨ c.isLower = true := by
  simp only [isHashChar, Bool.or_eq_true, Bool.and_eq_true, decide_eq_true_eq] at h
  refine h.imp_right fun hletter => ?_
  have hle : c ≤ 'z' := Char.le_trans hletter.2 (by decide)
  exact Bool.and_eq_true_iff.mpr ⟨decide_eq_true hletter.1, decide_eq_true hle⟩

/-- Every character of a join command is one of those that it may have. -/
theorem isJoinChar_of_isJoinCommand {s : String} (h : isJoinCommand s = true) :
    ∀ c ∈ s.toList, isJoinChar c = true := by
  have hspace : ∀ c, isSpace c = true → isJoinChar c = true := by
    simp +contextual [isSpace, isJoinChar]
  have hhost : ∀ c, isHostChar c = true → isJoinChar c = true := by
    simp +contextual [isHostChar, isJoinChar, or_imp]
  have hdigit : ∀ c : Char, c.isDigit = true → isJoinChar c = true := by
    simp +contextual [isJoinChar]
  have htoken : ∀ c, isTokenChar c = true → isJoinChar c = true := by
    simp +contextual [isTokenChar, isJoinChar]
  have hhash : ∀ c, isHashChar c = true → isJoinChar c = true := by
    intro c hc
    rcases isLower_of_isHashChar hc with h | h <;> simp [isJoinChar, h]
  refine (Shape.spells_of_accepts h).forall_mem ?_
  simp only [joinCommandShape, List.forall_mem_cons, Piece.Within]
  exact ⟨by decide, hspace, by decide, hspace, hhost, by decide, hdigit, hspace, by decide, hspace,
    htoken, by decide, htoken, hspace, by decide, hspace, by decide, hhash, List.forall_mem_nil _⟩

/-! ### The words of a join command -/

/-- The shapes of the words. -/
def wordShapes : List Shape :=
  [[.word "kubeadm"], [.word "join"], [.run isHostChar, .word ":", .run Char.isDigit],
    [.word "--token"], [.exactly 6 isTokenChar, .word ".", .exactly 16 isTokenChar],
    [.word "--discovery-token-ca-cert-hash"], [.word "sha256:", .run isHashChar]]

/-- A join command has the shapes of its words with blanks between them. -/
theorem joinCommandShape_eq : joinCommandShape = List.intercalate [.run isSpace] wordShapes := rfl

/-- A text has shapes with blanks between them just when it consists of texts of these shapes with
blanks between them. -/
theorem spells_intercalate_iff {shapes : List Shape} (hsome : shapes ≠ []) {cs : List Char} :
    Shape.Spells (List.intercalate [.run isSpace] shapes) cs ↔
      ∃ parts, List.Forall₂ Shape.Spells shapes parts ∧ Spaced parts cs := by
  induction shapes generalizing cs with
  | nil => exact absurd rfl hsome
  | cons shape shapes ih =>
    cases shapes with
    | nil =>
      -- A single shape has no blanks around it, so the text has a single part.
      rw [List.intercalate_singleton]
      constructor
      · exact fun h => ⟨[cs], .cons h .nil, .last cs⟩
      · rintro ⟨_, _ | ⟨h, _ | _⟩, hspaced⟩
        cases hspaced with
        | last => exact h
        | cons _ gap _ _ hnone => cases hnone
    | cons next shapes =>
      rw [List.intercalate_cons_cons, List.append_assoc, Shape.spells_append_iff]
      constructor
      · rintro ⟨part, _, rfl, hpart, gap, rest, rfl, hgap, hrest⟩
        obtain ⟨parts, hparts, hspaced⟩ := (ih (List.cons_ne_nil _ _)).mp hrest
        exact ⟨part :: parts, .cons hpart hparts,
          .cons part gap hgap.1 (fun c hc => of_decide_eq_true (hgap.2 c hc)) hspaced⟩
      · rintro ⟨_, _ | ⟨hpart, hparts⟩, hspaced⟩
        cases hspaced with
        | last => cases hparts
        | cons _ gap hnone hgap hrest =>
          exact ⟨_, _, rfl, hpart, gap, _, rfl, ⟨hnone, fun c hc => decide_eq_true (hgap c hc)⟩,
            (ih (List.cons_ne_nil _ _)).mpr ⟨_, hparts, hrest⟩⟩

theorem spells_word_iff {text : String} {cs : List Char} :
    Shape.Spells [.word text] cs ↔ cs = text.toList := by
  constructor
  · rintro ⟨_, _, rfl, rfl, rfl⟩
    exact List.append_nil _
  · rintro rfl
    exact ⟨_, [], (List.append_nil _).symm, rfl, rfl⟩

/-- An address is a host and a port. -/
theorem spells_address_iff {cs : List Char} :
    Shape.Spells [.run isHostChar, .word ":", .run Char.isDigit] cs ↔
      ∃ host port, cs = host ++ ':' :: port ∧ (host ≠ [] ∧ ∀ c ∈ host, isHostChar c = true) ∧
        port ≠ [] ∧ ∀ c ∈ port, c.isDigit = true := by
  constructor
  · rintro ⟨host, _, rfl, hhost, _, _, rfl, rfl, port, _, rfl, hport, rfl⟩
    exact ⟨host, port, by simp, hhost, hport⟩
  · rintro ⟨host, port, rfl, hhost, hport⟩
    exact ⟨host, _, rfl, hhost, _, _, rfl, rfl, port, [], (List.append_nil _).symm, hport, rfl⟩

/-- A token is its public and its secret part. -/
theorem spells_token_iff {cs : List Char} :
    Shape.Spells [.exactly 6 isTokenChar, .word ".", .exactly 16 isTokenChar] cs ↔
      ∃ tokenId tokenSecret, cs = tokenId ++ '.' :: tokenSecret ∧
        (tokenId.length = 6 ∧ ∀ c ∈ tokenId, isTokenChar c = true) ∧
        tokenSecret.length = 16 ∧ ∀ c ∈ tokenSecret, isTokenChar c = true := by
  constructor
  · rintro ⟨tokenId, _, rfl, hid, _, _, rfl, rfl, tokenSecret, _, rfl, hsecret, rfl⟩
    exact ⟨tokenId, tokenSecret, by simp, hid, hsecret⟩
  · rintro ⟨tokenId, tokenSecret, rfl, hid, hsecret⟩
    exact ⟨tokenId, _, rfl, hid, _, _, rfl, rfl, tokenSecret, [], (List.append_nil _).symm, hsecret,
      rfl⟩

/-- A hash stands behind the name of its kind. -/
theorem spells_hash_iff {cs : List Char} :
    Shape.Spells [.word "sha256:", .run isHashChar] cs ↔
      ∃ hash, cs = "sha256:".toList ++ hash ∧ hash ≠ [] ∧ ∀ c ∈ hash, isHashChar c = true := by
  constructor
  · rintro ⟨_, _, rfl, rfl, hash, _, rfl, hhash, rfl⟩
    exact ⟨hash, by simp, hhash⟩
  · rintro ⟨hash, rfl, hhash⟩
    exact ⟨_, _, rfl, rfl, hash, [], (List.append_nil _).symm, hhash, rfl⟩

/-- Texts have the shapes of the words just when they are the words in which something is said. -/
theorem forall₂_wordShapes_iff {parts : List (List Char)} :
    List.Forall₂ Shape.Spells wordShapes parts ↔ ∃ a : JoinArguments, parts = a.words := by
  constructor
  · rintro (_ | ⟨hkubeadm, _ | ⟨hjoin, _ | ⟨haddress, _ | ⟨hflag, _ | ⟨htoken, _ | ⟨hflag', _ |
      ⟨hhash, _ | _⟩⟩⟩⟩⟩⟩⟩)
    obtain ⟨host, port, rfl, hhost, hport⟩ := spells_address_iff.mp haddress
    obtain ⟨tokenId, tokenSecret, rfl, hid, hsecret⟩ := spells_token_iff.mp htoken
    obtain ⟨hash, rfl, hdigits⟩ := spells_hash_iff.mp hhash
    rw [spells_word_iff.mp hkubeadm, spells_word_iff.mp hjoin, spells_word_iff.mp hflag,
      spells_word_iff.mp hflag']
    exact ⟨⟨host, port, tokenId, tokenSecret, hash, hhost, hport, hid, hsecret, hdigits⟩, rfl⟩
  · rintro ⟨a, rfl⟩
    exact .cons (spells_word_iff.mpr rfl) <| .cons (spells_word_iff.mpr rfl) <|
      .cons (spells_address_iff.mpr ⟨a.host, a.port, rfl, a.host_chars, a.port_chars⟩) <|
      .cons (spells_word_iff.mpr rfl) <|
      .cons (spells_token_iff.mpr
        ⟨a.tokenId, a.tokenSecret, rfl, a.tokenId_chars, a.tokenSecret_chars⟩) <|
      .cons (spells_word_iff.mpr rfl) <|
      .cons (spells_hash_iff.mpr ⟨a.hash, rfl, a.hash_chars⟩) .nil

/-- A character of a class without the blank is no blank. -/
theorem isSpace_eq_false {member : Char → Bool} (hmember : member ' ' = false) {c : Char}
    (h : member c = true) : isSpace c = false := by
  refine decide_eq_false ?_
  rintro rfl
  exact ne_true_of_eq_false hmember h

/-- What comes behind a run of a join command never starts with a character of its class. -/
theorem joinCommandShape_separated : joinCommandShape.Separated := by
  have hport : ∀ c, isSpace c = true → c.isDigit = false := by
    intro c hc
    rw [of_decide_eq_true hc]
    rfl
  simp only [Shape.Separated, joinCommandShape, List.isChain_cons_cons, List.isChain_singleton,
    Piece.EndsBefore, Piece.Avoids, true_and, and_true]
  exact ⟨⟨'j', rfl, rfl⟩, fun c => isSpace_eq_false rfl, ⟨':', rfl, rfl⟩, hport, ⟨'-', rfl, rfl⟩,
    ⟨by decide, fun c => isSpace_eq_false rfl⟩, ⟨'-', rfl, rfl⟩, ⟨'s', rfl, rfl⟩⟩

/-- A text is a join command just when it is the words in which something is said, with one or more
blanks between each two of them. -/
theorem isJoinCommand_iff {s : String} :
    isJoinCommand s = true ↔ ∃ a : JoinArguments, Spaced a.words s.toList := by
  rw [isJoinCommand, Shape.accepts_iff_spells joinCommandShape_separated, joinCommandShape_eq,
    spells_intercalate_iff (by decide)]
  simp only [forall₂_wordShapes_iff]
  constructor
  · rintro ⟨_, ⟨a, rfl⟩, h⟩
    exact ⟨a, h⟩
  · rintro ⟨a, h⟩
    exact ⟨a.words, ⟨a, rfl⟩, h⟩

/-- A text of characters of a class without the blank has no blank. -/
theorem blank_notMem {member : Char → Bool} {cs : List Char} (hmember : member ' ' = false)
    (h : ∀ c ∈ cs, member c = true) : ' ' ∉ cs :=
  fun hblank => ne_true_of_eq_false hmember (h ' ' hblank)

/-- The words are not empty and have no blanks in them. -/
theorem JoinArguments.blank_notMem_of_mem (a : JoinArguments) :
    ∀ part ∈ a.words, part ≠ [] ∧ ' ' ∉ part := by
  have haddress : ' ' ∉ a.host ++ ':' :: a.port := by
    simp [blank_notMem rfl a.host_chars.2, blank_notMem rfl a.port_chars.2]
  have htoken : ' ' ∉ a.tokenId ++ '.' :: a.tokenSecret := by
    simp [blank_notMem rfl a.tokenId_chars.2, blank_notMem rfl a.tokenSecret_chars.2]
  have hhash : ' ' ∉ "sha256:".toList ++ a.hash := by
    simp [blank_notMem rfl a.hash_chars.2]
  simp only [words, List.forall_mem_cons]
  exact ⟨by decide, by decide, ⟨by simp, haddress⟩, by decide, ⟨by simp, htoken⟩, by decide,
    ⟨by simp, hhash⟩, List.forall_mem_nil _⟩

/-- A join command is said in the words of what it says. -/
theorem exists_words_of_isJoinCommand {s : String} (h : isJoinCommand s = true) :
    ∃ a : JoinArguments, words s.toList = a.words := by
  obtain ⟨a, hspaced⟩ := isJoinCommand_iff.mp h
  exact ⟨a, words_of_spaced hspaced a.blank_notMem_of_mem⟩

end ElasticGroups.Boot
