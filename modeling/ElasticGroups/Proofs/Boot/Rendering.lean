import ElasticGroups.Proofs.Boot.Acceptance

/-!
# The script of a payload

The two values of a payload stand between double quotes in the script of a node. Neither of them
has a character that means more than itself there, or where the join command is used without
quotes, so the script has the lines that it is meant to have and the command has its seven words.

The module introduces:

* `isActive` — the characters that mean more than themselves to a shell: quotes, the backslash, the
  dollar sign and the backquote, the line break, and those of patterns of file names;
* `Payload.scriptLines` — the lines that the script is meant to have.

What is read as a version or as a join command has no active character (`not_isActive_of_class`), so
the script shows both values (`Payload.values_of_script`).
-/

namespace ElasticGroups.Boot

open Text

/-- The characters that mean more than themselves to a shell. -/
def activeChars : List Char := ['\x22', '\x27', '\\', '$', '\x60', '\n', '*', '?', '[', ']']

/-- The character means more than itself to a shell. -/
def isActive (c : Char) : Bool := c ∈ activeChars

/-- A text of characters of a class without the active ones has no active one. -/
theorem not_isActive_of_class {member : Char → Bool} (hmember : activeChars.any member = false)
    {cs : List Char} (h : ∀ c ∈ cs, member c = true) : ∀ c ∈ cs, isActive c = false := by
  intro c hc
  refine eq_false_of_ne_true fun hactive => ?_
  exact List.any_eq_false.mp hmember c (of_decide_eq_true hactive) (h c hc)

/-- A character that is in no list of characters is not in the text of that list. A text that is
written out is compared with the list at once, where taking it apart would decode it. -/
theorem not_mem_toList_ofList {c : Char} {cs : List Char} (h : c ∉ cs) :
    c ∉ (String.ofList cs).toList := by
  rwa [String.toList_ofList]

/-- No fixed line of the script has a line break in it. -/
theorem break_not_mem_of_mem : ∀ line ∈ bootstrapLines, '\n' ∉ line.toList := by
  simp only [bootstrapLines, List.forall_mem_cons]
  repeat refine ⟨not_mem_toList_ofList (by decide), ?_⟩
  exact List.forall_mem_nil _

namespace Payload

variable (p : Payload)

/-- The lines that the script is meant to have. -/
def scriptLines : List String :=
  "#!/bin/bash" :: ("k8s_version=\"" ++ p.version ++ "\"") ::
    ("kubeadm_join_command=\"" ++ p.joinCommand ++ "\"") :: bootstrapLines

/-! ### The values of a payload -/

theorem isVersionChar_of_mem : ∀ c ∈ p.version.toList, isVersionChar c = true := by
  obtain ⟨v, hv⟩ := p.version_parses
  exact Version.isVersionChar_of_parse hv

theorem isJoinChar_of_mem : ∀ c ∈ p.joinCommand.toList, isJoinChar c = true :=
  isJoinChar_of_isJoinCommand p.joinCommand_accepted

/-- No character of the version is active. -/
theorem not_isActive_version : ∀ c ∈ p.version.toList, isActive c = false :=
  not_isActive_of_class (by decide) p.isVersionChar_of_mem

/-- No character of the join command is active. -/
theorem not_isActive_joinCommand : ∀ c ∈ p.joinCommand.toList, isActive c = false :=
  not_isActive_of_class (by decide) p.isJoinChar_of_mem

variable {p} {c : Char}

theorem not_mem_version (hc : isActive c = true) : c ∉ p.version.toList := fun hmem =>
  ne_true_of_eq_false (p.not_isActive_version c hmem) hc

theorem not_mem_joinCommand (hc : isActive c = true) : c ∉ p.joinCommand.toList := fun hmem =>
  ne_true_of_eq_false (p.not_isActive_joinCommand c hmem) hc

/-! ### The script -/

/-- A script with the fixed lines `fixed` is its lines, each with a break behind it. -/
theorem join_lines (version joinCommand : String) (fixed : List String) :
    "#!/bin/bash\nk8s_version=\"" ++ version ++ "\"\nkubeadm_join_command=\"" ++ joinCommand ++
        "\"\n" ++ String.join (fixed.map (· ++ "\n")) =
      String.join (("#!/bin/bash" :: ("k8s_version=\"" ++ version ++ "\"") ::
        ("kubeadm_join_command=\"" ++ joinCommand ++ "\"") :: fixed).map (· ++ "\n")) := by
  refine String.toList_inj.mp ?_
  simp [String.toList_join]

/-- The script is its lines, each with a break behind it. -/
theorem script_eq_join (p : Payload) : p.script = String.join (p.scriptLines.map (· ++ "\n")) :=
  join_lines p.version p.joinCommand bootstrapLines

/-- The lines of the script are those that it is meant to have. -/
theorem lines_script (p : Payload) :
    lines p.script.toList = p.scriptLines.map String.toList ++ [[]] := by
  have hscript : p.script.toList = (p.scriptLines.map String.toList).flatMap (· ++ ['\n']) := by
    rw [script_eq_join, String.toList_join, List.flatMap_map, List.flatMap_map]
    exact List.flatMap_congr fun line _ => String.toList_append
  rw [hscript]
  refine lines_unlines (List.forall_mem_map.mpr ?_)
  simp only [scriptLines, List.forall_mem_cons]
  refine ⟨not_mem_toList_ofList (by decide), ?_, ?_, break_not_mem_of_mem⟩
  · simp [not_mem_version (p := p) (c := '\n') rfl]
  · simp [not_mem_joinCommand (p := p) (c := '\n') rfl]

/-- The script shows both values, each in its own line. -/
theorem values_of_script {q : Payload} (h : p.script = q.script) :
    p.version = q.version ∧ p.joinCommand = q.joinCommand := by
  have hlines : p.scriptLines = q.scriptLines := by
    have hlists := p.lines_script.symm.trans (h ▸ q.lines_script)
    exact List.map_injective_iff.mpr (fun _ _ => String.toList_inj.mp)
      (List.append_cancel_right hlists)
  rw [scriptLines, scriptLines, List.cons.injEq, List.cons.injEq, List.cons.injEq] at hlines
  obtain ⟨-, hversion, hjoin, -⟩ := hlines
  simpa using And.intro hversion hjoin

/-- Whatever payload the check lets through, no character of its two values means more than itself
to a shell. So the script has the lines that it is meant to have, the join command has seven words,
and no other payload has the same script. -/
theorem script_exact (p : Payload) :
    make p.version p.joinCommand = .ok p ∧
      (∀ c ∈ p.version.toList, isVersionChar c = true ∧ isActive c = false) ∧
      (∀ c ∈ p.joinCommand.toList, isJoinChar c = true ∧ isActive c = false) ∧
      p.script = String.join (p.scriptLines.map (· ++ "\n")) ∧
      lines p.script.toList = p.scriptLines.map String.toList ++ [[]] ∧
      (∃ a : JoinArguments, words p.joinCommand.toList = a.words) ∧
      ∀ q : Payload, p.script = q.script → p.version = q.version ∧ p.joinCommand = q.joinCommand :=
  ⟨p.make_self, fun c hc => ⟨p.isVersionChar_of_mem c hc, p.not_isActive_version c hc⟩,
    fun c hc => ⟨p.isJoinChar_of_mem c hc, p.not_isActive_joinCommand c hc⟩, p.script_eq_join,
    p.lines_script, exists_words_of_isJoinCommand p.joinCommand_accepted,
    fun _ => values_of_script⟩

end Payload

end ElasticGroups.Boot
